import RegexHost.Pattern.CharSet
import RegexHost.Text.Utf8Cells

/-! The parts of a pattern. -/
namespace RegexHost.Pattern

inductive Anchor
  | lineStart | lineEnd
  | textStart | textEnd | lastLineEnd
  | searchStart
  | wordEdge | noWordEdge
  deriving DecidableEq, Repr

/-- How often something is repeated, and whether rather more or rather less often. -/
structure Bounds where
  lower : Nat
  upper : Option Nat
  greedy : Bool
  deriving DecidableEq, Repr

/-- Whether any number of turns is taken, and of those rather more. -/
def Bounds.isOpen (b : Bounds) : Bool :=
  b.greedy && b.upper.isNone

/-- A branch of several parts is a row of `seq`, several branches are a row of `alt`. What holds a
row together where it would run on is `grouped`. -/
inductive Node
  | literal (bytes : Bytes) (fold : Bool)
  | set (s : CharSet)
  | word (negated : Bool)
  | any (newlines : Bool)
  /-- The text of the first of these groups that took part. Stands `inside` if one is still open. -/
  | backref (groups : List Nat) (fold inside : Bool)
  | anchor (a : Anchor)
  /-- Says that the match begins here. -/
  | keep
  | fail
  | quantified (b : Bounds) (body : Node)
  | capture (group : Nat) (body : Node)
  | atomic (body : Node)
  | grouped (body : Node)
  | ahead (negated : Bool) (body : Node)
  | behind (negated : Bool) (body : Node)
  | seq (a b : Node)
  | alt (a b : Node)
  deriving DecidableEq, Repr, Inhabited

namespace Node

def empty : Node :=
  literal [] false

def ofCodes (codes : List Nat) (fold : Bool) : Node :=
  literal (codes.flatMap Utf8.encodeCode) fold

def referenced : Node → List Nat
  | backref groups _ _ => groups
  | quantified _ body | capture _ body | atomic body | grouped body | ahead _ body
  | behind _ body =>
    body.referenced
  | seq a b | alt a b => a.referenced ++ b.referenced
  | _ => []

def captures : Node → List (Nat × Node)
  | capture n body => (n, body) :: body.captures
  | quantified _ body | atomic body | grouped body | ahead _ body | behind _ body => body.captures
  | seq a b | alt a b => a.captures ++ b.captures
  | _ => []

/-- A row of parts. A row at the end of another one stays apart from it. -/
def row : List Node → Node
  | [] => empty
  | [n] => n
  | [n, m@(seq ..)] => seq n (seq m empty)
  | n :: ns => seq n (row ns)

def parts : Node → List Node
  | seq a b => a :: b.parts
  | n => [n]

/-- The branches of a choice. A choice in the last place stays a branch. -/
def choice : List Node → Node
  | [] => empty
  | [n] => n
  | [n, m@(alt ..)] => alt n (grouped m)
  | n :: ns => alt n (choice ns)

def branches : Node → List Node
  | alt a b => a :: b.branches
  | n => [n]

/-- Joins strings that follow one another in a row. -/
def joinStrings : Node → Node
  | seq (literal s f) rest =>
    match rest.joinStrings with
    | seq (literal t g) more =>
      if f = g then seq (literal (s ++ t) f) more else seq (literal s f) (seq (literal t g) more)
    | literal t g =>
      if f = g then seq (literal (s ++ t) f) empty else seq (literal s f) (literal t g)
    | rest => seq (literal s f) rest
  | seq a b => seq a.joinStrings b.joinStrings
  | alt a b => alt a.joinStrings b.joinStrings
  | quantified b body => quantified b body.joinStrings
  | capture n body => capture n body.joinStrings
  | atomic body => atomic body.joinStrings
  | grouped body => grouped body.joinStrings
  | ahead negated body => ahead negated body.joinStrings
  | behind negated body => behind negated body.joinStrings
  | node => node

end RegexHost.Pattern.Node

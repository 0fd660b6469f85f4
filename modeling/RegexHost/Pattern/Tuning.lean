import RegexHost.Pattern.CharKind
import RegexHost.Pattern.Extent

/-! Patterns made ready for coding: case is spelled out, look-behinds are settled, and repetitions
that the part after them can never share a character with give nothing back. -/
namespace RegexHost.Pattern

namespace Node

/-- A character or a string that no empty text matches. -/
def isReal : Node → Bool
  | literal bytes _ => !bytes.isEmpty
  | set _ | word _ | any _ => true
  | _ => false

/-- What every match begins with: a string, a set or a word character. -/
def head? : Node → Option Node
  | literal [] _ => none
  | literal bytes fold => some (literal bytes fold)
  | set s => some (set s)
  | word negated => some (word negated)
  | seq a _ => head? a
  | quantified b body => if 0 < b.lower then head? body else none
  | capture _ body | atomic body | grouped body | ahead false body => head? body
  | _ => none

/-- What every match ends with. Positions at the end are passed over, as the outer `none` tells. -/
def tail? : Node → Option (Option Node)
  | literal [] _ => none
  | literal bytes fold => some (if fold then none else some (literal bytes fold))
  | set s => some (some (set s))
  | word negated => some (some (word negated))
  | seq a b =>
    match tail? b with
    | none => tail? a
    | found => found
  | quantified b body => if 0 < b.lower then tail? body else some none
  | capture _ body | atomic body | grouped body => tail? body
  | anchor _ | ahead .. | behind .. | keep | fail => none
  | _ => some none

end Node

namespace CharSet

def holdsByte (s : CharSet) (b : Nat) : Bool :=
  s.bytes.contains b != s.negated

def holdsCode (s : CharSet) (c : Nat) : Bool :=
  (if c < firstWide then s.bytes.contains c else s.wide.contains c) != s.negated

def bytesOnly (s : CharSet) : Bool :=
  !s.tellsWide && !s.negated

def anyByte (p : Nat → Bool) : Bool :=
  (List.range (lastByte + 1)).any p

def apart (s t : CharSet) : Bool :=
  !(anyByte fun b => s.holdsByte b && t.holdsByte b) && (s.bytesOnly || t.bytesOnly)

/-- Whether a set and the word characters, or the others, have no character in common. -/
def apartFromWord (s : CharSet) (negated : Bool) : Bool :=
  s.bytesOnly && !(anyByte fun b => s.bytes.contains b && CharKind.wordInText.contains b != negated)

end CharSet

namespace Tuning

def firstCode (bytes : Bytes) : Nat :=
  match Utf8.cells bytes with
  | cell :: _ => Utf8.value cell
  | [] => 0

/-- Whether two beginnings are seen to exclude each other. -/
def excludes : Node → Node → Bool
  | .literal s _, .literal t _ => (s.zip t).any fun p => p.1 ≠ p.2
  | .literal s _, .word negated | .word negated, .literal s _ =>
    CharKind.wordInText.contains (firstCode s) == negated
  | .literal s _, .set t | .set t, .literal s _ => !t.holdsCode (firstCode s)
  | .word n, .word m => n != m
  | .word negated, .set s | .set s, .word negated => s.apartFromWord negated
  | .set s, .set t => s.apart t
  | _, _ => false

/-- A repetition before `next` that need not give back what it took. -/
def sealBefore (next : Node) : Node → Node
  | .quantified b body =>
    match body.head?, next.head? with
    | some x, some y =>
      if b.isOpen && b.lower ≤ 1 && body.isReal && excludes x y then .atomic (.quantified b body)
      else .quantified b body
    | _, _ => .quantified b body
  | .capture n body => .capture n (sealBefore next body)
  | node => node

/-- A string repeated a fixed number of times is written out up to this length. -/
def stringLimit : Nat := 100

def writeOut (b : Bounds) : Node → Node
  | .literal bytes false =>
    if 1 < b.lower ∧ b.upper = some b.lower ∧ b.lower ≤ stringLimit ∧
      bytes.length * b.lower ≤ stringLimit then
      .literal (List.replicate b.lower bytes).flatten false
    else .quantified b (.literal bytes false)
  | body => .quantified b body

def oneOf (codes : List Nat) : Node :=
  .set (codes.foldl (fun s c => s.insertCode c) .empty)

/-- A string before other parts, joined to one that begins them. -/
def consLiteral (bytes : Bytes) : List Node → List Node
  | .literal more false :: parts => .literal (bytes ++ more) false :: parts
  | parts => .literal bytes false :: parts

/-- The parts of a string, with all that differs in case only. A look-behind keeps to single
characters of one width. -/
def spellOut (inBehind : Bool) : Nat → List Bytes → List Node
  | 0, _ => []
  | _, [] => []
  | fuel + 1, cell :: cells =>
    let code := Utf8.value cell
    if inBehind then
      let singles := (CaseFold.substitutes [code]).2.filterMap fun
        | [c] => some c
        | _ => none
      if singles = [] then consLiteral cell (spellOut inBehind fuel cells)
      else oneOf (code :: singles) :: spellOut inBehind fuel cells
    else
      match CaseFold.substitutes (code :: cells.map Utf8.value) with
      | (_, []) => consLiteral cell (spellOut inBehind fuel cells)
      | (n, others) =>
        let here := (cell :: cells).take n
        let rest := spellOut inBehind fuel ((cell :: cells).drop n)
        let singles := others.filterMap fun
          | [c] => some c
          | _ => none
        if n = 1 ∧ singles.length = others.length then oneOf (code :: singles) :: rest
        else
          Node.choice (.literal here.flatten false :: others.map fun o => .ofCodes o false) :: rest

def spelled (inBehind : Bool) (bytes : Bytes) : Node :=
  let cells := Utf8.cells bytes
  Node.row (spellOut inBehind cells.length cells)

/-- Whether a look-behind can hold a part. A negated one has no groups. -/
def fitsBehind (negated : Bool) : Node → Bool
  | .anchor a => a ≠ .textEnd && a ≠ .lastLineEnd
  | .ahead .. => false
  | .behind n body => (negated || !n) && fitsBehind negated body
  | .capture _ body => !negated && fitsBehind negated body
  | .quantified _ body | .atomic body | .grouped body => fitsBehind negated body
  | .seq a b | .alt a b => fitsBehind negated a && fitsBehind negated b
  | _ => true

/-- A repetition at the start of a look-behind takes no more than it must. Tells whether nothing is
left. -/
def leastTurns : Node → Node × Bool
  | .quantified b body =>
    match body with
    | .literal .. | .set _ | .word _ | .any _ | .backref .. =>
      (.quantified { b with upper := some b.lower } body, b.lower = 0)
    | _ => (.quantified b body, false)
  | node => (node, false)

/-- The same for a row, as long as nothing is left of its parts. -/
def leastRow : Node → Node × Bool
  | .seq a b =>
    match leastTurns a with
    | (a, true) => let (b, gone) := leastRow b; (.seq a b, gone)
    | (a, false) => (.seq a b, false)
  | node => leastTurns node

/-- The same for each branch. A row of several parts of which nothing is left is a fault. -/
def leastBranches : Node → Except Diagnostic Node
  | .alt a b => do return .alt (← branch a) (← leastBranches b)
  | node => branch node
where
  branch : Node → Except Diagnostic Node
    | .seq a b =>
      match leastRow (.seq a b) with
      | (_, true) => .error .undefined
      | (node, false) => .ok node
    | node => .ok (leastTurns node).1

/-- The greatest number of characters that a look-behind steps back at once. -/
def behindLimit : Nat := 65535

/-- Whether branches after the first one each take a fixed number of characters. -/
def laterFixed (table : GroupTable) : List Node → Except Diagnostic Bool
  | [] => .ok true
  | _ :: later => do
    let spans ← later.mapM (Node.chars table)
    return spans.all (·.extent.isFixed)

/-- A look-behind whose body is tuned. One that an empty text surely meets is settled at once. -/
def settled (table : GroupTable) (refs : List Nat) (negated : Bool) (body : Node) :
    Except Diagnostic (Node × Bool) := do
  let body ← leastBranches body
  let span ← body.chars table
  if behindLimit < span.extent.least || span.extent.most.any (behindLimit < ·) then
    throw .invalidLookBehind
  if span.extent.least = 0 && span.sure && !(body.captures.any fun c => refs.contains c.1) then
    return (if negated then .fail else .empty, false)
  let divided ← match body with
    | .alt .. => laterFixed table body.branches
    | _ => pure false
  return (.behind negated body, divided && !span.extent.isFixed)

/-- A look-behind whose branches take different fixed numbers of characters looks back once for
each. -/
def lookBehind (table : GroupTable) (refs : List Nat) (negated : Bool) (body : Node) :
    Except Diagnostic Node := do
  match ← settled table refs negated body with
  | (.behind _ body, true) => do
    let each ← body.branches.mapM fun b => return (← settled table refs negated b).1
    return if negated then Node.row each else Node.choice each
  | (node, _) => return node

/-- Groups are known as far as they are tuned. -/
abbrev Tuner := StateT GroupTable (Except Diagnostic)

/-- The last part of a row, kept apart if it became a row itself. -/
def lastPart (wasRow : Bool) : Node → Node
  | .seq a b => if wasRow then .seq a b else .seq (.seq a b) .empty
  | node => node

def lastBranch (wasChoice : Bool) : Node → Node
  | .alt a b => if wasChoice then .alt a b else .grouped (.alt a b)
  | node => node

def isRow : Node → Bool
  | .seq .. => true
  | _ => false

def isChoice : Node → Bool
  | .alt .. => true
  | _ => false

def firstPart : Node → Node
  | .seq a _ => a
  | node => node

/-- Tunes a node. `refs` are the groups that the pattern refers to. -/
def tune (refs : List Nat) (inBehind : Bool) : Node → Tuner Node
  | .literal bytes true =>
    return if bytes.isEmpty then .literal bytes true else spelled inBehind bytes
  | .quantified b body => return writeOut b (← tune refs inBehind body)
  | .capture n body => do
    let body ← tune refs inBehind body
    modify fun table => (n, body) :: table
    return .capture n body
  | .atomic body => return .atomic (← tune refs inBehind body)
  | .grouped body => return .grouped (← tune refs inBehind body)
  | .ahead negated body => return .ahead negated (← tune refs inBehind body)
  | .behind negated body => do
    unless fitsBehind negated body do throw .invalidLookBehind
    let body ← tune refs true body
    (lookBehind (← get) refs negated body : Except Diagnostic Node)
  | .seq a b => do
    let first ← tune refs inBehind a
    let rest := lastPart (isRow b) (← tune refs inBehind b)
    let next := if isRow b then firstPart rest else rest
    return .seq (sealBefore next first) rest
  | .alt a b => do
    let first ← tune refs inBehind a
    return .alt first (lastBranch (isChoice b) (← tune refs inBehind b))
  | node => return node

end Tuning

def tuned (node : Node) : Except Diagnostic Node := do
  return (← (Tuning.tune node.referenced false node).run node.captures).1

end RegexHost.Pattern

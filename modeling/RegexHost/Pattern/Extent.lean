import RegexHost.Pattern.Diagnostic
import RegexHost.Pattern.Syntax

/-! How much text a part of a pattern takes, in bytes and in characters. -/
namespace RegexHost.Pattern

structure Extent where
  least : Nat
  most : Option Nat
  deriving DecidableEq, Repr, Inhabited

namespace Extent

def exactly (n : Nat) : Extent :=
  ⟨n, some n⟩

def anything : Extent :=
  ⟨0, none⟩

/-- Lengths from here on count as endless. -/
def endless : Nat := 4294967295

def capped (n : Nat) : Option Nat :=
  if n < endless then some n else none

def add (a b : Extent) : Extent :=
  ⟨a.least + b.least, do capped ((← a.most) + (← b.most))⟩

def either (a b : Extent) : Extent :=
  ⟨min a.least b.least, do return max (← a.most) (← b.most)⟩

def repeated (b : Bounds) (e : Extent) : Extent :=
  ⟨e.least * b.lower,
    if e.most = some 0 || b.upper = some 0 then some 0 else do capped ((← e.most) * (← b.upper))⟩

def isFixed (e : Extent) : Bool :=
  e.most = some e.least

end Extent

abbrev GroupTable := List (Nat × Node)

def maxCharBytes : Nat := 4

namespace Node

/-- The bytes that a match takes, `group` telling those of a group. The groups that are being looked
into are taken for anything. -/
def bytesWith (group : List Nat → Nat → Extent) : List Nat → Node → Extent
  | _, literal bytes _ => .exactly bytes.length
  | _, set _ | _, word _ | _, any _ => ⟨1, some maxCharBytes⟩
  | entered, backref groups _ inside =>
    if inside then .anything
    else match groups.map (group entered) with
      | [] => .exactly 0
      | e :: es => es.foldl .either e
  | _, anchor _ | _, keep | _, fail | _, ahead .. | _, behind .. => .exactly 0
  | entered, quantified b body => (body.bytesWith group entered).repeated b
  | entered, capture n body =>
    if entered.contains n then .anything else body.bytesWith group (n :: entered)
  | entered, atomic body | entered, grouped body => body.bytesWith group entered
  | entered, seq a b => (a.bytesWith group entered).add (b.bytesWith group entered)
  | entered, alt a b => (a.bytesWith group entered).either (b.bytesWith group entered)

def groupBytes (table : GroupTable) : Nat → List Nat → Nat → Extent
  | 0, _, _ => .anything
  | fuel + 1, entered, n =>
    match table.lookup n with
    | some body => (capture n body).bytesWith (groupBytes table fuel) entered
    | none => .exactly 0

def bytes (table : GroupTable) (node : Node) : Extent :=
  node.bytesWith (groupBytes table (table.length + 1)) []

/-- Characters, and whether the least number is one that really can be met. -/
structure Span where
  extent : Extent
  sure : Bool
  deriving DecidableEq, Repr

def Span.either (a b : Span) : Span where
  extent := a.extent.either b.extent
  sure :=
    if b.extent.least < a.extent.least then b.sure
    else if a.extent.least < b.extent.least then a.sure
    else a.sure || b.sure

/-- The characters that a match takes. Text that is still to be read without regard to case has no
width. -/
def charsWith (group : List Nat → Nat → Except Diagnostic Span) :
    List Nat → Node → Except Diagnostic Span
  | _, literal bytes fold =>
    if fold then .error .invalidLookBehind else .ok ⟨.exactly (Utf8.cells bytes).length, true⟩
  | _, set _ | _, word _ | _, any _ => .ok ⟨.exactly 1, true⟩
  | entered, backref groups _ inside =>
    if inside then .ok ⟨.anything, false⟩
    else do
      match ← groups.mapM (group entered) with
      | [] => return ⟨.exactly 0, false⟩
      | e :: es => return es.foldl .either e
  | _, keep | _, fail => .ok ⟨.exactly 0, true⟩
  | _, anchor _ | _, ahead .. | _, behind .. => .ok ⟨.exactly 0, false⟩
  | entered, quantified b body => do
    if b.upper = some 0 then return ⟨.exactly 0, true⟩
    let s ← body.charsWith group entered
    return ⟨if b.upper.isNone then ⟨s.extent.least * b.lower, none⟩ else s.extent.repeated b,
      s.sure⟩
  | entered, capture n body =>
    if entered.contains n then .ok ⟨.anything, false⟩
    else (body.charsWith group (n :: entered)).map fun s => { s with sure := false }
  | entered, atomic body | entered, grouped body => body.charsWith group entered
  | entered, seq a b => do
    let s ← a.charsWith group entered
    let t ← b.charsWith group entered
    return ⟨s.extent.add t.extent, s.sure && t.sure⟩
  | entered, alt a b => do
    let s ← a.charsWith group entered
    let t ← b.charsWith group entered
    return s.either t

def groupChars (table : GroupTable) : Nat → List Nat → Nat → Except Diagnostic Span
  | 0, _, _ => .ok ⟨.anything, false⟩
  | fuel + 1, entered, n =>
    match table.lookup n with
    | some body => (capture n body).charsWith (groupChars table fuel) entered
    | none => .ok ⟨.exactly 0, false⟩

def chars (table : GroupTable) (node : Node) : Except Diagnostic Span :=
  node.charsWith (groupChars table (table.length + 1)) []

end RegexHost.Pattern.Node

import RegexHost.Text.Offset

/-! Text that callers index in 16-bit code units, kept beside the UTF-8 text that is searched. -/
namespace RegexHost

/-- Lone surrogates are U+FFFD on the UTF-8 side. -/
structure UnitText where
  units : Utf16.Units
  text : String
  toList_text : text.toList = Utf16.decode units
  deriving DecidableEq, Repr

namespace UnitText

def ofUnits (us : Utf16.Units) : UnitText :=
  ⟨us, .ofList (Utf16.decode us), String.toList_ofList⟩

def ofString (s : String) : UnitText :=
  ⟨Utf16.encode s.toList, s, (Utf16.decode_encode s.toList).symm⟩

def empty : UnitText :=
  ⟨[], "", rfl⟩

instance : Inhabited UnitText := ⟨empty⟩

def bytes (t : UnitText) : Bytes :=
  Utf8.encode t.text.toList

def length (t : UnitText) : Nat :=
  t.units.length

def isEmpty (t : UnitText) : Bool :=
  t.units.isEmpty

def byteOffset (t : UnitText) (i : Nat) : Nat :=
  RegexHost.byteOffset t.units i

def unitOffset (t : UnitText) (b : Nat) : Nat :=
  RegexHost.unitOffset t.bytes b

/-- The text of the units from `i` up to `j`, if that is a range of the text. -/
def substring? (t : UnitText) (i j : Nat) : Option String :=
  if i ≤ j ∧ j ≤ t.length then some (.ofList (Utf16.decode ((t.units.take j).drop i))) else none

end RegexHost.UnitText

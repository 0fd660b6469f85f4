import RegexHost.Native.Exports

/-! The engine inside as the exports call it. An anchor is switched off by an option bit. -/
namespace RegexHost.Native

/-- Patterns of type `ρ`, searches of a text from a start to the end of a range, and the bits that
keep `\G` and `\A` from matching. -/
structure Inner (ρ : Type) where
  compile : List Char → Work ρ
  search : ρ → Bytes → Nat → Nat → UInt32 → Work (Option Region)
  notBeginPosition : UInt32
  notBeginString : UInt32

namespace Inner

variable {ρ : Type} (inner : Inner ρ)

def anchorOptions (beginPosition beginString : Bool) : UInt32 :=
  (if beginPosition then 0 else inner.notBeginPosition) |||
    (if beginString then 0 else inner.notBeginString)

/-- Every search goes to the end of its text. -/
def core : Core ρ where
  compile := inner.compile
  search p text offset beginPosition beginString :=
    inner.search p text offset text.length (inner.anchorOptions beginPosition beginString)

end RegexHost.Native.Inner

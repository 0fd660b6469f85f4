import RegexHost.Text.Utf8Cells

/-! Text laid out for searching. A search may begin inside a character. -/
namespace RegexHost.Pattern

structure Subject where
  bytes : Array UInt8
  start : Nat
  beginPosition : Bool
  beginText : Bool
  deriving Repr, Inhabited

namespace Subject

def ofBytes (bytes : Bytes) (start : Nat) (beginPosition beginText : Bool) : Subject :=
  ⟨bytes.toArray, start, beginPosition, beginText⟩

variable (t : Subject)

@[inline] def size : Nat :=
  t.bytes.size

/-- Past the end there is nothing but zeros. -/
@[inline] def byte (pos : Nat) : UInt8 :=
  t.bytes.getD pos 0

/-- The bytes of the character at a place, as its first one tells. -/
@[inline] def span (pos : Nat) : Nat :=
  Utf8.span (t.byte pos)

/-- The place after the character at `pos`. -/
@[inline] def after (pos : Nat) : Nat :=
  pos + t.span pos

@[inline] def isNewline (pos : Nat) : Bool :=
  t.byte pos = 0x0A

/-- The nearest place from `pos` back where a character begins, but no place before `low`. -/
def headFrom (low : Nat) : Nat → Nat
  | 0 => 0
  | pos + 1 =>
    if low ≤ pos && Utf8.isContinuation (t.byte (pos + 1)) then headFrom low pos else pos + 1

def before (pos : Nat) : Nat :=
  t.headFrom 0 (pos - 1)

/-- The nearest place from `pos` on where a character begins, as seen from `low`. -/
def rightHead (low pos : Nat) : Nat :=
  let head := t.headFrom low pos
  if head < pos then t.after head else head

def slice (first last : Nat) : Bytes :=
  (t.bytes.extract first last).toList

/-- The code of the character at a place, of which the text may hold a part only. -/
def code (pos : Nat) : Nat :=
  if t.span pos = 1 then Utf8.value [t.byte pos] else Utf8.value (t.slice pos (t.after pos))

def comes : Bytes → Nat → Bool
  | [], _ => true
  | b :: bs, pos => t.byte pos = b && comes bs (pos + 1)

def back : Nat → Nat → Option Nat
  | 0, pos => some pos
  | n + 1, pos => if pos = 0 then none else back n (t.before pos)

end RegexHost.Pattern.Subject

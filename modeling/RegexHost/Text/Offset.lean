import RegexHost.Text.Utf16

/-! Positions in code units and positions in bytes of the same text. -/
namespace RegexHost

/-- The byte position of a unit position. Inside a surrogate pair it is the end of the pair, past
the text the end of the text. -/
def byteOffset : Utf16.Units → Nat → Nat
  | _, 0 => 0
  | [], _ => 0
  | [u], _ => Utf8.width u.toNat
  | u :: v :: us, n + 1 =>
    if Utf16.isHigh u && Utf16.isLow v then Utf8.width (Utf16.combine u v) + byteOffset us (n - 1)
    else Utf8.width u.toNat + byteOffset (v :: us) n

/-- The unit position of a byte position: the units of what the bytes before it decode to. -/
def unitOffset (bytes : Bytes) (b : Nat) : Nat :=
  match Utf8.decode? (bytes.take b) with
  | .ok cs => cs.foldr (fun c n => Utf16.width c + n) 0
  | .error _ => (Utf16.encode (Utf8.decode (bytes.take b))).length

end RegexHost

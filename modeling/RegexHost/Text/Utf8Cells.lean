import RegexHost.Text.Utf8

/-! Bytes read as UTF-8 without checks. The first byte alone tells the length of a character; a byte
that cannot be a first one counts as a character of its own. -/
namespace RegexHost.Utf8

def isContinuation (b : UInt8) : Bool :=
  0x80 ≤ b && b < 0xC0

/-- The length of a character that begins with this byte. -/
@[inline] def span (b : UInt8) : Nat :=
  if b < 0xC0 then 1
  else if b < 0xE0 then 2
  else if b < 0xF0 then 3
  else if b < 0xF8 then 4
  else 1

/-- The value of a character's bytes, which may be fewer than its first byte asks for. The two bytes
that no text holds have values past all codes. -/
def value : Bytes → Nat
  | [] => 0
  | [b] => if b.toNat < 0xFE then b.toNat else 0xFFFFFF00 + b.toNat
  | b :: more =>
    more.foldl (fun n c => n * 64 + c.toNat % 64) (b.toNat % Nat.pow 2 (6 - more.length))

def cellsFrom : Nat → Bytes → List Bytes
  | 0, _ => []
  | _, [] => []
  | fuel + 1, b :: bs => (b :: bs.take (span b - 1)) :: cellsFrom fuel (bs.drop (span b - 1))

/-- The characters of a text, each as its bytes. -/
def cells (bs : Bytes) : List Bytes :=
  cellsFrom bs.length bs

/-- Whether characters follow one another without a gap, as far as first bytes tell. -/
def fitsFrom : Nat → Bytes → Bool
  | n, [] => n = 0
  | 0, b :: bs => !isContinuation b && fitsFrom (span b - 1) bs
  | n + 1, b :: bs => isContinuation b && fitsFrom n bs

def fits (bs : Bytes) : Bool :=
  fitsFrom 0 bs

/-- The bytes of a code, unless it is too large. -/
def encodeCode (n : Nat) : Bytes :=
  if n < 0x80 then [.ofNat n]
  else if n < 0x800 then [.ofNat (0xC0 + n / 64), .ofNat (0x80 + n % 64)]
  else if n < 0x10000 then
    [.ofNat (0xE0 + n / 4096), .ofNat (0x80 + n / 64 % 64), .ofNat (0x80 + n % 64)]
  else
    [.ofNat (0xF0 + n / 262144), .ofNat (0x80 + n / 4096 % 64), .ofNat (0x80 + n / 64 % 64),
      .ofNat (0x80 + n % 64)]

end RegexHost.Utf8

/-! UTF-8, written by arithmetic and read one byte at a time. A byte that a begun sequence cannot
take ends that sequence and is read again as a first byte, so each maximal ill-formed part yields
one U+FFFD. -/
namespace RegexHost

abbrev Bytes := List UInt8

/-- Stands for whatever could not be decoded. -/
def replacement : Char := '\uFFFD'

namespace Utf8

def width (n : Nat) : Nat :=
  if n < 0x80 then 1 else if n < 0x800 then 2 else if n < 0x10000 then 3 else 4

def encodeChar (c : Char) : Bytes :=
  let n := c.toNat
  if n < 0x80 then [.ofNat n]
  else if n < 0x800 then [.ofNat (0xC0 + n / 64), .ofNat (0x80 + n % 64)]
  else if n < 0x10000 then
    [.ofNat (0xE0 + n / 4096), .ofNat (0x80 + n / 64 % 64), .ofNat (0x80 + n % 64)]
  else
    [.ofNat (0xF0 + n / 262144), .ofNat (0x80 + n / 4096 % 64), .ofNat (0x80 + n / 64 % 64),
      .ofNat (0x80 + n % 64)]

def encode (cs : List Char) : Bytes :=
  cs.flatMap encodeChar

/-- A sequence begun: the bytes it has and lacks, the bounds of its next byte, and its bits so
far. -/
structure Begun where
  seen : Nat
  left : Nat
  low : Nat
  high : Nat
  bits : Nat
  deriving DecidableEq, Repr

/-- Between characters, or inside one. -/
abbrev State := Option Begun

/-- What a first byte yields. Overlong forms, surrogates and values past U+10FFFF are ruled out by
the bounds on the second byte. -/
def first (b : UInt8) : List Char × State :=
  let n := b.toNat
  if n < 0x80 then ([Char.ofNat n], none)
  else if n < 0xC2 then ([replacement], none)
  else if n < 0xE0 then ([], some ⟨1, 1, 0x80, 0xBF, n - 0xC0⟩)
  else if n < 0xF0 then
    ([], some ⟨1, 2, if n = 0xE0 then 0xA0 else 0x80, if n = 0xED then 0x9F else 0xBF, n - 0xE0⟩)
  else if n < 0xF5 then
    ([], some ⟨1, 3, if n = 0xF0 then 0x90 else 0x80, if n = 0xF4 then 0x8F else 0xBF, n - 0xF0⟩)
  else ([replacement], none)

/-- Whether a begun sequence can go on with this byte. -/
def Begun.takes (p : Begun) (b : UInt8) : Bool :=
  p.low ≤ b.toNat && b.toNat ≤ p.high

def step : State → UInt8 → List Char × State
  | none, b => first b
  | some p, b =>
    if p.takes b then
      let bits := p.bits * 64 + (b.toNat - 0x80)
      if p.left = 1 then ([Char.ofNat bits], none)
      else ([], some ⟨p.seen + 1, p.left - 1, 0x80, 0xBF, bits⟩)
    else (replacement :: (first b).1, (first b).2)

def decodeFrom : State → Bytes → List Char
  | none, [] => []
  | some _, [] => [replacement]
  | s, b :: bs => (step s b).1 ++ decodeFrom (step s b).2 bs

def decode (bs : Bytes) : List Char :=
  decodeFrom none bs

/-- The first ill-formed part: where it starts and, unless the input ends inside it, its length. -/
structure Fault where
  index : Nat
  length : Option Nat
  deriving DecidableEq, Repr

/-- Whether a byte can start a character. -/
def startsChar (b : UInt8) : Bool :=
  b.toNat < 0x80 || (0xC2 ≤ b.toNat && b.toNat < 0xF5)

def faultFrom (pos : Nat) : State → Bytes → Option Fault
  | none, [] => none
  | some p, [] => some ⟨pos - p.seen, none⟩
  | none, b :: bs =>
    if startsChar b then faultFrom (pos + 1) (first b).2 bs else some ⟨pos, some 1⟩
  | some p, b :: bs =>
    if p.takes b then faultFrom (pos + 1) (step (some p) b).2 bs
    else some ⟨pos - p.seen, some p.seen⟩

def fault? (bs : Bytes) : Option Fault :=
  faultFrom 0 none bs

/-- Decodes well-formed bytes only. -/
def decode? (bs : Bytes) : Except Fault (List Char) :=
  match fault? bs with
  | some f => .error f
  | none => .ok (decode bs)

def Fault.message (f : Fault) : String :=
  match f.length with
  | some n => s!"invalid utf-8 sequence of {n} bytes from index {f.index}"
  | none => s!"incomplete utf-8 byte sequence from index {f.index}"

end RegexHost.Utf8

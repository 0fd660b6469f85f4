import RegexHost.Text.Utf8

/-! UTF-16 code units. Decoding pairs a high surrogate with the low one right after it and reads any
other surrogate as U+FFFD. -/
namespace RegexHost.Utf16

abbrev Units := List UInt16

def isHigh (u : UInt16) : Bool :=
  0xD800 ≤ u.toNat && u.toNat < 0xDC00

def isLow (u : UInt16) : Bool :=
  0xDC00 ≤ u.toNat && u.toNat < 0xE000

def combine (high low : UInt16) : Nat :=
  (high.toNat - 0xD800) * 1024 + (low.toNat - 0xDC00) + 0x10000

/-- A unit that stands alone. -/
def lone (u : UInt16) : Char :=
  if isHigh u || isLow u then replacement else Char.ofNat u.toNat

def decode : Units → List Char
  | [] => []
  | [u] => [lone u]
  | u :: v :: us =>
    if isHigh u && isLow v then Char.ofNat (combine u v) :: decode us
    else lone u :: decode (v :: us)

def width (c : Char) : Nat :=
  if c.toNat < 0x10000 then 1 else 2

def encodeChar (c : Char) : Units :=
  let n := c.toNat
  if n < 0x10000 then [.ofNat n]
  else [.ofNat (0xD800 + (n - 0x10000) / 1024), .ofNat (0xDC00 + (n - 0x10000) % 1024)]

def encode (cs : List Char) : Units :=
  cs.flatMap encodeChar

/-- The position after the character at `i`: a high surrogate is stepped over together with the
unit that follows it. -/
def next (us : Units) (i : Nat) : Nat :=
  match us[i]? with
  | some u => if isHigh u then i + 2 else i + 1
  | none => i + 1

theorem isHigh_iff (u : UInt16) : isHigh u = true ↔ 0xD800 ≤ u.toNat ∧ u.toNat < 0xDC00 := by
  simp [isHigh]

theorem isLow_iff (u : UInt16) : isLow u = true ↔ 0xDC00 ≤ u.toNat ∧ u.toNat < 0xE000 := by
  simp [isLow]

theorem decode_cons_of_not_high {u : UInt16} (hu : isHigh u = false) (us : Units) :
    decode (u :: us) = lone u :: decode us := by
  cases us with
  | nil => rfl
  | cons v us => simp [decode, hu]

/-- A character in one unit is not a surrogate, one in two units is a pair. -/
theorem decode_encodeChar_append (c : Char) (us : Units) :
    decode (encodeChar c ++ us) = c :: decode us := by
  have hv : c.toNat < 0xD800 ∨ 0xDFFF < c.toNat ∧ c.toNat < 0x110000 := c.valid
  by_cases hc : c.toNat < 0x10000
  · have hn : (UInt16.ofNat c.toNat).toNat = c.toNat := by
      rw [UInt16.toNat_ofNat', Nat.mod_eq_of_lt hc]
    have hh : isHigh (.ofNat c.toNat) = false := by
      simp only [isHigh, hn, Bool.and_eq_false_iff, decide_eq_false_iff_not]
      omega
    have hl : isLow (.ofNat c.toNat) = false := by
      simp only [isLow, hn, Bool.and_eq_false_iff, decide_eq_false_iff_not]
      omega
    simp only [encodeChar, hc, if_true, List.singleton_append, decode_cons_of_not_high hh, lone, hh,
      hl, Bool.or_self, Bool.false_eq_true, if_false, hn, Char.ofNat_toNat]
  · have hhi : (UInt16.ofNat (0xD800 + (c.toNat - 0x10000) / 1024)).toNat =
        0xD800 + (c.toNat - 0x10000) / 1024 := by
      rw [UInt16.toNat_ofNat', Nat.mod_eq_of_lt (by omega)]
    have hlo : (UInt16.ofNat (0xDC00 + (c.toNat - 0x10000) % 1024)).toNat =
        0xDC00 + (c.toNat - 0x10000) % 1024 := by
      rw [UInt16.toNat_ofNat', Nat.mod_eq_of_lt (by omega)]
    have hh := (isHigh_iff (.ofNat (0xD800 + (c.toNat - 0x10000) / 1024))).mpr (by omega)
    have hl := (isLow_iff (.ofNat (0xDC00 + (c.toNat - 0x10000) % 1024))).mpr (by omega)
    have hcp : combine (.ofNat (0xD800 + (c.toNat - 0x10000) / 1024))
        (.ofNat (0xDC00 + (c.toNat - 0x10000) % 1024)) = c.toNat := by
      simp only [combine, hhi, hlo]
      omega
    simp only [encodeChar, hc, if_false, List.cons_append, List.nil_append, decode, hh, hl,
      Bool.and_self, if_true, hcp, Char.ofNat_toNat]

theorem decode_encode (cs : List Char) : decode (encode cs) = cs := by
  induction cs with
  | nil => rfl
  | cons c cs ih => rw [encode, List.flatMap_cons, decode_encodeChar_append, ← encode, ih]

end RegexHost.Utf16

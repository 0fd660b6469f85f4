import RegexHost.Proofs.Text.Place

/-! The two sides of a text. The UTF-8 side is the units with each surrogate that stands alone
replaced, so either side tells the length of the other, and the units tell all. -/
namespace RegexHost

namespace Utf16

/-- Whether the unit at `i` is a surrogate that is no half of a pair. -/
def loneAt (us : Units) (i : Nat) : Bool :=
  us[i]?.any (fun u => isHigh u || isLow u) && !insidePair us i && !insidePair us (i + 1)

/-- Each surrogate that stands alone becomes U+FFFD, and every other unit stays. -/
def mended (us : Units) : Units :=
  us.mapIdx fun i u => if loneAt us i then 0xFFFD else u

/-- Pairs behind a unit do not depend on it, unless it is a half of the first one. -/
theorem insidePair_cons {u : UInt16} {us : Units} (h : insidePair (u :: us) 1 = false) (i : Nat) :
    insidePair (u :: us) (i + 1) = insidePair us i := by
  cases i with
  | zero => exact h
  | succ i => exact insidePair_cons_of_pos u us (Nat.succ_pos i)

theorem loneAt_cons {u : UInt16} {us : Units} (h : insidePair (u :: us) 1 = false) (i : Nat) :
    loneAt (u :: us) (i + 1) = loneAt us i := by
  rw [loneAt, loneAt, List.getElem?_cons_succ, insidePair_cons h, insidePair_cons h]

theorem mended_cons {u : UInt16} {us : Units} (h : insidePair (u :: us) 1 = false) :
    mended (u :: us) = (if isHigh u || isLow u then 0xFFFD else u) :: mended us := by
  have hlone : loneAt (u :: us) 0 = (isHigh u || isLow u) := by
    rw [loneAt, h]
    simp [insidePair]
  simp only [mended, List.mapIdx_cons, hlone, loneAt_cons h]

/-- Both halves of a pair stay. -/
theorem mended_pair {u v : UInt16} (hu : isHigh u = true) (hv : isLow v = true) (us : Units) :
    mended (u :: v :: us) = u :: v :: mended us := by
  have hin : insidePair (u :: v :: us) 1 = true := by simp [insidePair, hu, hv]
  have hout : insidePair (v :: us) 1 = false := by simp [insidePair, isHigh_eq_false_of_isLow hv]
  have hhigh : loneAt (u :: v :: us) 0 = false := by simp [loneAt, hin]
  have hlow : loneAt (u :: v :: us) 1 = false := by simp [loneAt, hin]
  have hrest (i : Nat) : loneAt (u :: v :: us) (i + 2) = loneAt us i := by
    rw [← loneAt_cons hout, loneAt, loneAt, List.getElem?_cons_succ,
      insidePair_cons_of_pos u _ (Nat.succ_pos i),
      insidePair_cons_of_pos u _ (Nat.succ_pos (i + 1))]
  simp only [mended, List.mapIdx_cons, hhigh, hlow, hrest, Bool.false_eq_true, if_false]

/-- A unit that stands alone is written as itself, unless it is a surrogate. -/
theorem encodeChar_lone (u : UInt16) :
    encodeChar (lone u) = [if isHigh u || isLow u then 0xFFFD else u] := by
  have hshort := (lone_toNat u).1
  rw [encodeChar, if_pos hshort, lone]
  split_ifs with h
  · rfl
  · have hv : u.toNat.isValidChar := by
      rw [Bool.or_eq_true, isHigh_iff, isLow_iff] at h
      have := u.toNat_lt
      unfold Nat.isValidChar
      omega
    rw [toNat_ofNat_of_isValidChar hv, UInt16.ofNat_toNat]

/-- A pair is written as its two halves. -/
theorem encodeChar_combine {u v : UInt16} (hu : isHigh u = true) (hv : isLow v = true) :
    encodeChar (Char.ofNat (combine u v)) = [u, v] := by
  obtain ⟨hcode, hlong⟩ := combine_toNat hu hv
  rw [isHigh_iff] at hu
  rw [isLow_iff] at hv
  have hhigh : 0xD800 + (combine u v - 0x10000) / 1024 = u.toNat := by
    unfold combine
    omega
  have hlow : 0xDC00 + (combine u v - 0x10000) % 1024 = v.toNat := by
    unfold combine
    omega
  rw [encodeChar, hcode, if_neg (by omega), hhigh, hlow, UInt16.ofNat_toNat, UInt16.ofNat_toNat]

/-- Units that are read and written again are the same but for the surrogates that stand alone. -/
theorem encode_decode (us : Units) : encode (decode us) = mended us := by
  fun_induction decode us with
  | case1 => rfl
  | case2 u =>
    have hp : insidePair [u] 1 = false := by simp [insidePair]
    rw [encode_cons, encodeChar_lone, mended_cons hp]
    rfl
  | case3 u v us h ih =>
    rw [Bool.and_eq_true] at h
    rw [encode_cons, encodeChar_combine h.1 h.2, mended_pair h.1 h.2, ih]
    rfl
  | case4 u v us h ih =>
    have hp : insidePair (u :: v :: us) 1 = false := by simpa [insidePair] using h
    rw [encode_cons, encodeChar_lone, mended_cons hp, ih]
    rfl

end Utf16

namespace UnitText

/-- The units tell the text. -/
theorem eq_ofUnits (t : UnitText) : t = ofUnits t.units := by
  obtain ⟨us, s, h⟩ := t
  have htext : s = .ofList (Utf16.decode us) := by rw [← h, String.ofList_toList]
  subst htext
  rfl

/-- However a text is made, its UTF-8 side is what its units are read as, and its units, but for the
surrogates that stand alone, are what its UTF-8 side is written as. So both sides end at the same
place. A text made from a string is the string on the UTF-8 side, the one made from the string's
units, and two texts differ only if their units do. -/
theorem sides_agree :
    (∀ us, (ofUnits us).units = us ∧ (ofUnits us).text.toList = Utf16.decode us) ∧
    (∀ s, (ofString s).text = s ∧ ofString s = ofUnits (Utf16.encode s.toList)) ∧
    (default : UnitText) = ofUnits [] ∧
    (∀ t : UnitText, t = ofUnits t.units ∧ Utf16.encode t.text.toList = Utf16.mended t.units ∧
      (Utf16.encode t.text.toList).length = t.length ∧
      t.byteOffset t.length = t.bytes.length ∧ t.unitOffset t.bytes.length = t.length) ∧
    ∀ t t' : UnitText, t = t' ↔ t.units = t'.units := by
  refine ⟨fun us => ⟨rfl, (ofUnits us).toList_text⟩, fun s => ⟨rfl, eq_ofUnits _⟩, rfl, fun t => ?_,
    fun t t' => ?_⟩
  · have hend := Place.finish t
    refine ⟨t.eq_ofUnits, ?_, ?_, hend.byteOffset_eq, hend.unitOffset_eq⟩
    · rw [t.toList_text, Utf16.encode_decode]
    · rw [t.toList_text, Utf16.length_encode_decode]
      rfl
  · refine ⟨congrArg units, fun h => ?_⟩
    rw [t.eq_ofUnits, t'.eq_ofUnits, h]

/-- Two high surrogates and two low ones, of which the inner ones are a pair. -/
example : Utf16.encode (ofUnits [0xD800, 0xD83D, 0xDEA7, 0xDC00]).text.toList =
    [0xFFFD, 0xD83D, 0xDEA7, 0xFFFD] := by
  decide +kernel

end UnitText

end RegexHost

import RegexHost.Proofs.Text.Place
import Mathlib.Order.Bounds.Basic

/-! Positions that are no places between two characters. Either translation goes on from there to
the next place: what is begun of a character is read as one U+FFFD, and one unit of it is enough to
count all of its bytes. -/
namespace RegexHost

namespace Utf8

theorem startsChar_eq_false_of_isContinuation {b : UInt8} (h : isContinuation b = true) :
    startsChar b = false := by
  simp only [isContinuation, Bool.and_eq_true, decide_eq_true_eq, UInt8.le_iff_toNat_le,
    UInt8.lt_iff_toNat_lt] at h
  simp only [startsChar, Bool.or_eq_false_iff, Bool.and_eq_false_iff, decide_eq_false_iff_not]
  have h1 : (0x80 : UInt8).toNat = 0x80 := rfl
  have h2 : (0xC0 : UInt8).toNat = 0xC0 := rfl
  omega

/-- Bytes that are taken without a fault are taken part by part. -/
theorem Reads.split {s s' : State} {bs bs' : Bytes} {cs : List Char}
    (h : Reads s (bs ++ bs') cs s') : ∃ l r m, Reads s bs l m ∧ Reads m bs' r s' ∧ cs = l ++ r := by
  induction bs generalizing s cs with
  | nil => exact ⟨[], cs, s, .nil s, h, rfl⟩
  | cons b bs ih =>
    cases h with
    | start hb h =>
      obtain ⟨l, r, m, hl, hr, rfl⟩ := ih h
      exact ⟨_, r, m, .start hb hl, hr, (List.append_assoc _ _ _).symm⟩
    | next hb h =>
      obtain ⟨l, r, m, hl, hr, rfl⟩ := ih h
      exact ⟨_, r, m, .next hb hl, hr, (List.append_assoc _ _ _).symm⟩

/-- A sequence that was begun and is over has left a character. -/
theorem Reads.ne_nil {p : Begun} {bs : Bytes} {cs : List Char} (h : Reads (some p) bs cs none) :
    cs ≠ [] := by
  generalize hs : some p = s at h
  generalize hs' : (none : State) = s' at h
  induction h generalizing p with
  | nil s => rw [← hs'] at hs; cases hs
  | start hb h ih => cases hs
  | @next q b bs cs s hb h ih =>
    by_cases hl : q.left = 1
    · simp [step, hb, hl]
    · have hstep : step (some q) b =
          ([], some ⟨q.seen + 1, q.left - 1, 0x80, 0xBF, q.bits * 64 + (b.toNat - 0x80)⟩) := by
        simp [step, hb, hl]
      rw [hstep]
      exact ih (by rw [hstep]) hs'

/-- Part of a character leaves the decoder inside it. -/
theorem reads_take_encodeChar (c : Char) {k : Nat} (h0 : 0 < k) (hk : k < (encodeChar c).length) :
    ∃ p, Reads none ((encodeChar c).take k) [] (some p) := by
  have hc := reads_encodeChar c
  rw [← List.take_append_drop k (encodeChar c)] at hc
  obtain ⟨l, r, m, hl, hr, hcs⟩ := hc.split
  cases m with
  | none =>
    -- the rest would begin a character, but consists of continuation bytes
    obtain ⟨b, more, hb, -, hmore⟩ := encodeChar_eq_cons c
    obtain ⟨j, rfl⟩ : ∃ j, k = j + 1 := ⟨k - 1, by omega⟩
    rw [hb, List.length_cons] at hk
    have hj : j < more.length := by omega
    rw [hb, List.drop_succ_cons, List.drop_eq_getElem_cons hj] at hr
    cases hr with
    | start hstarts =>
      rw [startsChar_eq_false_of_isContinuation (hmore _ (List.getElem_mem hj))] at hstarts
      cases hstarts
  | some p =>
    obtain ⟨d, r, rfl⟩ := List.exists_cons_of_ne_nil hr.ne_nil
    have hnil : l = [] := by
      cases l with
      | nil => rfl
      | cons e l => simp at hcs
    exact ⟨p, hnil ▸ hl⟩

theorem reads_encode_append_take (l : List Char) (c : Char) {k : Nat} (h0 : 0 < k)
    (hk : k < (encodeChar c).length) :
    ∃ p, Reads none (encode l ++ (encodeChar c).take k) l (some p) := by
  obtain ⟨p, hp⟩ := reads_take_encodeChar c h0 hk
  have h := (reads_encode l).trans hp
  rw [List.append_nil] at h
  exact ⟨p, h⟩

/-- A position that is no boundary is inside a character. -/
theorem exists_inside {cs : List Char} {b : Nat} (hb : b ≤ (encode cs).length)
    (h : isBoundary (encode cs) b = false) :
    ∃ l c r k, cs = l ++ c :: r ∧ b = (encode l).length + k ∧ 0 < k ∧
      k < (encodeChar c).length := by
  induction cs generalizing b with
  | nil =>
    have hb : b = 0 := by simpa [encode] using hb
    rw [hb] at h
    cases h
  | cons c cs ih =>
    rcases Nat.eq_zero_or_pos b with rfl | h0
    · rw [isBoundary_encode_zero] at h
      cases h
    rcases Nat.lt_or_ge b (encodeChar c).length with hk | hk
    · exact ⟨[], c, cs, b, rfl, by simp [encode], h0, hk⟩
    · obtain ⟨d, rfl⟩ := Nat.exists_eq_add_of_le hk
      rw [encode_cons, List.length_append] at hb
      rw [encode_cons, isBoundary_append_right] at h
      obtain ⟨l, e, r, k, rfl, rfl, h0, hk⟩ := ih (by omega) h
      exact ⟨c :: l, e, r, k, rfl, by rw [encode_cons, List.length_append, Nat.add_assoc], h0, hk⟩

end Utf8

/-- What is begun of a character counts as one unit. -/
theorem unitOffset_inside (l r : List Char) (c : Char) {k : Nat} (h0 : 0 < k)
    (hk : k < (Utf8.encodeChar c).length) :
    unitOffset (Utf8.encode (l ++ c :: r)) ((Utf8.encode l).length + k) =
      (Utf16.encode l).length + 1 := by
  obtain ⟨p, hp⟩ := Utf8.reads_encode_append_take l c h0 hk
  have hfault : Utf8.fault? (Utf8.encode l ++ (Utf8.encodeChar c).take k) ≠ none := by
    have := hp.faultFrom_append 0 []
    rw [List.append_nil] at this
    rw [Utf8.fault?, this]
    exact Option.some_ne_none _
  have hdecode : Utf8.decode (Utf8.encode l ++ (Utf8.encodeChar c).take k) =
      l ++ [replacement] := by
    simpa [Utf8.decode, Utf8.decodeFrom] using hp.decodeFrom_append []
  obtain ⟨f, hf⟩ := Option.ne_none_iff_exists'.mp hfault
  rw [unitOffset, Utf8.encode_append, Utf8.encode_cons, List.take_length_add_append,
    List.take_append_of_le_length hk.le, Utf8.decode?, hf]
  dsimp only
  rw [hdecode, Utf16.encode_append, List.length_append]
  rfl

theorem unitOffset_min (bs : Bytes) (b : Nat) :
    unitOffset bs (min b bs.length) = unitOffset bs b := by
  rw [unitOffset, unitOffset, ← List.take_eq_take_min]

/-- One unit of a character counts all its bytes. -/
theorem byteOffset_succ {us : Utf16.Units} {l r : List Char} {c : Char}
    (h : Utf16.decode us = l ++ c :: r) :
    byteOffset us ((Utf16.encode l).length + 1) = (Utf8.encode (l ++ [c])).length := by
  have hone : byteOffset (us.drop (Utf16.encode l).length) 1 = (Utf8.encodeChar c).length := by
    rw [Utf8.encodeChar_length]
    rcases Utf16.decode_eq_cons (Utf16.decode_split h).2.1 with
      ⟨u, rest, hu, hp, hc, -⟩ | ⟨u, v, rest, hu, hh, hl, hc, -⟩
    · rw [hu] at hp
      rw [hu, byteOffset_cons hp, byteOffset_zero, hc, (Utf16.lone_toNat u).2, Nat.add_zero]
    · rw [hu, byteOffset_pair hh hl, byteOffset_zero, hc,
        (Utf16.combine_toNat hh hl).1, Nat.add_zero]
  rw [byteOffset_add h, hone, Utf8.encode_append, List.length_append, Utf8.encode_cons,
    List.length_append]
  rfl

theorem byteOffset_min (us : Utf16.Units) (n : Nat) :
    byteOffset us (min n us.length) = byteOffset us n := by
  rcases Nat.le_total n us.length with hn | hn
  · rw [Nat.min_eq_left hn]
  · obtain ⟨k, rfl⟩ := Nat.exists_eq_add_of_le hn
    have hall : Utf16.decode us = Utf16.decode us ++ [] := (List.append_nil _).symm
    have hlen := Utf16.length_encode_decode us
    have hrest := byteOffset_add hall k
    rw [hlen, List.drop_length] at hrest
    rw [Nat.min_eq_right hn, hrest, ← byteOffset_encode hall, hlen]
    cases k <;> rfl

/-- Whether no character has units on both sides of `i`. -/
def Utf16.IsBoundary (us : Units) (i : Nat) : Prop :=
  i ≤ us.length ∧ insidePair us i = false

/-- Between the halves of a pair there is a unit to come, and after it a boundary. -/
theorem Utf16.isBoundary_succ {us : Units} {i : Nat} (h : insidePair us i = true) :
    IsBoundary us (i + 1) := by
  obtain ⟨j, u, v, rfl, hdrop, -, -, -, hout⟩ := exists_of_insidePair h
  have hlen := congrArg List.length hdrop
  simp only [List.length_drop, List.length_cons] at hlen
  exact ⟨by omega, hout⟩

namespace UnitText

variable (t : UnitText)

/-- From units to bytes and back leads on to the next boundary. -/
theorem isLeast_unitOffset_byteOffset {i : Nat} (hi : i ≤ t.length) :
    IsLeast {j | Utf16.IsBoundary t.units j ∧ i ≤ j} (t.unitOffset (t.byteOffset i)) := by
  cases h : Utf16.insidePair t.units i with
  | false =>
    rw [(Place.of_insidePair hi h).unitOffset_eq]
    exact ⟨⟨⟨hi, h⟩, Nat.le_refl i⟩, fun _ hj => hj.2⟩
  | true =>
    have hnext := Utf16.isBoundary_succ h
    have hsame : t.byteOffset i = t.byteOffset (i + 1) := byteOffset_of_insidePair hi h
    rw [hsame, (Place.of_insidePair hnext.1 hnext.2).unitOffset_eq]
    refine ⟨⟨hnext, Nat.le_succ i⟩, ?_⟩
    rintro j ⟨⟨-, hj⟩, hij⟩
    have hne : i ≠ j := by
      rintro rfl
      rw [h] at hj
      cases hj
    omega

/-- From bytes to units and back leads on to the next boundary. -/
theorem isLeast_byteOffset_unitOffset {b : Nat} (hb : b ≤ t.bytes.length) :
    IsLeast {d | Utf8.isBoundary t.bytes d = true ∧ b ≤ d} (t.byteOffset (t.unitOffset b)) := by
  cases h : Utf8.isBoundary t.bytes b with
  | true =>
    obtain ⟨i, hplace⟩ := Place.of_isBoundary h
    rw [hplace.unitOffset_eq, hplace.byteOffset_eq]
    exact ⟨⟨h, Nat.le_refl b⟩, fun _ hd => hd.2⟩
  | false =>
    obtain ⟨l, c, r, k, htext, rfl, h0, hk⟩ := Utf8.exists_inside hb h
    have hunits : t.unitOffset ((Utf8.encode l).length + k) = (Utf16.encode l).length + 1 := by
      rw [unitOffset, bytes, htext]
      exact unitOffset_inside l r c h0 hk
    have hbytes : t.byteOffset ((Utf16.encode l).length + 1) = (Utf8.encode (l ++ [c])).length :=
      byteOffset_succ (t.toList_text.symm.trans htext)
    have hend : (Utf8.encode (l ++ [c])).length =
        (Utf8.encode l).length + (Utf8.encodeChar c).length := by
      simp [Utf8.encode]
    rw [hunits, hbytes]
    refine ⟨⟨?_, by omega⟩, ?_⟩
    · refine (Utf8.isBoundary_encode_iff _ _).mpr ⟨l ++ [c], r, ?_, rfl⟩
      rw [htext, List.append_assoc, List.singleton_append]
    · rintro d ⟨hd, hbd⟩
      by_contra hlt
      obtain ⟨j, rfl⟩ := Nat.exists_eq_add_of_le (Nat.le_trans (Nat.le_add_right _ k) hbd)
      rw [bytes, htext, Utf8.encode_append, Utf8.encode_cons, Utf8.isBoundary_append_right,
        Utf8.isBoundary_inside c _ (by omega) (by omega)] at hd
      cases hd

end UnitText

/-- There and back, from either side, leads to the next position between two characters, for
positions past the end to the end. -/
theorem isLeast_there_and_back (us : Utf16.Units) :
    let bytes := (UnitText.ofUnits us).bytes
    (∀ n, IsLeast {i | Utf16.IsBoundary us i ∧ min n us.length ≤ i}
      (unitOffset bytes (byteOffset us n))) ∧
      ∀ b, IsLeast {d | Utf8.isBoundary bytes d = true ∧ min b bytes.length ≤ d}
        (byteOffset us (unitOffset bytes b)) := by
  intro bytes
  constructor
  · intro n
    rw [← byteOffset_min]
    exact (UnitText.ofUnits us).isLeast_unitOffset_byteOffset (Nat.min_le_right n us.length)
  · intro b
    rw [← unitOffset_min]
    exact (UnitText.ofUnits us).isLeast_byteOffset_unitOffset (Nat.min_le_right b bytes.length)

/-- The second unit of a pair, and the third of its four bytes. -/
example :
    let units : Utf16.Units := [0xD83D, 0xDEA7, 0x78]
    unitOffset (UnitText.ofUnits units).bytes (byteOffset units 1) = 2 ∧
      byteOffset units (unitOffset (UnitText.ofUnits units).bytes 3) = 4 := by
  decide +kernel

end RegexHost

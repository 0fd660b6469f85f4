import RegexHost.Proofs.Text.Boundary
import RegexHost.Proofs.Text.Utf16
import RegexHost.Text.UnitText

/-! Places between two characters of a text, each known by a position in code units and one in
bytes. -/
namespace RegexHost

theorem byteOffset_zero (us : Utf16.Units) : byteOffset us 0 = 0 := by
  unfold byteOffset
  rfl

theorem byteOffset_cons {u : UInt16} {us : Utf16.Units} (h : Utf16.insidePair (u :: us) 1 = false)
    (n : Nat) : byteOffset (u :: us) (n + 1) = Utf8.width u.toNat + byteOffset us n := by
  cases us with
  | nil => cases n <;> rfl
  | cons v us =>
    have hp : ¬(Utf16.isHigh u && Utf16.isLow v) = true := by simpa [Utf16.insidePair] using h
    rw [byteOffset, if_neg hp]

theorem byteOffset_pair {u v : UInt16} (hu : Utf16.isHigh u = true) (hv : Utf16.isLow v = true)
    (us : Utf16.Units) (n : Nat) :
    byteOffset (u :: v :: us) (n + 1) = Utf8.width (Utf16.combine u v) + byteOffset us (n - 1) := by
  rw [byteOffset, if_pos (by rw [hu, hv]; rfl)]

theorem Utf8.encodeChar_length (c : Char) : (Utf8.encodeChar c).length = Utf8.width c.toNat := by
  unfold Utf8.encodeChar Utf8.width
  dsimp only
  split_ifs <;> rfl

/-- Units before a character count in bytes what they are read as. -/
theorem byteOffset_add {us : Utf16.Units} {l r : List Char}
    (h : Utf16.decode us = l ++ r) (n : Nat) :
    byteOffset us ((Utf16.encode l).length + n) =
      (Utf8.encode l).length + byteOffset (us.drop (Utf16.encode l).length) n := by
  induction l generalizing us with
  | nil => simp [Utf8.encode]
  | cons c l ih =>
    rw [Utf16.encode_cons, List.length_append, Utf16.encodeChar_length, Utf8.encode_cons,
      List.length_append, Utf8.encodeChar_length, Nat.add_comm (Utf16.width c), Nat.add_right_comm]
    rcases Utf16.decode_eq_cons h with
      ⟨u, rest, rfl, hp, hc, hd⟩ | ⟨u, v, rest, rfl, hu, hv, hc, hd⟩
    · rw [hc, Utf16.width_lone, byteOffset_cons hp, ih hd, (Utf16.lone_toNat u).2,
        List.drop_succ_cons, Nat.add_assoc]
    · rw [hc, Utf16.width_combine hu hv, byteOffset_pair hu hv, Nat.add_sub_cancel,
        ih hd, (Utf16.combine_toNat hu hv).1, Nat.add_assoc]
      rfl

theorem byteOffset_encode {us : Utf16.Units} {l r : List Char} (h : Utf16.decode us = l ++ r) :
    byteOffset us (Utf16.encode l).length = (Utf8.encode l).length := by
  simpa [byteOffset_zero] using byteOffset_add h 0

/-- A position inside a pair counts as the end of the pair. -/
theorem byteOffset_of_insidePair {us : Utf16.Units} {i : Nat} (hi : i ≤ us.length)
    (h : Utf16.insidePair us i = true) : byteOffset us i = byteOffset us (i + 1) := by
  obtain ⟨j, u, v, rfl, hdrop, hh, hl, hout, -⟩ := Utf16.exists_of_insidePair h
  obtain ⟨l, r, hd, rfl⟩ := (Utf16.insidePair_eq_false_iff us (by omega)).mp hout
  rw [byteOffset_add hd 1, Nat.add_assoc, byteOffset_add hd 2, hdrop, byteOffset_pair hh hl,
    byteOffset_pair hh hl]

/-- Bytes before a character, counted in units. -/
theorem unitOffset_encode (l r : List Char) :
    unitOffset (Utf8.encode (l ++ r)) (Utf8.encode l).length = (Utf16.encode l).length := by
  rw [unitOffset, Utf8.encode_append, List.take_left, Utf8.decode?_encode]
  exact (Utf16.length_encode l).symm

namespace UnitText

theorem bytes_eq (t : UnitText) : t.bytes = Utf8.encode (Utf16.decode t.units) := by
  rw [bytes, t.toList_text]

/-- `i` units and `b` bytes lie before the same place. -/
def Place (t : UnitText) (i b : Nat) : Prop :=
  ∃ l r, t.text.toList = l ++ r ∧ (Utf16.encode l).length = i ∧ (Utf8.encode l).length = b

namespace Place

variable {t : UnitText} {i j b d : Nat}

theorem start (t : UnitText) : t.Place 0 0 :=
  ⟨[], t.text.toList, rfl, rfl, rfl⟩

theorem finish (t : UnitText) : t.Place t.length t.bytes.length := by
  refine ⟨t.text.toList, [], (List.append_nil _).symm, ?_, rfl⟩
  rw [t.toList_text, Utf16.length_encode_decode]
  rfl

theorem of_isBoundary (h : Utf8.isBoundary t.bytes b = true) : ∃ i, t.Place i b := by
  obtain ⟨l, r, h, hb⟩ := (Utf8.isBoundary_encode_iff _ _).mp h
  exact ⟨(Utf16.encode l).length, l, r, h, rfl, hb⟩

theorem isBoundary (h : t.Place i b) : Utf8.isBoundary t.bytes b = true := by
  obtain ⟨l, r, h, -, hb⟩ := h
  exact (Utf8.isBoundary_encode_iff _ _).mpr ⟨l, r, h, hb⟩

theorem byteOffset_eq (h : t.Place i b) : t.byteOffset i = b := by
  obtain ⟨l, r, h, rfl, rfl⟩ := h
  exact byteOffset_encode (t.toList_text.symm.trans h)

theorem unitOffset_eq (h : t.Place i b) : t.unitOffset b = i := by
  obtain ⟨l, r, h, rfl, rfl⟩ := h
  rw [unitOffset, bytes, h]
  exact unitOffset_encode l r

theorem insidePair_eq_false (h : t.Place i b) : Utf16.insidePair t.units i = false := by
  obtain ⟨l, r, h, rfl, -⟩ := h
  exact (Utf16.decode_split (t.toList_text.symm.trans h)).2.2

theorem of_insidePair (hi : i ≤ t.length) (h : Utf16.insidePair t.units i = false) :
    t.Place i (t.byteOffset i) := by
  obtain ⟨l, r, hd, rfl⟩ := (Utf16.insidePair_eq_false_iff t.units hi).mp h
  exact ⟨l, r, t.toList_text.trans hd, rfl, (byteOffset_encode hd).symm⟩

/-- The byte position of any position in the text is a boundary, and not before it. -/
theorem exists_byteOffset (t : UnitText) (hi : i ≤ t.length) :
    ∃ j, i ≤ j ∧ t.Place j (t.byteOffset i) := by
  cases h : Utf16.insidePair t.units i with
  | false => exact ⟨i, Nat.le_refl i, of_insidePair hi h⟩
  | true =>
    obtain ⟨k, u, v, rfl, hdrop, -, -, -, hout⟩ := Utf16.exists_of_insidePair h
    have hk : k + 2 ≤ t.length := by
      have := congrArg List.length hdrop
      simp only [List.length_drop, List.length_cons] at this
      unfold UnitText.length
      omega
    refine ⟨k + 2, by omega, ?_⟩
    rw [byteOffset, byteOffset_of_insidePair hi h]
    exact of_insidePair hk hout

/-- Of two places, one has the text before the other before it. -/
theorem lt_iff (h : t.Place i b) (h' : t.Place j d) : i < j ↔ b < d := by
  have hpos (m : List Char) : 0 < (Utf16.encode m).length ↔ 0 < (Utf8.encode m).length := by
    cases m with
    | nil => exact Iff.rfl
    | cons c m =>
      have h16 := Utf16.width_pos c
      have h8 := Utf8.encodeChar_length_pos c
      rw [Utf16.encode_cons, Utf8.encode_cons, List.length_append, List.length_append,
        Utf16.encodeChar_length]
      omega
  obtain ⟨l, r, h, rfl, rfl⟩ := h
  obtain ⟨l', r', h', rfl, rfl⟩ := h'
  rcases List.append_eq_append_iff.mp (h.symm.trans h') with ⟨m, rfl, -⟩ | ⟨m, rfl, -⟩
  · have := hpos m
    simp only [Utf16.encode_append, Utf8.encode_append, List.length_append]
    omega
  · simp only [Utf16.encode_append, Utf8.encode_append, List.length_append]
    omega

theorem le_iff (h : t.Place i b) (h' : t.Place j d) : i ≤ j ↔ b ≤ d := by
  have := h'.lt_iff h
  omega

theorem le_bytes (h : t.Place i b) : b ≤ t.bytes.length := by
  obtain ⟨l, r, h, -, rfl⟩ := h
  rw [bytes, h, Utf8.encode_append, List.length_append]
  exact Nat.le_add_right _ _

theorem le_length (h : t.Place i b) : i ≤ t.length :=
  (h.le_iff (finish t)).mpr h.le_bytes

/-- The text between two places is the same on both sides. -/
theorem substring?_eq (h : t.Place i b) (h' : t.Place j d) (hle : b ≤ d) :
    ∃ s, t.substring? i j = some s ∧ Utf8.encode s.toList = (t.bytes.take d).drop b := by
  have hij := (h.le_iff h').mpr hle
  have hj := h'.le_length
  obtain ⟨l, r, h, rfl, rfl⟩ := h
  obtain ⟨l', r', h', rfl, rfl⟩ := h'
  have hpre : l <+: l' := by
    rcases List.append_eq_append_iff.mp (h.symm.trans h') with ⟨m, rfl, -⟩ | ⟨m, rfl, -⟩
    · exact List.prefix_append l m
    · have hm : m = [] := by
        by_contra hne
        obtain ⟨c, m, rfl⟩ := List.exists_cons_of_ne_nil hne
        have := Utf8.encodeChar_length_pos c
        simp only [Utf8.encode_append, Utf8.encode_cons, List.length_append] at hle
        omega
      rw [hm, List.append_nil]
  obtain ⟨m, rfl⟩ := hpre
  obtain ⟨ht, -, -⟩ := Utf16.decode_split (t.toList_text.symm.trans h')
  obtain ⟨-, hd, -⟩ := Utf16.decode_split ht
  refine ⟨_, if_pos ⟨hij, hj⟩, ?_⟩
  rw [String.toList_ofList, hd, bytes, h', Utf8.encode_append (l ++ m), List.take_left,
    Utf8.encode_append, List.drop_left]

/-- Before the end of the text, the next boundary in bytes is a place one character on. -/
theorem next (h : t.Place i b) (hb : b < t.bytes.length) :
    ∃ l c r, t.text.toList = l ++ c :: r ∧ (Utf16.encode l).length = i ∧
      (Utf8.encode l).length = b ∧
      t.Place (Utf16.encode (l ++ [c])).length (Utf8.nextBoundary t.bytes b) := by
  obtain ⟨l, r, h, rfl, rfl⟩ := h
  cases r with
  | nil =>
    rw [bytes, h, List.append_nil] at hb
    omega
  | cons c r =>
    refine ⟨l, c, r, h, rfl, rfl, l ++ [c], r, by rw [h, List.append_assoc]; rfl, rfl, ?_⟩
    rw [bytes, h, Utf8.nextBoundary_encode]

end Place

end UnitText

end RegexHost

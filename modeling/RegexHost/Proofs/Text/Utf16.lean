import RegexHost.Text.Utf16
import RegexHost.Proofs.Text.Utf8

/-! Where the characters of UTF-16 text begin, lone surrogates included. A character is as long as
the units it was read from, though a lone surrogate is not read as itself. -/
namespace RegexHost.Utf16

/-- Whether `i` is between the two halves of a surrogate pair. -/
def insidePair (us : Units) : Nat → Bool
  | 0 => false
  | i + 1 => us[i]?.any isHigh && us[i + 1]?.any isLow

/-- Whether the unit at `i` is a high surrogate without a low one after it. -/
def loneHigh (us : Units) (i : Nat) : Bool :=
  us[i]?.any isHigh && !us[i + 1]?.any isLow

theorem isHigh_eq_false_of_isLow {u : UInt16} (h : isLow u = true) : isHigh u = false := by
  rw [isLow_iff] at h
  rw [Bool.eq_false_iff, ne_eq, isHigh_iff]
  omega

theorem insidePair_cons_of_pos (u : UInt16) (us : Units) {i : Nat} (hi : 0 < i) :
    insidePair (u :: us) (i + 1) = insidePair us i := by
  obtain ⟨j, rfl⟩ : ∃ j, i = j + 1 := ⟨i - 1, by omega⟩
  rfl

theorem isLow_eq_false_of_isHigh {u : UInt16} (h : isHigh u = true) : isLow u = false := by
  by_contra hl
  rw [isHigh_eq_false_of_isLow (by simpa using hl)] at h
  cases h

/-- Around a position inside a pair stand its two halves, and pairs do not overlap. -/
theorem exists_of_insidePair {us : Units} {i : Nat} (h : insidePair us i = true) :
    ∃ j u v, i = j + 1 ∧ us.drop j = u :: v :: us.drop (j + 2) ∧ isHigh u = true ∧ isLow v = true ∧
      insidePair us j = false ∧ insidePair us (j + 2) = false := by
  cases i with
  | zero => cases h
  | succ j =>
    rw [insidePair, Bool.and_eq_true, Option.any_eq_true, Option.any_eq_true] at h
    obtain ⟨⟨u, hu, hh⟩, v, hv, hl⟩ := h
    obtain ⟨hj, rfl⟩ := List.getElem?_eq_some_iff.mp hu
    obtain ⟨hj', rfl⟩ := List.getElem?_eq_some_iff.mp hv
    refine ⟨j, us[j], us[j + 1], rfl, ?_, hh, hl, ?_, ?_⟩
    · rw [List.drop_eq_getElem_cons hj, List.drop_eq_getElem_cons hj']
    · cases j with
      | zero => rfl
      | succ k => simp [insidePair, hu, isLow_eq_false_of_isHigh hh]
    · simp [insidePair, hv, isHigh_eq_false_of_isLow hl]

/-! What one character is written as -/

@[simp] theorem encode_nil : encode [] = [] := rfl

theorem encode_cons (c : Char) (cs : List Char) : encode (c :: cs) = encodeChar c ++ encode cs :=
  List.flatMap_cons

@[simp] theorem encode_append (l r : List Char) : encode (l ++ r) = encode l ++ encode r :=
  List.flatMap_append

theorem encodeChar_length (c : Char) : (encodeChar c).length = width c := by
  unfold encodeChar width
  dsimp only
  split_ifs <;> rfl

theorem length_encode (cs : List Char) :
    (encode cs).length = cs.foldr (fun c n => width c + n) 0 := by
  induction cs with
  | nil => rfl
  | cons c cs ih => rw [encode_cons, List.length_append, encodeChar_length, ih, List.foldr_cons]

theorem width_pos (c : Char) : 0 < width c := by
  unfold width
  split_ifs <;> omega

theorem toNat_ofNat_of_isValidChar {n : Nat} (h : n.isValidChar) : (Char.ofNat n).toNat = n := by
  rw [Char.ofNat, dif_pos h]
  rfl

theorem lone_toNat (u : UInt16) :
    (lone u).toNat < 0x10000 ∧ Utf8.width (lone u).toNat = Utf8.width u.toNat := by
  have hu : u.toNat < 0x10000 := u.toNat_lt
  unfold lone
  split_ifs with h
  · rw [Bool.or_eq_true, isHigh_iff, isLow_iff] at h
    refine ⟨by decide, ?_⟩
    rw [show replacement.toNat = 0xFFFD by rfl]
    unfold Utf8.width
    split_ifs <;> omega
  · have hv : u.toNat.isValidChar := by
      rw [Bool.or_eq_true, isHigh_iff, isLow_iff] at h
      unfold Nat.isValidChar
      omega
    rw [toNat_ofNat_of_isValidChar hv]
    exact ⟨hu, rfl⟩

theorem width_lone (u : UInt16) : width (lone u) = 1 :=
  if_pos (lone_toNat u).1

theorem combine_toNat {u v : UInt16} (hu : isHigh u = true) (hv : isLow v = true) :
    (Char.ofNat (combine u v)).toNat = combine u v ∧ 0x10000 ≤ combine u v := by
  rw [isHigh_iff] at hu
  rw [isLow_iff] at hv
  have hc : 0x10000 ≤ combine u v ∧ combine u v < 0x110000 := by
    unfold combine
    omega
  have hn : (combine u v).isValidChar := by
    unfold Nat.isValidChar
    omega
  exact ⟨toNat_ofNat_of_isValidChar hn, hc.1⟩

theorem width_combine {u v : UInt16} (hu : isHigh u = true) (hv : isLow v = true) :
    width (Char.ofNat (combine u v)) = 2 := by
  obtain ⟨hn, hc⟩ := combine_toNat hu hv
  rw [width, hn, if_neg (by omega)]

/-! Text cut at its characters -/

theorem decode_cons (u : UInt16) (us : Units) (h : insidePair (u :: us) 1 = false) :
    decode (u :: us) = lone u :: decode us := by
  cases us with
  | nil => rfl
  | cons v us =>
    have hp : ¬(isHigh u && isLow v) = true := by simpa [insidePair] using h
    rw [decode, if_neg hp]

theorem length_encode_decode (us : Units) : (encode (decode us)).length = us.length := by
  fun_induction decode us with
  | case1 => rfl
  | case2 u => simp [encode, encodeChar_length, width_lone]
  | case3 u v us h ih =>
    rw [Bool.and_eq_true] at h
    rw [encode_cons, List.length_append, encodeChar_length, width_combine h.1 h.2, ih]
    simp only [List.length_cons]
    omega
  | case4 u v us h ih =>
    rw [encode_cons, List.length_append, encodeChar_length, width_lone, ih]
    simp only [List.length_cons]
    omega

/-- Units are read part by part unless the parts share a pair. -/
theorem decode_append (us vs : Units) (h : insidePair (us ++ vs) us.length = false) :
    decode (us ++ vs) = decode us ++ decode vs := by
  fun_induction decode us with
  | case1 => rfl
  | case2 u => exact decode_cons u vs h
  | case3 u v us hp ih =>
    have hs : insidePair (us ++ vs) us.length = false := by
      cases us with
      | nil => rfl
      | cons w us => exact h
    simp only [List.cons_append, decode, hp, if_true, ih hs]
  | case4 u v us hp ih =>
    have hs : insidePair (v :: us ++ vs) (v :: us).length = false := h
    have hu : insidePair (u :: (v :: us ++ vs)) 1 = false := by simpa [insidePair] using hp
    rw [List.cons_append, decode_cons _ _ hu, ih hs, List.cons_append]

/-- A character is read from a unit that is no half of a pair, or from a pair. -/
theorem decode_eq_cons {us : Units} {c : Char} {cs : List Char} (h : decode us = c :: cs) :
    (∃ u rest, us = u :: rest ∧ insidePair us 1 = false ∧ c = lone u ∧ decode rest = cs) ∨
      ∃ u v rest, us = u :: v :: rest ∧ isHigh u = true ∧ isLow v = true ∧
        c = Char.ofNat (combine u v) ∧ decode rest = cs := by
  cases us with
  | nil => cases h
  | cons u rest =>
    cases hp : insidePair (u :: rest) 1 with
    | false =>
      rw [decode_cons u rest hp, List.cons.injEq] at h
      exact .inl ⟨u, rest, rfl, rfl, h.1.symm, h.2⟩
    | true =>
      cases rest with
      | nil => simp [insidePair] at hp
      | cons v rest =>
        have hp' : (isHigh u && isLow v) = true := by simpa [insidePair] using hp
        rw [decode, if_pos hp', List.cons.injEq] at h
        rw [Bool.and_eq_true] at hp'
        exact .inr ⟨u, v, rest, rfl, hp'.1, hp'.2, h.1.symm, h.2⟩

/-- Cutting what was read cuts the units. -/
theorem decode_split {us : Units} {l r : List Char} (h : decode us = l ++ r) :
    decode (us.take (encode l).length) = l ∧ decode (us.drop (encode l).length) = r ∧
      insidePair us (encode l).length = false := by
  induction l generalizing us with
  | nil => exact ⟨rfl, h, rfl⟩
  | cons c l ih =>
    rw [encode_cons, List.length_append, encodeChar_length, Nat.add_comm]
    rcases decode_eq_cons h with ⟨u, rest, rfl, hp, hc, hd⟩ | ⟨u, v, rest, rfl, hu, hv, hc, hd⟩
    · obtain ⟨ht, hr, hi⟩ := ih hd
      rw [hc, width_lone, List.take_succ_cons, List.drop_succ_cons]
      refine ⟨?_, hr, ?_⟩
      · rw [decode_cons, ht]
        cases hk : (encode l).length <;> simp_all [insidePair]
      · rcases Nat.eq_zero_or_pos (encode l).length with hk | hk
        · rwa [hk]
        · rwa [insidePair_cons_of_pos u rest hk]
    · obtain ⟨ht, hr, hi⟩ := ih hd
      rw [hc, width_combine hu hv]
      refine ⟨?_, hr, ?_⟩
      · rw [List.take_succ_cons, List.take_succ_cons, decode, if_pos (by rw [hu, hv]; rfl), ht]
      · rcases Nat.eq_zero_or_pos (encode l).length with hk | hk
        · simp [hk, insidePair, isHigh_eq_false_of_isLow hv]
        · rwa [insidePair_cons_of_pos u _ (by omega), insidePair_cons_of_pos v rest hk]

/-- The positions between two characters are those inside the text and outside all pairs. -/
theorem insidePair_eq_false_iff (us : Units) {i : Nat} (hi : i ≤ us.length) :
    insidePair us i = false ↔ ∃ l r, decode us = l ++ r ∧ (encode l).length = i := by
  constructor
  · intro h
    have hl : (us.take i).length = i := List.length_take_of_le hi
    refine ⟨decode (us.take i), decode (us.drop i), ?_, ?_⟩
    · rw [← decode_append _ _ (by rwa [List.take_append_drop, hl]), List.take_append_drop]
    · rw [length_encode_decode, hl]
  · rintro ⟨l, r, h, rfl⟩
    exact (decode_split h).2.2

theorem lt_next (us : Units) (i : Nat) : i < next us i := by
  unfold next
  split
  · split_ifs <;> omega
  · omega

theorem next_eq_add (us : Units) (i : Nat) : next us i = i + next (us.drop i) 0 := by
  simp only [next, List.getElem?_drop, Nat.add_zero, Nat.zero_add]
  cases us[i]? with
  | none => rfl
  | some u => dsimp only; split_ifs <;> rfl

theorem loneHigh_drop (us : Units) (i : Nat) : loneHigh (us.drop i) 0 = loneHigh us i := by
  simp [loneHigh]

/-- After a character that is no lone high surrogate comes the next one. -/
theorem next_eq {us : Units} {l r : List Char} {c : Char} (h : decode us = l ++ c :: r)
    (hp : loneHigh us (encode l).length = false) :
    next us (encode l).length = (encode (l ++ [c])).length := by
  obtain ⟨-, hd, -⟩ := decode_split h
  rw [← loneHigh_drop] at hp
  rw [next_eq_add, encode_append, List.length_append, encode_cons, encode_nil, List.append_nil,
    encodeChar_length]
  congr 1
  rcases decode_eq_cons hd with ⟨u, rest, hu, hi, hc, -⟩ | ⟨u, v, rest, hu, hh, hl, hc, -⟩
  · rw [hu] at hp hi ⊢
    have hh : isHigh u = false := by
      simp [loneHigh, insidePair] at hp hi
      grind
    simp [next, hh, hc, width_lone]
  · simp [next, hu, hh, hc, width_combine hh hl]

theorem next_of_loneHigh {us : Units} {i : Nat} (h : loneHigh us i = true) : next us i = i + 2 := by
  rw [loneHigh, Bool.and_eq_true, Option.any_eq_true] at h
  obtain ⟨⟨u, hu, hh⟩, -⟩ := h
  rw [next, hu]
  exact if_pos hh

theorem insidePair_of_loneHigh {us : Units} {i : Nat} (h : loneHigh us i = true) :
    i < us.length ∧ insidePair us i = false := by
  rw [loneHigh, Bool.and_eq_true, Option.any_eq_true] at h
  obtain ⟨⟨u, hu, hh⟩, -⟩ := h
  refine ⟨(List.getElem?_eq_some_iff.mp hu).1, ?_⟩
  cases i with
  | zero => rfl
  | succ j => rw [insidePair, hu, Option.any_some, isLow_eq_false_of_isHigh hh, Bool.and_false]

/-- A lone high surrogate is a character of its own. -/
theorem width_of_loneHigh {us : Units} {l r : List Char} {c : Char} (h : decode us = l ++ c :: r)
    (hl : loneHigh us (encode l).length = true) : width c = 1 := by
  obtain ⟨-, hd, -⟩ := decode_split h
  rw [← loneHigh_drop] at hl
  rcases decode_eq_cons hd with ⟨u, rest, -, -, hc, -⟩ | ⟨u, v, rest, hu, -, hv, -, -⟩
  · rw [hc, width_lone]
  · simp [loneHigh, hu, hv] at hl

end RegexHost.Utf16

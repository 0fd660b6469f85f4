import RegexHost.Proofs.Text.Utf8

/-! Positions between two characters of UTF-8 text. They are the lengths of the texts that it begins
with. -/
namespace RegexHost.Utf8

/-- Whether no character of a well-formed text has bytes on both sides of `i`. -/
def isBoundary (bs : Bytes) (i : Nat) : Bool :=
  match bs[i]? with
  | some b => !isContinuation b
  | none => i = bs.length

/-- The first boundary after `i`, one past the end if there is none in the text. -/
def nextBoundary (bs : Bytes) (i : Nat) : Nat :=
  i + 1 + ((bs.drop (i + 1)).takeWhile isContinuation).length

theorem le_of_isBoundary {bs : Bytes} {i : Nat} (h : isBoundary bs i = true) : i ≤ bs.length := by
  by_contra hi
  rw [isBoundary, List.getElem?_eq_none (by omega)] at h
  simp only [decide_eq_true_eq] at h
  omega

theorem isContinuation_ofNat {n : Nat} (h : n < 256) :
    isContinuation (.ofNat n) = true ↔ 0x80 ≤ n ∧ n < 0xC0 := by
  simp [isContinuation, UInt8.le_iff_toNat_le, UInt8.lt_iff_toNat_lt, Nat.mod_eq_of_lt h]

theorem isContinuation_tail (n : Nat) : isContinuation (.ofNat (0x80 + n % 64)) = true := by
  rw [isContinuation_ofNat] <;> omega

/-- Only the first byte of a character is no continuation byte. -/
theorem encodeChar_eq_cons (c : Char) :
    ∃ b more, encodeChar c = b :: more ∧ isContinuation b = false ∧
      ∀ m ∈ more, isContinuation m = true := by
  have hv : c.toNat < 0xD800 ∨ 0xDFFF < c.toNat ∧ c.toNat < 0x110000 := c.valid
  unfold encodeChar
  dsimp only
  split_ifs with h1 h2 h3
  all_goals
    refine ⟨_, _, rfl, ?_, ?_⟩
    · rw [Bool.eq_false_iff, ne_eq, isContinuation_ofNat (by omega)]
      omega
    · simp only [List.forall_mem_cons, isContinuation_tail, List.not_mem_nil,
        false_imp_iff, implies_true, and_self]

theorem encodeChar_length_pos (c : Char) : 0 < (encodeChar c).length := by
  obtain ⟨b, more, h, -, -⟩ := encodeChar_eq_cons c
  simp [h]

theorem isBoundary_append_right (bs rest : Bytes) (i : Nat) :
    isBoundary (bs ++ rest) (bs.length + i) = isBoundary rest i := by
  simp [isBoundary, List.getElem?_append_right]

theorem isBoundary_encode_zero (cs : List Char) : isBoundary (encode cs) 0 = true := by
  cases cs with
  | nil => rfl
  | cons c cs =>
    obtain ⟨b, more, h, hb, -⟩ := encodeChar_eq_cons c
    simp [isBoundary, encode_cons, h, hb]

theorem isBoundary_inside (c : Char) (rest : Bytes) {i : Nat} (h0 : 0 < i)
    (hi : i < (encodeChar c).length) : isBoundary (encodeChar c ++ rest) i = false := by
  obtain ⟨b, more, h, -, hm⟩ := encodeChar_eq_cons c
  obtain ⟨j, rfl⟩ : ∃ j, i = j + 1 := ⟨i - 1, by omega⟩
  rw [h, List.length_cons] at hi
  have hj : j < more.length := by omega
  simp [isBoundary, h, List.getElem?_append_left hj, List.getElem?_eq_getElem hj,
    hm _ (List.getElem_mem hj)]

theorem isBoundary_encode_iff (cs : List Char) (i : Nat) :
    isBoundary (encode cs) i = true ↔ ∃ l r, cs = l ++ r ∧ (encode l).length = i := by
  constructor
  · intro h
    induction cs generalizing i with
    | nil =>
      have hi : i = 0 := by simpa [isBoundary, encode] using h
      exact ⟨[], [], rfl, hi.symm⟩
    | cons c cs ih =>
      rcases Nat.eq_zero_or_pos i with rfl | h0
      · exact ⟨[], c :: cs, rfl, rfl⟩
      rcases Nat.lt_or_ge i (encodeChar c).length with hi | hi
      · rw [encode_cons, isBoundary_inside c _ h0 hi] at h
        cases h
      · obtain ⟨j, rfl⟩ := Nat.exists_eq_add_of_le hi
        rw [encode_cons, isBoundary_append_right] at h
        obtain ⟨l, r, rfl, hl⟩ := ih j h
        exact ⟨c :: l, r, rfl, by rw [encode_cons, List.length_append, hl]⟩
  · rintro ⟨l, r, rfl, rfl⟩
    rw [encode_append]
    exact (isBoundary_append_right _ _ 0).trans (isBoundary_encode_zero r)

theorem takeWhile_isContinuation_encode (cs : List Char) :
    (encode cs).takeWhile isContinuation = [] := by
  cases cs with
  | nil => rfl
  | cons c cs =>
    obtain ⟨b, more, h, hb, -⟩ := encodeChar_eq_cons c
    simp [encode_cons, h, hb]

/-- From one boundary to the next there is exactly one character. -/
theorem nextBoundary_encode (l r : List Char) (c : Char) :
    nextBoundary (encode (l ++ c :: r)) (encode l).length = (encode (l ++ [c])).length := by
  obtain ⟨b, more, h, -, hm⟩ := encodeChar_eq_cons c
  have hd : (encode (l ++ c :: r)).drop ((encode l).length + 1) = more ++ encode r := by
    rw [encode_append, encode_cons, h, List.drop_length_add_append]
    rfl
  have ht : (more ++ encode r).takeWhile isContinuation = more := by
    rw [List.takeWhile_append_of_pos hm, takeWhile_isContinuation_encode, List.append_nil]
  rw [nextBoundary, hd, ht, encode_append, encode_cons, h]
  simp [encode]
  omega

theorem lt_nextBoundary (bs : Bytes) (i : Nat) : i < nextBoundary bs i := by
  unfold nextBoundary
  omega

end RegexHost.Utf8

import RegexHost.Proofs.Text.WellFormed

/-! Positions in any bytes, counted in units. A sequence that is begun stands for one U+FFFD until a
byte completes it or breaks it off, so each byte more adds one unit or none. -/
namespace RegexHost

namespace Utf8

/-- The first bytes leave something written and the decoder somewhere, whatever comes after them. -/
theorem exists_decodeFrom_append (s : State) (bs : Bytes) :
    ∃ cs s', ∀ rest, decodeFrom s (bs ++ rest) = cs ++ decodeFrom s' rest := by
  induction bs generalizing s with
  | nil => exact ⟨[], s, fun _ => rfl⟩
  | cons b bs ih =>
    obtain ⟨cs, s', h⟩ := ih (step s b).2
    refine ⟨(step s b).1 ++ cs, s', fun rest => ?_⟩
    rw [List.cons_append, decodeFrom_cons, h, List.append_assoc]

/-- The units of what some bytes come to when no more follow. -/
def units (s : State) (bs : Bytes) : Nat :=
  (Utf16.encode (decodeFrom s bs)).length

/-- Each byte between two characters is a character, the begin of one or broken. -/
theorem units_first (b : UInt8) : units none [b] = 1 := by
  unfold units
  rw [decodeFrom_cons, step]
  unfold first
  dsimp only
  split_ifs with h1
  · have hvalid : b.toNat.isValidChar := .inl (by omega)
    rw [decodeFrom, List.append_nil, Utf16.encode_cons, Utf16.encode_nil, List.append_nil,
      Utf16.encodeChar_length, Utf16.width, Utf16.toNat_ofNat_of_isValidChar hvalid,
      if_pos (by omega)]
  all_goals rfl

theorem units_step (s : State) (b : UInt8) :
    units s [b] = units s [] ∨ units s [b] = units s [] + 1 := by
  cases s with
  | none => exact .inr (units_first b)
  | some p =>
    have hbegun : units (some p) [] = 1 := rfl
    unfold units at hbegun ⊢
    rw [hbegun, decodeFrom_cons]
    unfold step
    dsimp only
    split_ifs with htakes hleft
    · -- a completed character, which takes the place of the one U+FFFD
      rw [decodeFrom, List.append_nil, Utf16.encode_cons, Utf16.encode_nil, List.append_nil,
        Utf16.encodeChar_length]
      unfold Utf16.width
      split_ifs
      · exact .inl rfl
      · exact .inr rfl
    · exact .inl rfl
    · have hfirst := units_first b
      unfold units at hfirst
      rw [decodeFrom_cons, step] at hfirst
      rw [List.cons_append, Utf16.encode_cons, List.length_append, hfirst]
      exact .inr rfl

end Utf8

/-- Either way of counting counts the units of the text that the bytes are read as. -/
theorem unitOffset_eq_length (bytes : Bytes) (b : Nat) :
    unitOffset bytes b = (Utf16.encode (Utf8.decode (bytes.take b))).length := by
  rw [unitOffset, Utf8.decode?]
  cases Utf8.fault? (bytes.take b) with
  | some f => rfl
  | none => exact (Utf16.length_encode _).symm

theorem unitOffset_zero (bytes : Bytes) : unitOffset bytes 0 = 0 := by
  rw [unitOffset_eq_length]
  rfl

theorem unitOffset_length_add (bytes : Bytes) (k : Nat) :
    unitOffset bytes (bytes.length + k) = unitOffset bytes bytes.length := by
  rw [← unitOffset_min, Nat.min_eq_right (Nat.le_add_right _ k)]

theorem unitOffset_step (bytes : Bytes) (b : Nat) :
    unitOffset bytes (b + 1) = unitOffset bytes b ∨
      unitOffset bytes (b + 1) = unitOffset bytes b + 1 := by
  rcases Nat.lt_or_ge b bytes.length with hb | hb
  · obtain ⟨cs, s, h⟩ := Utf8.exists_decodeFrom_append none (bytes.take b)
    have hnow := h []
    have hnext := h [bytes[b]]
    rw [List.append_nil] at hnow
    rw [unitOffset_eq_length, unitOffset_eq_length, ← List.take_append_getElem hb, Utf8.decode,
      Utf8.decode, hnow, hnext, Utf16.encode_append, Utf16.encode_append, List.length_append,
      List.length_append]
    have hstep := Utf8.units_step s bytes[b]
    unfold Utf8.units at hstep
    omega
  · obtain ⟨k, rfl⟩ := Nat.exists_eq_add_of_le hb
    exact .inl ((unitOffset_length_add bytes (k + 1)).trans (unitOffset_length_add bytes k).symm)

theorem unitOffset_monotone (bytes : Bytes) : Monotone (unitOffset bytes) := by
  apply monotone_nat_of_le_succ
  intro b
  have := unitOffset_step bytes b
  omega

theorem unitOffset_le (bytes : Bytes) (b : Nat) : unitOffset bytes b ≤ min b bytes.length := by
  have hle (d : Nat) : unitOffset bytes d ≤ d := by
    induction d with
    | zero => exact (unitOffset_zero bytes).le
    | succ d ih =>
      have := unitOffset_step bytes d
      omega
  rw [← unitOffset_min]
  exact hle _

/-- Any bytes count as many units as the text they are read as. Those that are counted character by
character are those that some text is written as, and this text is the one they are read as. In any
others each ill-formed part is read as one U+FFFD. No byte counts nothing, each byte more adds one
unit or none, and past the end nothing is added. -/
theorem unitOffset_counts_decoded (bytes : Bytes) :
    (∀ b, unitOffset bytes b =
      (Utf16.encode (Utf8.decode (bytes.take (min b bytes.length)))).length) ∧
    (∀ b cs, Utf8.decode? (bytes.take b) = .ok cs ↔ Utf8.encode cs = bytes.take b ∧
      Utf8.decode (bytes.take b) = cs ∧ unitOffset bytes b = (cs.map Utf16.width).sum) ∧
    (∀ b f, Utf8.decode? (bytes.take b) = .error f →
      Utf8.PassesFault (bytes.take b) f.index f.length (Utf8.decode (bytes.take b))) ∧
    unitOffset bytes 0 = 0 ∧
    (∀ k, unitOffset bytes (bytes.length + k) = unitOffset bytes bytes.length) ∧
    (∀ b, unitOffset bytes (b + 1) = unitOffset bytes b ∨
      unitOffset bytes (b + 1) = unitOffset bytes b + 1) ∧ Monotone (unitOffset bytes) ∧
    ∀ b, unitOffset bytes b ≤ min b bytes.length := by
  refine ⟨?_, ?_, fun _ _ => Utf8.passesFault_of_decode?, unitOffset_zero bytes,
    unitOffset_length_add bytes, unitOffset_step bytes, unitOffset_monotone bytes,
    unitOffset_le bytes⟩
  · intro b
    rw [← unitOffset_min, unitOffset_eq_length]
  · intro b cs
    rw [Utf8.decode?_eq_ok_iff, iff_self_and]
    intro hencode
    have hdecode : Utf8.decode (bytes.take b) = cs := by rw [← hencode, Utf8.decode_encode]
    refine ⟨hdecode, ?_⟩
    rw [unitOffset_eq_length, hdecode, Utf16.length_encode, List.sum_eq_foldr, List.foldr_map]

/-- Two bytes of four that a letter breaks off, and a surrogate that is encoded as if it were a
character. -/
theorem unitOffset_counts_decoded_broken :
    let bytes : Bytes := [0xF0, 0x9F, 0x41, 0xED, 0xA0, 0x80]
    Utf8.decode? (bytes.take 4) = .error ⟨0, some 2⟩ ∧
      Utf8.PassesFault (bytes.take 4) 0 (some 2) (Utf8.decode (bytes.take 4)) ∧
      (List.range 8).map (unitOffset bytes) = [0, 1, 1, 2, 3, 4, 5, 5] := by
  intro bytes
  have hfault : Utf8.decode? (bytes.take 4) = .error ⟨0, some 2⟩ := by decide +kernel
  obtain ⟨-, -, hpasses, -⟩ := unitOffset_counts_decoded bytes
  exact ⟨hfault, hpasses 4 _ hfault, by decide +kernel⟩

end RegexHost

import RegexHost.Proofs.Text.Rounding

/-! Bytes that are read without a fault are those that some text is written as, and a fault is
passed over as one U+FFFD. A begun sequence spells the first bytes of every character that it can
still become. -/
namespace RegexHost.Utf8

/-- The last `k` bytes of a character of several bytes, six bits of its code in each. -/
def tails (n : Nat) : Nat → Bytes
  | 0 => []
  | k + 1 => .ofNat (0x80 + n / 64 ^ k % 64) :: tails n k

/-- A character of more than one byte, in as many bytes as its code needs. -/
theorem encodeChar_eq_tails {n : Nat} (h : n.isValidChar) (hn : 0x80 ≤ n) :
    encodeChar (Char.ofNat n) =
      if n < 0x800 then .ofNat (0xC0 + n / 64) :: tails n 1
      else if n < 0x10000 then .ofNat (0xE0 + n / 4096) :: tails n 2
      else .ofNat (0xF0 + n / 262144) :: tails n 3 := by
  rw [encodeChar, Utf16.toNat_ofNat_of_isValidChar h, if_neg (by omega)]
  simp [tails]

/-- `bs` begins every character whose code goes on as the begun sequence can. -/
structure Begun.Spells (p : Begun) (bs : Bytes) : Prop where
  seen_eq : p.seen = bs.length
  left_pos : 0 < p.left
  low_ge : 0x80 ≤ p.low
  high_le : p.high ≤ 0xBF
  encodeChar_eq : ∀ n x, p.low ≤ x → x ≤ p.high → n / 64 ^ (p.left - 1) = p.bits * 64 + (x - 0x80) →
    n.isValidChar ∧ encodeChar (Char.ofNat n) = bs ++ tails n p.left

/-- The bytes read last, which have completed no character yet. -/
def State.Spells : State → Bytes → Prop
  | none, bs => bs = []
  | some p, bs => p.Spells bs

theorem ofNat_eq {n : Nat} (b : UInt8) (h : n = b.toNat) : UInt8.ofNat n = b := by
  rw [h, UInt8.ofNat_toNat]

theorem spells_of_two {b : UInt8} (h1 : 0xC2 ≤ b.toNat) (h2 : b.toNat < 0xE0) :
    Begun.Spells ⟨1, 1, 0x80, 0xBF, b.toNat - 0xC0⟩ [b] where
  seen_eq := rfl
  left_pos := Nat.one_pos
  low_ge := le_refl _
  high_le := le_refl _
  encodeChar_eq n x hlow hhigh hn := by
    dsimp only at hlow hhigh
    have hcode : n = (b.toNat - 0xC0) * 64 + (x - 0x80) := by simpa using hn
    have hvalid : n.isValidChar := by
      unfold Nat.isValidChar
      omega
    refine ⟨hvalid, ?_⟩
    rw [encodeChar_eq_tails hvalid (by omega), if_pos (by omega), ofNat_eq b (by omega)]
    rfl

/-- The second byte of a character of three is not one of a shorter form or of a surrogate. -/
theorem spells_of_three {b : UInt8} (h1 : 0xE0 ≤ b.toNat) (h2 : b.toNat < 0xF0) :
    Begun.Spells ⟨1, 2, if b.toNat = 0xE0 then 0xA0 else 0x80,
      if b.toNat = 0xED then 0x9F else 0xBF, b.toNat - 0xE0⟩ [b] where
  seen_eq := rfl
  left_pos := Nat.two_pos
  low_ge := by dsimp only; split_ifs <;> omega
  high_le := by dsimp only; split_ifs <;> omega
  encodeChar_eq n x hlow hhigh hn := by
    dsimp only at hlow hhigh
    have hcode : n / 64 = (b.toNat - 0xE0) * 64 + (x - 0x80) := by simpa using hn
    have hvalid : n.isValidChar ∧ 0x800 ≤ n ∧ n < 0x10000 := by
      unfold Nat.isValidChar
      split_ifs at hlow hhigh <;> omega
    refine ⟨hvalid.1, ?_⟩
    rw [encodeChar_eq_tails hvalid.1 (by omega), if_neg (by omega), if_pos hvalid.2.2, ofNat_eq b]
    · rfl
    · split_ifs at hlow hhigh <;> omega

/-- The second byte of a character of four is not one of a shorter form or of a code that is too
large. -/
theorem spells_of_four {b : UInt8} (h1 : 0xF0 ≤ b.toNat) (h2 : b.toNat < 0xF5) :
    Begun.Spells ⟨1, 3, if b.toNat = 0xF0 then 0x90 else 0x80,
      if b.toNat = 0xF4 then 0x8F else 0xBF, b.toNat - 0xF0⟩ [b] where
  seen_eq := rfl
  left_pos := Nat.succ_pos 2
  low_ge := by dsimp only; split_ifs <;> omega
  high_le := by dsimp only; split_ifs <;> omega
  encodeChar_eq n x hlow hhigh hn := by
    dsimp only at hlow hhigh
    have hcode : n / 4096 = (b.toNat - 0xF0) * 64 + (x - 0x80) := by simpa using hn
    have hvalid : n.isValidChar ∧ 0x10000 ≤ n := by
      unfold Nat.isValidChar
      split_ifs at hlow hhigh <;> omega
    refine ⟨hvalid.1, ?_⟩
    rw [encodeChar_eq_tails hvalid.1 (by omega), if_neg (by omega), if_neg (by omega), ofNat_eq b]
    · rfl
    · split_ifs at hlow hhigh <;> omega

/-- A first byte is a character or begins one. -/
theorem spells_first {b : UInt8} (h : startsChar b) :
    ∃ bs, (first b).2.Spells bs ∧ encode (first b).1 ++ bs = [b] := by
  rw [startsChar, Bool.or_eq_true, Bool.and_eq_true, decide_eq_true_eq, decide_eq_true_eq,
    decide_eq_true_eq] at h
  unfold first
  dsimp only
  rcases h with h1 | ⟨h1, h2⟩
  · have hvalid : b.toNat.isValidChar := .inl (by omega)
    refine ⟨[], by rw [if_pos h1]; rfl, ?_⟩
    rw [if_pos h1, encode_cons, encodeChar, Utf16.toNat_ofNat_of_isValidChar hvalid, if_pos h1,
      ofNat_eq b rfl]
    rfl
  rw [if_neg (by omega), if_neg (by omega)]
  rcases Nat.lt_or_ge b.toNat 0xE0 with h3 | h3
  · rw [if_pos h3]
    exact ⟨[b], spells_of_two h1 h3, rfl⟩
  rw [if_neg (by omega)]
  rcases Nat.lt_or_ge b.toNat 0xF0 with h4 | h4
  · rw [if_pos h4]
    exact ⟨[b], spells_of_three h3 h4, rfl⟩
  · rw [if_neg (by omega), if_pos h2]
    exact ⟨[b], spells_of_four h4 h2, rfl⟩

/-- The byte that a sequence goes on with is the next one of each character that it can become. -/
theorem Begun.Spells.cons_tails {p : Begun} {bs : Bytes} (h : p.Spells bs) {b : UInt8}
    (hb : p.takes b) {n : Nat} (hn : n / 64 ^ (p.left - 1) = p.bits * 64 + (b.toNat - 0x80)) :
    n.isValidChar ∧ encodeChar (Char.ofNat n) = (bs ++ [b]) ++ tails n (p.left - 1) := by
  rw [takes, Bool.and_eq_true, decide_eq_true_eq, decide_eq_true_eq] at hb
  have hlow := h.low_ge
  have hhigh := h.high_le
  obtain ⟨hvalid, hchar⟩ := h.encodeChar_eq n b.toNat hb.1 hb.2 hn
  refine ⟨hvalid, ?_⟩
  obtain ⟨k, hk⟩ : ∃ k, p.left = k + 1 := ⟨p.left - 1, by have := h.left_pos; omega⟩
  rw [hk, Nat.add_sub_cancel] at hn
  rw [hchar, hk, tails, ofNat_eq b (by omega), Nat.add_sub_cancel, List.append_assoc,
    List.singleton_append]

/-- What a byte makes of the bytes before it: they and the byte are written out, or are still to be
completed. -/
theorem Begun.Spells.step {p : Begun} {bs : Bytes} (h : p.Spells bs) {b : UInt8} (hb : p.takes b) :
    ∃ bs', (step (some p) b).2.Spells bs' ∧ encode (step (some p) b).1 ++ bs' = bs ++ [b] := by
  have hpos := h.left_pos
  simp only [Utf8.step, hb, if_true]
  split_ifs with hl
  · have hn : (p.bits * 64 + (b.toNat - 0x80)) / 64 ^ (p.left - 1) =
        p.bits * 64 + (b.toNat - 0x80) := by
      simp [hl]
    obtain ⟨-, hchar⟩ := h.cons_tails hb hn
    refine ⟨[], rfl, ?_⟩
    rw [encode_cons, hchar, hl]
    simp [tails, encode]
  · obtain ⟨k, hk⟩ : ∃ k, p.left = k + 2 := ⟨p.left - 2, by omega⟩
    have hseen : p.seen + 1 = (bs ++ [b]).length := by
      rw [h.seen_eq, List.length_append, List.length_singleton]
    refine ⟨bs ++ [b], ⟨hseen, by dsimp only; omega, le_refl _, le_refl _, ?_⟩, rfl⟩
    intro n x hlow hhigh hn
    dsimp only at hlow hhigh hn
    refine h.cons_tails hb ?_
    have hdiv : n / 64 ^ (k + 1) = n / 64 ^ k / 64 := by
      rw [Nat.div_div_eq_div_mul, Nat.pow_succ]
    rw [show p.left - 1 - 1 = k by omega] at hn
    rw [show p.left - 1 = k + 1 by omega, hdiv, hn]
    omega

/-- Bytes taken without a fault are those that their characters are written as, and those of a
sequence that is begun. -/
theorem Reads.spells {s s' : State} {bs w : Bytes} {cs : List Char} (h : Reads s bs cs s')
    (hw : s.Spells w) : ∃ w', s'.Spells w' ∧ encode cs ++ w' = w ++ bs := by
  induction h generalizing w with
  | nil s => exact ⟨w, hw, (List.append_nil w).symm⟩
  | @start b bs cs s hb _ ih =>
    have hnil : w = [] := hw
    obtain ⟨v, hv, hfirst⟩ := spells_first hb
    obtain ⟨w', hw', hrest⟩ := ih hv
    refine ⟨w', hw', ?_⟩
    rw [encode_append, List.append_assoc, hrest, ← List.append_assoc, hfirst, hnil]
    rfl
  | @next p b bs cs s hb _ ih =>
    have hp : p.Spells w := hw
    obtain ⟨v, hv, hstep⟩ := hp.step hb
    obtain ⟨w', hw', hrest⟩ := ih hv
    refine ⟨w', hw', ?_⟩
    rw [encode_append, List.append_assoc, hrest, ← List.append_assoc, hstep, List.append_assoc]
    rfl

theorem reads_of_faultFrom {pos : Nat} {s : State} {bs : Bytes} (h : faultFrom pos s bs = none) :
    Reads s bs (decodeFrom s bs) none := by
  induction bs generalizing pos s with
  | nil =>
    cases s with
    | none => exact .nil none
    | some p => cases h
  | cons b bs ih =>
    cases s with
    | none =>
      rw [faultFrom] at h
      split_ifs at h with hb
      exact .start hb (ih h)
    | some p =>
      rw [faultFrom] at h
      split_ifs at h with hb
      exact .next hb (ih h)

/-- The strict decoder takes what a text is written as, and nothing else, and gives this text. -/
theorem decode?_eq_ok_iff (bs : Bytes) (cs : List Char) : decode? bs = .ok cs ↔ encode cs = bs := by
  constructor
  · intro h
    rw [decode?] at h
    cases hf : fault? bs with
    | some f =>
      rw [hf] at h
      cases h
    | none =>
      rw [hf] at h
      cases h
      obtain ⟨w, hw, hbs⟩ := (reads_of_faultFrom hf).spells (w := []) rfl
      have hnil : w = [] := hw
      rw [hnil, List.append_nil] at hbs
      exact hbs
  · rintro rfl
    exact decode?_encode cs

theorem decodeFrom_cons (s : State) (b : UInt8) (bs : Bytes) :
    decodeFrom s (b :: bs) = (step s b).1 ++ decodeFrom (step s b).2 bs := by
  cases s <;> rfl

/-- A text read from bytes with a fault at `k`: what stands before it, one U+FFFD, and what the
bytes after the ill-formed part are read as. -/
def PassesFault (bs : Bytes) (k : Nat) (length : Option Nat) (text : List Char) : Prop :=
  ∃ cs, encode cs = bs.take k ∧
    text = cs ++ replacement :: decode (length.elim [] fun n => bs.drop (k + n))

theorem PassesFault.cons {w v bs : Bytes} {b : UInt8} {k : Nat} {length : Option Nat}
    {out text : List Char} (h : PassesFault (v ++ bs) k length text)
    (hout : encode out ++ v = w ++ [b]) :
    PassesFault (w ++ b :: bs) ((encode out).length + k) length (out ++ text) := by
  obtain ⟨cs, hcs, rfl⟩ := h
  have hbytes : w ++ b :: bs = encode out ++ (v ++ bs) := by
    rw [← List.append_assoc, hout, List.append_assoc, List.singleton_append]
  refine ⟨out ++ cs, ?_, ?_⟩
  · rw [hbytes, encode_append, hcs, List.take_length_add_append]
  · rw [hbytes, List.append_assoc]
    cases length with
    | none => rfl
    | some n => rw [Option.elim_some, Option.elim_some, Nat.add_assoc, List.drop_length_add_append]

theorem first_of_not_startsChar {b : UInt8} (h : startsChar b = false) :
    first b = ([replacement], none) := by
  simp only [startsChar, Bool.or_eq_false_iff, Bool.and_eq_false_iff, decide_eq_false_iff_not] at h
  unfold first
  dsimp only
  rw [if_neg h.1]
  rcases Nat.lt_or_ge b.toNat 0xC2 with hlow | hlow
  · rw [if_pos hlow]
  · rw [if_neg (by omega), if_neg (by omega), if_neg (by omega), if_neg (by omega)]

theorem passesFault_decodeFrom {pos : Nat} {s : State} {bs w : Bytes} {f : Fault}
    (h : faultFrom pos s bs = some f) (hw : s.Spells w) (hpos : w.length ≤ pos) :
    ∃ k, f.index + w.length = pos + k ∧ PassesFault (w ++ bs) k f.length (decodeFrom s bs) := by
  induction bs generalizing pos s w with
  | nil =>
    cases s with
    | none => cases h
    | some p =>
      have hp : p.Spells w := hw
      cases h
      exact ⟨0, by dsimp only; rw [hp.seen_eq]; omega, [], rfl, rfl⟩
  | cons b bs ih =>
    rw [decodeFrom_cons]
    cases s with
    | none =>
      have hnil : w = [] := hw
      subst hnil
      rw [faultFrom] at h
      split_ifs at h with hb
      · obtain ⟨v, hv, hout⟩ := spells_first hb
        have hlength := congrArg List.length hout
        simp only [List.length_append, List.length_singleton] at hlength
        obtain ⟨k, hk, hpasses⟩ := ih h hv (by omega)
        exact ⟨(encode (first b).1).length + k, by rw [List.length_nil]; omega, hpasses.cons hout⟩
      · cases h
        rw [step, first_of_not_startsChar (by simpa using hb)]
        exact ⟨0, rfl, [], rfl, rfl⟩
    | some p =>
      have hp : p.Spells w := hw
      rw [faultFrom] at h
      split_ifs at h with hb
      · obtain ⟨v, hv, hout⟩ := hp.step hb
        have hlength := congrArg List.length hout
        simp only [List.length_append, List.length_singleton] at hlength
        obtain ⟨k, hk, hpasses⟩ := ih h hv (by omega)
        exact ⟨(encode (step (some p) b).1).length + k, by omega, hpasses.cons hout⟩
      · cases h
        -- the byte that breaks the sequence off is read again
        refine ⟨0, by dsimp only; rw [hp.seen_eq]; omega, [], rfl, ?_⟩
        rw [step, if_neg hb, Option.elim_some, Nat.zero_add, hp.seen_eq, List.drop_left]
        rfl

/-- Where the strict decoder stops, the lossy one puts one U+FFFD for the ill-formed part and goes
on after it. -/
theorem passesFault_of_decode? {bs : Bytes} {f : Fault} (h : decode? bs = .error f) :
    PassesFault bs f.index f.length (decode bs) := by
  rw [decode?] at h
  cases hf : fault? bs with
  | none =>
    rw [hf] at h
    cases h
  | some g =>
    rw [hf] at h
    cases h
    obtain ⟨k, hk, hpasses⟩ := passesFault_decodeFrom (w := []) hf rfl (Nat.zero_le 0)
    rw [List.length_nil, Nat.add_zero, Nat.zero_add] at hk
    rw [hk]
    exact hpasses

end RegexHost.Utf8

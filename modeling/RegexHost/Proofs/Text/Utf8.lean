import RegexHost.Text.Utf8Cells
import Mathlib.Tactic

/-! What is written as UTF-8 is read back, and where its characters begin. -/
namespace RegexHost.Utf8

/-- Bytes that a decoder takes without a fault, the characters they complete and where they leave
it. -/
inductive Reads : State → Bytes → List Char → State → Prop
  | nil (s : State) : Reads s [] [] s
  | start {b : UInt8} {bs : Bytes} {cs : List Char} {s : State} (hb : startsChar b)
      (h : Reads (first b).2 bs cs s) : Reads none (b :: bs) ((first b).1 ++ cs) s
  | next {p : Begun} {b : UInt8} {bs : Bytes} {cs : List Char} {s : State} (hb : p.takes b)
      (h : Reads (step (some p) b).2 bs cs s) :
    Reads (some p) (b :: bs) ((step (some p) b).1 ++ cs) s

namespace Reads

theorem decodeFrom_append {s s' : State} {bs : Bytes} {cs : List Char} (h : Reads s bs cs s')
    (rest : Bytes) : decodeFrom s (bs ++ rest) = cs ++ decodeFrom s' rest := by
  induction h with
  | nil s => rfl
  | start hb _ ih => rw [List.cons_append, decodeFrom, step, ih, List.append_assoc]
  | next hb _ ih => rw [List.cons_append, decodeFrom, ih, List.append_assoc]

theorem faultFrom_append {s s' : State} {bs : Bytes} {cs : List Char} (h : Reads s bs cs s')
    (pos : Nat) (rest : Bytes) :
    faultFrom pos s (bs ++ rest) = faultFrom (pos + bs.length) s' rest := by
  induction h generalizing pos with
  | nil s => rfl
  | start hb _ ih =>
    rw [List.cons_append, faultFrom, if_pos hb, ih, List.length_cons, Nat.add_right_comm,
      Nat.add_assoc]
  | next hb _ ih =>
    rw [List.cons_append, faultFrom, if_pos hb, ih, List.length_cons, Nat.add_right_comm,
      Nat.add_assoc]

theorem trans {s s' s'' : State} {bs bs' : Bytes} {cs cs' : List Char} (h : Reads s bs cs s')
    (h' : Reads s' bs' cs' s'') : Reads s (bs ++ bs') (cs ++ cs') s'' := by
  induction h with
  | nil s => exact h'
  | start hb _ ih =>
    rw [List.cons_append, List.append_assoc]
    exact .start hb (ih h')
  | next hb _ ih =>
    rw [List.cons_append, List.append_assoc]
    exact .next hb (ih h')

theorem alone {b : UInt8} {c : Char} (hb : b.toNat < 0x80) (hc : b.toNat = c.toNat) :
    Reads none [b] [c] none := by
  have hf : first b = ([c], none) := by
    rw [first, if_pos hb, hc, Char.ofNat_toNat]
  have h := @Reads.start b [] [] none (by simp [startsChar, hb]) (by rw [hf]; exact .nil _)
  rwa [hf] at h

theorem begun {b : UInt8} {p : Begun} {bs : Bytes} {cs : List Char} {s : State}
    (hb : 0xC2 ≤ b.toNat ∧ b.toNat < 0xF5) (hf : first b = ([], some p))
    (h : Reads (some p) bs cs s) : Reads none (b :: bs) cs s := by
  have hs := Reads.start (b := b) (by simp [startsChar, hb]) (by rw [hf]; exact h)
  rwa [hf, List.nil_append] at hs

theorem more {p : Begun} {b : UInt8} {bs : Bytes} {cs : List Char} {s : State}
    (hb : p.takes b) (hl : p.left ≠ 1)
    (h : Reads (some ⟨p.seen + 1, p.left - 1, 0x80, 0xBF, p.bits * 64 + (b.toNat - 0x80)⟩) bs cs
      s) : Reads (some p) (b :: bs) cs s := by
  have hs : step (some p) b =
      ([], some ⟨p.seen + 1, p.left - 1, 0x80, 0xBF, p.bits * 64 + (b.toNat - 0x80)⟩) := by
    simp [step, hb, hl]
  have hn := Reads.next hb (by rw [hs]; exact h)
  rwa [hs, List.nil_append] at hn

theorem last {p : Begun} {b : UInt8} {c : Char} (hb : p.takes b) (hl : p.left = 1)
    (hc : p.bits * 64 + (b.toNat - 0x80) = c.toNat) : Reads (some p) [b] [c] none := by
  have hs : step (some p) b = ([c], none) := by
    simp [step, hb, hl, hc]
  have hn := Reads.next hb (by rw [hs]; exact .nil _)
  rwa [hs] at hn

end Reads

private theorem toNat_ofNat_of_lt {n : Nat} (h : n < 256) : (UInt8.ofNat n).toNat = n := by
  rw [UInt8.toNat_ofNat', Nat.mod_eq_of_lt h]

/-- The bounds on a second byte leave out only what no character is written as. -/
theorem reads_encodeChar (c : Char) : Reads none (encodeChar c) [c] none := by
  have hv : c.toNat < 0xD800 ∨ 0xDFFF < c.toNat ∧ c.toNat < 0x110000 := c.valid
  have htail (n : Nat) : (UInt8.ofNat (0x80 + n % 64)).toNat = 0x80 + n % 64 :=
    toNat_ofNat_of_lt (by omega)
  unfold encodeChar
  dsimp only
  split_ifs with h1 h2 h3
  · exact .alone (by rw [toNat_ofNat_of_lt] <;> omega) (toNat_ofNat_of_lt (by omega))
  · have hn := toNat_ofNat_of_lt (n := 0xC0 + c.toNat / 64) (by omega)
    refine .begun (p := ⟨1, 1, 0x80, 0xBF, c.toNat / 64⟩) (by omega) ?_ ?_
    · simp only [first, hn]
      grind
    · refine .last ?_ rfl ?_
      · simp only [Begun.takes, htail, Bool.and_eq_true, decide_eq_true_eq]
        omega
      · simp only [htail]
        omega
  · have hn := toNat_ofNat_of_lt (n := 0xE0 + c.toNat / 4096) (by omega)
    refine .begun (p := ⟨1, 2, if c.toNat / 4096 = 0 then 0xA0 else 0x80,
      if c.toNat / 4096 = 13 then 0x9F else 0xBF, c.toNat / 4096⟩) (by omega) ?_ ?_
    · simp only [first, hn]
      grind
    · refine .more ?_ (by simp) (.last ?_ rfl ?_)
      · simp only [Begun.takes, htail, Bool.and_eq_true, decide_eq_true_eq]
        split_ifs <;> omega
      · simp only [Begun.takes, htail, Bool.and_eq_true, decide_eq_true_eq]
        omega
      · simp only [htail]
        omega
  · have hn := toNat_ofNat_of_lt (n := 0xF0 + c.toNat / 262144) (by omega)
    refine .begun (p := ⟨1, 3, if c.toNat / 262144 = 0 then 0x90 else 0x80,
      if c.toNat / 262144 = 4 then 0x8F else 0xBF, c.toNat / 262144⟩) (by omega) ?_ ?_
    · simp only [first, hn]
      grind
    · refine .more ?_ (by simp) (.more ?_ (by simp) (.last ?_ rfl ?_))
      · simp only [Begun.takes, htail, Bool.and_eq_true, decide_eq_true_eq]
        split_ifs <;> omega
      · simp only [Begun.takes, htail, Bool.and_eq_true, decide_eq_true_eq]
        omega
      · simp only [Begun.takes, htail, Bool.and_eq_true, decide_eq_true_eq]
        omega
      · simp only [htail]
        omega

theorem encode_cons (c : Char) (cs : List Char) : encode (c :: cs) = encodeChar c ++ encode cs :=
  List.flatMap_cons

@[simp] theorem encode_append (l r : List Char) : encode (l ++ r) = encode l ++ encode r :=
  List.flatMap_append

theorem reads_encode (cs : List Char) : Reads none (encode cs) cs none := by
  induction cs with
  | nil => exact .nil none
  | cons c cs ih => exact (reads_encodeChar c).trans ih

@[simp] theorem decode_encode (cs : List Char) : decode (encode cs) = cs := by
  simpa [decode, decodeFrom] using (reads_encode cs).decodeFrom_append []

@[simp] theorem fault?_encode (cs : List Char) : fault? (encode cs) = none := by
  simpa [fault?, faultFrom] using (reads_encode cs).faultFrom_append 0 []

@[simp] theorem decode?_encode (cs : List Char) : decode? (encode cs) = .ok cs := by
  simp [decode?]

end RegexHost.Utf8

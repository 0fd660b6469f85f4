import Mathlib.Data.List.Basic
import RegexHost.Text.LowerCase

/-! What of a text in lower case each character has decided alone. Its surroundings tell only which
of the two small letters a sigma becomes. So a word without sigmas that is found in the lower case
of a text is found there in any context, and in whatever ASCII case the text is written. -/
namespace RegexHost.LowerCase

/-- The small sigma inside a word, for the one that ends a word. -/
def medial (c : Char) : Char :=
  if c = 'ς' then 'σ' else c

/-- Each character in lower case as if it stood alone. -/
def apart (cs : List Char) : List Char :=
  cs.flatMap fun c => (inContext [] c []).map medial

theorem medial_sigma (before after : List Char) : medial (sigma before after) = 'σ' := by
  unfold sigma
  split_ifs <;> rfl

theorem map_medial_inContext (before : List Char) (c : Char) (after : List Char) :
    (inContext before c after).map medial = (inContext [] c []).map medial := by
  by_cases hc : c = 'Σ'
  · simp only [inContext, if_pos hc, List.map_singleton, medial_sigma]
  · simp only [inContext, if_neg hc]

theorem map_medial_lowerFrom (before cs : List Char) :
    (lowerFrom before cs).map medial = apart cs := by
  induction cs generalizing before with
  | nil => rfl
  | cons c cs ih =>
    rw [lowerFrom, List.map_append, map_medial_inContext, ih, apart, apart, List.flatMap_cons]

theorem map_medial_lower (cs : List Char) : (lower cs).map medial = apart cs :=
  map_medial_lowerFrom [] cs

theorem apart_append (xs ys : List Char) : apart (xs ++ ys) = apart xs ++ apart ys :=
  List.flatMap_append

/-- `Char.toLower` changes ASCII capitals only, and a capital has the lower case of its small
letter. -/
theorem inContext_toLower (c : Char) : inContext [] c.toLower [] = inContext [] c [] := by
  by_cases hc : 'A'.val ≤ c.val ∧ c.val ≤ 'Z'.val
  · have hcapitals : ∀ n : Fin 26, inContext [] (Char.ofNat ('A'.toNat + n)).toLower [] =
        inContext [] (Char.ofNat ('A'.toNat + n)) [] := by decide +kernel
    have hrange : 'A'.toNat ≤ c.toNat ∧ c.toNat ≤ 'Z'.toNat := by
      rwa [UInt32.le_iff_toNat_le, UInt32.le_iff_toNat_le] at hc
    have hcode : 'A'.toNat + (c.toNat - 'A'.toNat) = c.toNat := Nat.add_sub_cancel' hrange.1
    have hletter := hcapitals ⟨c.toNat - 'A'.toNat,
      Nat.lt_of_le_of_lt (Nat.sub_le_sub_right hrange.2 _) (by decide)⟩
    rwa [hcode, Char.ofNat_toNat] at hletter
  · have hsame : c.toLower = c := dif_neg hc
    rw [hsame]

theorem apart_map_toLower (cs : List Char) : apart (cs.map Char.toLower) = apart cs := by
  simp only [apart, List.flatMap_map, inContext_toLower]

theorem toList_toLower (s : String) : s.toLower.toList = s.toList.map Char.toLower :=
  String.toList_map

/-- Two texts that differ in ASCII case only. -/
theorem apart_congr {s t : String} (h : s.toLower = t.toLower) :
    apart s.toList = apart t.toList := by
  rw [← apart_map_toLower, ← toList_toLower, h, toList_toLower, apart_map_toLower]

theorem map_medial_of_notMem {cs : List Char} (h : 'ς' ∉ cs) : cs.map medial = cs := by
  have hfix : ∀ c ∈ cs, medial c = id c := fun c hc => if_neg (ne_of_mem_of_not_mem hc h)
  rw [List.map_congr_left hfix, List.map_id]

/-- A word that has neither of the small sigmas. -/
def Sigmaless (word : List Char) : Prop :=
  'σ' ∉ word ∧ 'ς' ∉ word
  deriving Decidable

namespace Sigmaless

variable {word cs : List Char} (h : Sigmaless word)

include h

theorem map_medial_eq_iff : cs.map medial = word ↔ cs = word := by
  constructor
  · rintro rfl
    -- a sigma that ends a word would be the other one in `word`
    have hcs : 'ς' ∉ cs := fun hmem => h.1 (List.mem_map.mpr ⟨'ς', hmem, rfl⟩)
    exact (map_medial_of_notMem hcs).symm
  · rintro rfl
    exact map_medial_of_notMem h.2

theorem lower_eq_iff : lower cs = word ↔ apart cs = word := by
  rw [← map_medial_lower, h.map_medial_eq_iff]

theorem infix_lower_iff : word <:+: lower cs ↔ word <:+: apart cs := by
  rw [← map_medial_lower, List.infix_map_iff]
  constructor
  · intro hin
    exact ⟨word, hin, (h.map_medial_eq_iff.mpr rfl).symm⟩
  · rintro ⟨l, hin, hl⟩
    rwa [h.map_medial_eq_iff.mp hl.symm] at hin

theorem infix_lower_append (hin : word <:+: lower cs) (before after : List Char) :
    word <:+: lower (before ++ cs ++ after) := by
  rw [h.infix_lower_iff] at hin ⊢
  rw [apart_append, apart_append]
  exact hin.trans (List.infix_append _ _ _)

end Sigmaless

end RegexHost.LowerCase

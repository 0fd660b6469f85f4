import Mathlib.Data.List.Find
import RegexHost.Platform
import RegexHost.Proofs.Table
import RegexHost.Proofs.Text.Casing

/-! How the names of systems and architectures are recognised. Of the systems that a name holds a
word of, the answer is the highest. Neither the text around a name nor its ASCII case takes a word
away from it. -/
namespace RegexHost

open LowerCase

theorem holdsWord_iff {word cs : List Char} : holdsWord word cs = true ↔ word <:+: cs := by
  induction cs with
  | nil => rw [holdsWord, List.isEmpty_iff, List.infix_nil]
  | cons c cs ih =>
    rw [holdsWord, Bool.or_eq_true, ih, List.isPrefixOf_iff_prefix, List.infix_cons_iff]

/-- What a search stops at comes before all else that it could have stopped at. -/
theorem rel_of_find?_eq_some {α : Type} {R : α → α → Prop} {p : α → Bool} {l : List α} {a b : α}
    (hl : l.Pairwise R) (ha : l.find? p = some a) (hb : b ∈ l) (hp : p b = true) :
    b = a ∨ R a b := by
  obtain ⟨-, before, after, rfl, hbefore⟩ := List.find?_eq_some_iff_append.mp ha
  have hafter : ∀ c ∈ after, R a c := (List.pairwise_cons.mp (List.pairwise_append.mp hl).2.1).1
  rw [List.mem_append, List.mem_cons] at hb
  obtain hb | rfl | hb := hb
  · -- the search has passed over all that is before `a`
    have hpassed := hbefore b hb
    rw [hp] at hpassed
    cases hpassed
  · exact Or.inl rfl
  · exact Or.inr (hafter b hb)

namespace Os

/-- Where an answer stands among all answers: none, then the systems, the one that is looked for
first at the top. -/
def rank : Option Os → Nat
  | none => 0
  | some linux => 1
  | some windows => 2
  | some macOs => 3

theorem eq_macOs_of_le_rank :
    ∀ {answer : Option Os}, rank (some macOs) ≤ rank answer → answer = some macOs
  | some macOs, _ => rfl
  | some windows, h | some linux, h | none, h => absurd h (by decide)

theorem words_descending : words.Pairwise fun w v => rank (some v.1) ≤ rank (some w.1) := by
  decide

theorem words_sigmaless : ∀ w ∈ words, ∀ word ∈ w.2, Sigmaless word.toList := by
  decide +kernel

theorem words_small : ∀ w ∈ words, ∀ word ∈ w.2, apart word.toList = word.toList := by
  decide +kernel

/-- One of the words that tell a system is found in a text in lower case. -/
def Holds (text : String) (w : Os × List String) : Prop :=
  ∃ word ∈ w.2, word.toList <:+: lower text.toList

theorem any_holdsWord_iff {text : String} {w : Os × List String} :
    (w.2.any fun word => holdsWord word.toList (lower text.toList)) = true ↔ Holds text w := by
  simp only [List.any_eq_true, holdsWord_iff, Holds]

theorem holds_of_classify {text : String} {os : Os} (h : classify text = some os) :
    ∃ w ∈ words, w.1 = os ∧ Holds text w := by
  obtain ⟨w, hw, rfl⟩ := Option.map_eq_some_iff.mp h
  have hp := List.find?_some hw
  exact ⟨w, List.mem_of_find?_eq_some hw, rfl, any_holdsWord_iff.mp hp⟩

theorem rank_le_classify {text : String} {w : Os × List String} (hw : w ∈ words)
    (h : Holds text w) : rank (some w.1) ≤ rank (classify text) := by
  have hp := any_holdsWord_iff.mpr h
  rw [classify]
  cases hv : words.find? fun w => w.2.any fun word => holdsWord word.toList (lower text.toList) with
  | none => exact absurd hp (List.find?_eq_none.mp hv w hw)
  | some v =>
    obtain rfl | hle := rel_of_find?_eq_some words_descending hv hw hp
    · exact Nat.le_refl _
    · exact hle

/-- More words make no lower answer. -/
theorem rank_classify_mono {s t : String} (h : ∀ w ∈ words, Holds s w → Holds t w) :
    rank (classify s) ≤ rank (classify t) := by
  cases hs : classify s with
  | none => exact Nat.zero_le _
  | some os =>
    obtain ⟨w, hw, rfl, hheld⟩ := holds_of_classify hs
    exact rank_le_classify hw (h w hw hheld)

theorem Holds.append {text : String} {w : Os × List String} (h : Holds text w) (hw : w ∈ words)
    (before after : String) : Holds (before ++ text ++ after) w := by
  obtain ⟨word, hword, hin⟩ := h
  refine ⟨word, hword, ?_⟩
  rw [String.toList_append, String.toList_append]
  exact (words_sigmaless w hw word hword).infix_lower_append hin _ _

theorem Holds.congr {s t : String} {w : Os × List String} (h : Holds s w) (hw : w ∈ words)
    (hst : s.toLower = t.toLower) : Holds t w := by
  obtain ⟨word, hword, hin⟩ := h
  have hfree := words_sigmaless w hw word hword
  refine ⟨word, hword, ?_⟩
  rwa [hfree.infix_lower_iff, apart_congr hst, ← hfree.infix_lower_iff] at hin

/-- Each word is found where it is written in any ASCII case. -/
theorem holds_of_toLower_mem {text : String} {w : Os × List String} (hw : w ∈ words)
    (h : text.toLower ∈ w.2) : Holds text w := by
  have hsmall : apart text.toList = text.toLower.toList := by
    rw [← words_small w hw _ h, toList_toLower, apart_map_toLower]
  exact ⟨_, h, (words_sigmaless w hw _ h).infix_lower_iff.mpr (hsmall ▸ List.infix_rfl)⟩

theorem rank_classify_append (before text after : String) :
    rank (classify text) ≤ rank (classify (before ++ text ++ after)) :=
  rank_classify_mono fun _ hw h => h.append hw before after

example : ["Linux", "Twin Linux", "Darwin Linux"].map classify =
    [some linux, some windows, some macOs] := by
  decide +kernel

theorem classify_congr {s t : String} (h : s.toLower = t.toLower) : classify s = classify t := by
  refine congrArg (Option.map Prod.fst) (List.find?_congr fun w hw => ?_)
  rw [Bool.eq_iff_iff, any_holdsWord_iff, any_holdsWord_iff]
  exact ⟨fun hs => hs.congr hw h, fun ht => ht.congr hw h.symm⟩

theorem classify_eq_macOs {text : String} (h : text.toLower = "mac" ∨ text.toLower = "darwin")
    (before after : String) : classify (before ++ text ++ after) = some macOs := by
  have hw : (macOs, ["mac", "darwin"]) ∈ words := List.mem_cons_self
  have hheld : Holds text (macOs, ["mac", "darwin"]) := holds_of_toLower_mem hw (by simpa using h)
  exact eq_macOs_of_le_rank (rank_le_classify hw (hheld.append hw before after))

end Os

namespace Arch

theorem words_nodup : (words.map (·.1)).Nodup := by
  decide +kernel

theorem words_sigmaless : ∀ e ∈ words, Sigmaless e.1.toList := by
  decide +kernel

theorem classify_eq_some_iff {text : String} {arch : Arch} :
    classify text = some arch ↔ ∃ e ∈ words, e.2 = arch ∧ lower text.toList = e.1.toList := by
  rw [classify, lookup_eq_some_iff_mem words_nodup]
  constructor
  · intro h
    exact ⟨_, h, rfl, String.toList_ofList.symm⟩
  · rintro ⟨⟨word, arch⟩, he, rfl, h⟩
    rwa [h, String.ofList_toList]

theorem classify_congr {s t : String} (h : s.toLower = t.toLower) : classify s = classify t := by
  ext arch
  rw [classify_eq_some_iff, classify_eq_some_iff]
  refine exists_congr fun e => and_congr_right fun he => and_congr_right fun _ => ?_
  rw [(words_sigmaless e he).lower_eq_iff, (words_sigmaless e he).lower_eq_iff, apart_congr h]

end Arch

namespace Platform

theorem resolve_eq_ok_iff {os arch : String} {p : Platform} :
    resolve os arch = .ok p ↔ Os.classify os = some p.os ∧ Arch.classify arch = some p.arch := by
  rw [resolve]
  cases Os.classify os <;> cases Arch.classify arch <;> cases p <;> simp

theorem resolve_eq_error_iff {os arch : String} {e : Error} :
    resolve os arch = .error e ↔
      (Os.classify os = none ∨ Arch.classify arch = none) ∧ e = .unsupportedPlatform os arch := by
  rw [resolve]
  cases Os.classify os <;> cases Arch.classify arch <;> simp [eq_comm]

/-- Text around a name of a system never lowers the answer, and what holds "mac" or "darwin" in any
ASCII case is macOS, whatever stands around it. The ASCII case of a name, which is all that
`String.toLower` forgets, changes no answer. Two names are resolved to what they are recognised as,
and to an error with both of them where one is not. -/
theorem recognised_in_context :
    (∀ before text after : String,
      Os.rank (Os.classify text) ≤ Os.rank (Os.classify (before ++ text ++ after))) ∧
    (∀ before text after : String, text.toLower = "mac" ∨ text.toLower = "darwin" →
      Os.classify (before ++ text ++ after) = some .macOs) ∧
    (∀ s t : String, s.toLower = t.toLower →
      Os.classify s = Os.classify t ∧ Arch.classify s = Arch.classify t) ∧ ∀ os arch : String,
      (∀ p, resolve os arch = .ok p ↔
        Os.classify os = some p.os ∧ Arch.classify arch = some p.arch) ∧
      ∀ e, resolve os arch = .error e ↔
        (Os.classify os = none ∨ Arch.classify arch = none) ∧ e = .unsupportedPlatform os arch :=
  ⟨Os.rank_classify_append, fun before _ after h => Os.classify_eq_macOs h before after,
    fun _ _ h => ⟨Os.classify_congr h, Arch.classify_congr h⟩,
    fun _ _ => ⟨fun _ => resolve_eq_ok_iff, fun _ => resolve_eq_error_iff⟩⟩

/-- A name between other words, with sigmas at both ends of it and a capital that no word goes
over. -/
theorem recognised_in_context_mixed :
    "DaRWiN".toLower = "darwin" ∧ Os.classify ("WİN Σ" ++ "DaRWiN" ++ "Σ nux") = some .macOs ∧
    "ARM64".toLower = "arm64".toLower ∧ Arch.classify "ARM64" = some .aarch64 := by
  obtain ⟨-, hmac, hcase, -⟩ := recognised_in_context
  have hword : "DaRWiN".toLower = "darwin" := by simp [← String.toList_inj, toList_toLower]
  have harch : "ARM64".toLower = "arm64".toLower := by simp [← String.toList_inj, toList_toLower]
  have hsmall : Arch.classify "arm64" = some .aarch64 := by decide +kernel
  exact ⟨hword, hmac "WİN Σ" "DaRWiN" "Σ nux" (Or.inr hword), harch,
    (hcase "ARM64" "arm64" harch).2.trans hsmall⟩

end Platform

end RegexHost

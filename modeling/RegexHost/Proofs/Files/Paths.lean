import RegexHost.Files.Path
import RegexHost.Platform
import Mathlib.Tactic

/-! The steps of paths that are joined, and parts that lead down from where they are joined to. -/
namespace RegexHost

theorem pieces_ne_nil (s : Char) (cs : List Char) : pieces s cs ≠ [] := by
  cases cs with
  | nil => nofun
  | cons c cs =>
    rw [pieces]
    split_ifs
    · nofun
    · cases pieces s cs <;> nofun

theorem pieces_append (s : Char) (cs ds : List Char) :
    pieces s (cs ++ s :: ds) = pieces s cs ++ pieces s ds := by
  induction cs with
  | nil => simp [pieces]
  | cons c cs ih =>
    rw [List.cons_append, pieces, ih, pieces]
    split_ifs
    · rfl
    · cases hp : pieces s cs with
      | nil => exact absurd hp (pieces_ne_nil s cs)
      | cons p ps => rfl

theorem pieces_cons {s c : Char} (hc : c ≠ s) (cs : List Char) :
    ∃ p ps, pieces s (c :: cs) = (c :: p) :: ps := by
  rw [pieces, if_neg hc]
  cases pieces s cs with
  | nil => exact ⟨[], [], rfl⟩
  | cons p ps => exact ⟨p, ps, rfl⟩

theorem pieces_of_notMem {s : Char} {cs : List Char} (hs : s ∉ cs) : pieces s cs = [cs] := by
  induction cs with
  | nil => rfl
  | cons c cs ih =>
    obtain ⟨hc, hs⟩ := List.ne_and_not_mem_of_not_mem_cons hs
    rw [pieces, if_neg hc.symm, ih hs]

theorem intercalate_pieces (s : Char) (cs : List Char) : [s].intercalate (pieces s cs) = cs := by
  induction cs with
  | nil => simp [pieces, List.intercalate]
  | cons c cs ih =>
    obtain ⟨p, ps, hp⟩ := List.exists_cons_of_ne_nil (pieces_ne_nil s cs)
    rw [hp] at ih
    by_cases hc : c = s
    · rw [pieces, if_pos hc, hp, List.intercalate_cons_cons, ih, hc]
      rfl
    · rw [pieces, if_neg hc, hp]
      dsimp only
      cases ps with
      | nil => simpa using ih
      | cons q ps =>
        rw [List.intercalate_cons_cons] at ih ⊢
        rw [← ih]
        rfl

theorem notMem_of_mem_pieces {s : Char} {cs p : List Char} (hp : p ∈ pieces s cs) : s ∉ p := by
  induction cs generalizing p with
  | nil => simp_all [pieces]
  | cons c cs ih =>
    obtain ⟨q, qs, hq⟩ := List.exists_cons_of_ne_nil (pieces_ne_nil s cs)
    rw [hq] at ih
    rw [pieces, hq] at hp
    split_ifs at hp with hc
    · rcases List.mem_cons.mp hp with rfl | hp
      · exact List.not_mem_nil
      · exact ih hp
    · rcases List.mem_cons.mp hp with rfl | hp
      · rw [List.mem_cons, not_or]
        exact ⟨Ne.symm hc, ih (List.mem_cons_self ..)⟩
      · exact ih (List.mem_cons_of_mem q hp)

namespace Path

theorem intercalate_steps (p : String) : "/".intercalate (steps p) = p := by
  have hid : String.toList ∘ String.ofList = id := by
    funext cs
    exact String.toList_ofList
  rw [← String.toList_inj, String.toList_intercalate, steps, List.map_map, hid, List.map_id]
  exact intercalate_pieces '/' p.toList

theorem notMem_of_mem_steps {p s : String} (hs : s ∈ steps p) : '/' ∉ s.toList := by
  rw [steps, List.mem_map] at hs
  obtain ⟨cs, hcs, rfl⟩ := hs
  rw [String.toList_ofList]
  exact notMem_of_mem_pieces hcs

theorem steps_append (p q : String) : steps (p ++ "/" ++ q) = steps p ++ steps q := by
  rw [steps, steps, steps, String.toList_append, String.toList_append, List.append_assoc,
    ← List.map_append, ← pieces_append]
  rfl

/-- A path that ends in a slash has an empty step there, which is not one of what is joined to
it. -/
theorem steps_join {p q : String} (hp : p ≠ "") (hq : isAbsolute q = false) :
    ∃ xs t, steps p = xs ++ t ∧ (∀ s ∈ t, s = "") ∧ steps (join p q) = xs ++ steps q := by
  by_cases he : endsInSlash p = true
  · obtain ⟨cs, hcs⟩ := List.getLast?_eq_some_iff.mp (of_decide_eq_true he)
    have hp' : p = .ofList cs ++ "/" := by rw [← String.toList_inj, hcs, String.toList_append]; simp
    refine ⟨steps (.ofList cs), [""], ?_, by simp, ?_⟩
    · have hempty := steps_append (.ofList cs) ""
      rwa [String.append_empty, ← hp'] at hempty
    · rw [join, hq, if_neg Bool.false_ne_true, he, Bool.or_true, if_pos rfl, hp', steps_append]
  · refine ⟨steps p, [], (List.append_nil _).symm, nofun, ?_⟩
    rw [← steps_append, join, hq, Bool.eq_false_iff.mpr he]
    simp [hp]

theorem isAbsolute_join {p q : String} (hp : p ≠ "") (hq : isAbsolute q = false) :
    isAbsolute (join p q) = isAbsolute p := by
  obtain ⟨c, cs, hc⟩ := List.exists_cons_of_ne_nil fun hnil => hp (String.toList_eq_nil_iff.mp hnil)
  rw [join, hq, if_neg Bool.false_ne_true]
  split_ifs <;> simp [isAbsolute, String.toList_append, hc]

/-- Leads down: not from the root on, nor first to what is above. -/
structure Inward (p : String) : Prop where
  relative : isAbsolute p = false
  first : (names p).head? ≠ some ".."

theorem Inward.of_cons {c : Char} {cs : List Char} {p : String} (hp : p.toList = c :: cs)
    (hc : c ≠ '/' ∧ c ≠ '.') : Inward p := by
  obtain ⟨q, qs, hqs⟩ := pieces_cons hc.1 cs
  have hstep : ∀ s : String, s.toList.head? ≠ some c → String.ofList (c :: q) ≠ s := by
    rintro _ hs rfl
    simp at hs
  have hnames : (names p).head? = some (.ofList (c :: q)) := by
    rw [names, steps, hp, hqs, List.map_cons, List.filter_cons_of_pos, List.head?_cons]
    exact decide_eq_true ⟨hstep "" nofun, hstep "." (by simpa using hc.2.symm)⟩
  constructor
  · rw [isAbsolute, hp]
    simpa using hc.1
  · rw [hnames]
    intro he
    exact hstep ".." (by simpa using hc.2.symm) (Option.some.inj he)

theorem Inward.of_notMem {p : String} (hp : '/' ∉ p.toList) (hup : p ≠ "..") : Inward p := by
  have hsteps : steps p = [p] := by
    rw [steps, pieces_of_notMem hp, List.map_singleton, String.ofList_toList]
  constructor
  · rw [isAbsolute, decide_eq_false_iff_not]
    exact fun hhead => hp (List.mem_of_mem_head? hhead)
  · rw [names, hsteps, List.filter_singleton]
    cases decide (p ≠ "" ∧ p ≠ ".") with
    | true => exact fun he => hup (Option.some.inj he)
    | false => nofun

end Path

/-- Outside of Windows the name of a library file begins with letters, and a name without a slash is
one step. -/
theorem Platform.inward_libraryFile (p : Platform) {library : String}
    (h : p.os ≠ .windows ∨ '/' ∉ library.toList) : Path.Inward (p.libraryFile library) := by
  unfold libraryFile
  cases hos : p.os with
  | linux | macOs => exact .of_cons (c := 'l') (by simp [String.toList_append]; rfl) (by decide)
  | windows =>
    have hslash := h.resolve_left (not_not.mpr hos)
    refine .of_notMem ?_ fun he => ?_
    · simp [String.toList_append, hslash]
    · have hlast := congrArg (·.toList.getLast?) he
      simp [String.toList_append] at hlast

end RegexHost

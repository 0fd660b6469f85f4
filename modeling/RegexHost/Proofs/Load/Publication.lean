import RegexHost.Proofs.Load.Consistent

/-! The value can be read before the state says so: the one call that wrote it publishes `loaded` a
step later, and a call that reads without the lock may return in between. From that step on the
state stays `loaded`. -/
namespace RegexHost.Load.Race

variable {ω ε α : Type} {h : List (Event ε α)} {r : Race ω ε α} {i : Nat} {a : α}

theorem Consistent.state_ne_notLoaded (hr : r.Consistent h) (hv : r.gate.value = some a) :
    r.gate.state ≠ .notLoaded := by
  obtain hg | ⟨j, load, p, hc, hat, hp⟩ := hr.settled_or
  · rw [hg.state, hv]
    nofun
  · cases p with
    | loading | writing | publishing =>
      rw [hp.2.1]
      nofun
    | _ => cases hat

/-- With a value there, the state is `loaded` unless a call is about to make it so. -/
theorem Consistent.state_eq_loaded_iff (hr : r.Consistent h) (hv : r.gate.value = some a) :
    r.gate.state = .loaded ↔
      ∀ (j : Nat) load result, r.calls[j]? ≠ some (load, Point.publishing .loaded result) := by
  constructor
  · intro hl j load result hc
    obtain ⟨-, ht, -⟩ := hr.fits j load _ hc
    cases ht.symm.trans hl
  · intro hn
    obtain hg | ⟨j, load, p, hc, hat, hp⟩ := hr.settled_or
    · rw [hg.state, hv]
      rfl
    · cases p with
      | loading | writing => cases hp.2.2.1.symm.trans hv
      | publishing state result =>
        obtain ⟨-, -, -, hs, -⟩ := hp
        rw [hv] at hs
        cases hs
        exact absurd hc (hn j load result)
      | _ => cases hat

theorem value_step (hv : r.gate.value = some a) (i : Nat) : (r.step i).gate.value = some a := by
  obtain ⟨hs, -, -⟩ | ⟨load, p, p', gate, world, -, ha, hs, -⟩ := r.step_cases i
  · rw [hs]
    exact hv
  · rw [hs]
    exact (Gate.moves_of_advance ha).value hv

theorem value_run (hv : r.gate.value = some a) (later : List Nat) :
    (r.run later).gate.value = some a := by
  induction later generalizing r with
  | nil => exact hv
  | cons i later ih => exact ih (value_step hv i)

/-- With a value there, no call gets to publish any more, and one that is there leaves with its
turn. -/
theorem Consistent.publishing_step (hr : r.Consistent h) (hv : r.gate.value = some a) (i j : Nat)
    {load : Loader ω ε α} {state : State} {result : Outcome ε α} :
    (r.step i).calls[j]? = some (load, .publishing state result) ↔
      r.calls[j]? = some (load, .publishing state result) ∧ i ≠ j := by
  obtain ⟨hs, -, hn⟩ | ⟨load', p, p', gate, world, hc, ha, hs, -⟩ := r.step_cases i
  · rw [hs]
    constructor
    · intro hc
      refine ⟨hc, ?_⟩
      rintro rfl
      cases hn load _ hc
    · exact And.left
  · rw [hs, getElem?_calls_set hc]
    by_cases hij : i = j
    · rw [if_pos hij]
      refine iff_of_false ?_ fun hc => hc.2 hij
      intro he
      have hp := hr.fits i load' p hc
      have hm := Gate.moves_of_advance ha
      cases he
      cases hm with
      | fails | write => cases hp.2.2.1.symm.trans hv
    · rw [if_neg hij]
      exact (and_iff_left hij).symm

theorem Consistent.publishing_run (hr : r.Consistent h) (hv : r.gate.value = some a)
    (later : List Nat) (j : Nat) {load : Loader ω ε α} {state : State} {result : Outcome ε α} :
    (r.run later).calls[j]? = some (load, .publishing state result) ↔
      r.calls[j]? = some (load, .publishing state result) ∧ j ∉ later := by
  induction later generalizing r h with
  | nil => exact (and_iff_left List.not_mem_nil).symm
  | cons i later ih =>
    calc ((r.step i).run later).calls[j]? = some (load, .publishing state result)
        ↔ (r.step i).calls[j]? = some (load, .publishing state result) ∧ j ∉ later :=
          ih (hr.step i) (value_step hv i)
      _ ↔ r.calls[j]? = some (load, .publishing state result) ∧ j ∉ i :: later := by
          rw [hr.publishing_step hv, List.mem_cons, not_or, and_assoc, ne_comm]

theorem value_of_results (hr : r.Consistent h) (hi : r.results[i]? = some (some (.value a))) :
    r.gate.value = some a := by
  unfold results at hi
  rw [List.getElem?_map] at hi
  obtain ⟨⟨load, p⟩, hc, hp⟩ := Option.map_eq_some_iff.mp hi
  cases p with
  | returned result =>
    cases hp
    exact (hr.fits i load _ hc).1 a rfl
  | _ => cases hp

/-- After a call has returned a value, the state reads `loaded` exactly from the turn of the call
that stores it, and `loading` until then. -/
theorem state_after_return (world : ω) (loaders : List (Loader ω ε α))
    (schedule later : List Nat) (i : Nat) (a : α)
    (hi : ((start .empty world loaders).run schedule).results[i]? = some (some (.value a))) :
    let r := (start .empty world loaders).run schedule
    ((r.run later).gate.state = .loaded ↔
      ∀ j load result, r.calls[j]? = some (load, .publishing .loaded result) → j ∈ later) ∧
    (r.run later).gate.state ≠ .notLoaded := by
  intro r
  have hr := consistent_run_start world loaders schedule
  have hv := value_of_results hr hi
  have hl := hr.run later
  have hvl := value_run hv later
  refine ⟨?_, hl.state_ne_notLoaded hvl⟩
  rw [hl.state_eq_loaded_iff hvl]
  constructor
  · intro hn j load result hc
    by_contra hj
    exact hn j load result ((hr.publishing_run hv later j).mpr ⟨hc, hj⟩)
  · intro hm j load result hc
    obtain ⟨hc, hj⟩ := (hr.publishing_run hv later j).mp hc
    exact hj (hm j load result hc)

theorem state_after_return_between :
    let loaders := [fun _ => pure (.value 7), fun _ => pure (.failed "no engine")]
    let r := (start .empty () loaders).run [0, 0, 0, 0, 0, 0, 1]
    r.results[1]? = some (some (.value 7)) ∧
      (((r.run [1, 0]).gate.state = .loaded ↔
        ∀ j load result, r.calls[j]? = some (load, .publishing .loaded result) → j ∈ [1, 0]) ∧
      (r.run [1, 0]).gate.state ≠ .notLoaded) :=
  ⟨by decide, state_after_return () _ _ [1, 0] 1 7 (by decide)⟩

/-- The second call returns after the first has written the value and before it stores the state. -/
theorem exists_loading_after_return :
    ¬ ∀ (schedule later : List Nat) (i a : Nat),
      let r := (start .empty () (.replicate 2 fun _ => pure (.value 7 : Outcome String Nat))).run
        schedule
      r.results[i]? = some (some (.value a)) → (r.run later).gate.state = .loaded := by
  intro hall
  have hl := hall [0, 0, 0, 0, 0, 0, 1] [] 1 7 (by decide)
  revert hl
  decide

end RegexHost.Load.Race

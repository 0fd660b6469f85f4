import RegexHost.Proofs.Load.Consistent

/-! What the state of a gate says at every moment of a run: `loading` while an attempt is under way
and only then, the truth about the value while nobody has the lock, and no more than three kinds of
change. -/
namespace RegexHost.Load

variable {ω ε α : Type} {h : List (Event ε α)} {i : Nat}

/-- What an attempt that ends like this leaves behind. -/
def Outcome.state : Outcome ε α → State
  | value _ => .loaded
  | failed _ | crashed => .notLoaded

/-- A change of the state by a turn of the call `i`, after what is in `h`. -/
inductive State.Changes (h : List (Event ε α)) (i : Nat) : State → Point ε α → State → Prop
  | begun : Changes h i .notLoaded .starting .loading
  | undone {result : Outcome ε α} (ended : .ended i result ∈ h) (fault : ∀ a, result ≠ .value a) :
      Changes h i .loading (.publishing .notLoaded result) .notLoaded
  | done {a : α} (ended : .ended i (.value a) ∈ h) :
      Changes h i .loading (.publishing .loaded (.value a)) .loaded

namespace Point

/-- What a call is about to publish is the truth about its own loader. -/
def Truthful (p : Point ε α) : Prop :=
  ∀ state result, p = .publishing state result → state = result.state

theorem truthful_of_ne {p : Point ε α} (hp : ∀ state result, p ≠ .publishing state result) :
    p.Truthful :=
  fun state result he => absurd he (hp state result)

theorem Fits.state_of_attempting {p : Point ε α} {g : Gate α} (hp : p.Fits i h g)
    (ha : p.attempting = true) : g.state = .loading := by
  cases p with
  | loading | writing | publishing => exact hp.2.1
  | _ => cases ha

theorem inside_of_attempting {p : Point ε α} (ha : p.attempting = true) : p.inside = true := by
  cases p with
  | loading | writing | publishing => rfl
  | _ => cases ha

end Point

namespace Gate

variable {load : Loader ω ε α} {g g' : Gate α} {w w' : ω} {p p' : Point ε α}

theorem Settled.state_ne_loading (hg : g.Settled h) : g.state ≠ .loading := by
  rw [hg.state]
  split_ifs <;> nofun

theorem Moves.truthful (hm : g.Moves i load w p p' g' w') : p'.Truthful := by
  cases hm with
  | @fails result w' hl hr =>
    rintro _ _ ⟨⟩
    cases result with
    | value a => exact absurd rfl (hr a)
    | _ => rfl
  | write =>
    rintro _ _ ⟨⟩
    rfl
  | _ => exact Point.truthful_of_ne nofun

theorem Moves.state (hm : g.Moves i load w p p' g' w') (hp : p.Fits i h g) (ht : p.Truthful) :
    g'.state = g.state ∨ State.Changes h i g.state p g'.state := by
  cases hm with
  | start =>
    obtain ⟨-, hg, hv⟩ := hp
    have hs : g.state = .notLoaded := by rw [hg.state, hv]; rfl
    rw [hs]
    exact .inr .begun
  | @publish state result =>
    obtain ⟨ho, hs, -, -, -⟩ := hp
    have he : .ended i result ∈ h :=
      (Event.mem_own.mp (ho ▸ List.mem_cons_of_mem _ List.mem_cons_self)).1
    obtain rfl := ht _ _ rfl
    rw [hs]
    cases result with
    | value a => exact .inr (.done he)
    | failed e => exact .inr (.undone he nofun)
    | crashed => exact .inr (.undone he nofun)
  | _ => exact .inl rfl

end Gate

namespace Race

variable {r : Race ω ε α}

/-- Every call of the race is truthful. -/
def Truthful (r : Race ω ε α) : Prop :=
  ∀ (i : Nat) load p, r.calls[i]? = some (load, p) → Point.Truthful p

theorem truthful_start (gate : Gate α) (world : ω) (loaders : List (Loader ω ε α)) :
    (start gate world loaders).Truthful := by
  intro i load p hc
  cases reading_of_start hc
  exact Point.truthful_of_ne nofun

theorem Truthful.step (ht : r.Truthful) (i : Nat) : (r.step i).Truthful := by
  obtain ⟨hs, -, -⟩ | ⟨load, p, p', gate, world, hc, ha, hs, -⟩ := r.step_cases i
  · rw [hs]
    exact ht
  · rw [hs]
    intro j load' q hq
    rw [getElem?_calls_set hc] at hq
    split_ifs at hq with hij
    · cases hq
      exact (Gate.moves_of_advance ha).truthful
    · exact ht j load' q hq

theorem Truthful.run (ht : r.Truthful) (schedule : List Nat) : (r.run schedule).Truthful := by
  induction schedule generalizing r with
  | nil => exact ht
  | cons i schedule ih => exact ih (ht.step i)

theorem Consistent.state_eq_loading_iff (hr : r.Consistent h) :
    r.gate.state = .loading ↔ ∃ i load, ∃ p : Point ε α, r.calls[i]? = some (load, p) ∧
      r.gate.holder = some i ∧ p.attempting = true := by
  constructor
  · intro hl
    obtain hg | ⟨i, load, p, hc, hat, -⟩ := hr.settled_or
    · exact absurd hl hg.state_ne_loading
    · exact ⟨i, load, p, hc, (hr.inside_iff i load p hc).mp (Point.inside_of_attempting hat), hat⟩
  · rintro ⟨i, load, p, hc, -, hat⟩
    exact (hr.fits i load p hc).state_of_attempting hat

theorem Consistent.state_step (hr : r.Consistent h) (ht : r.Truthful) (i : Nat) :
    (r.step i).gate.state = r.gate.state ∨ ∃ load, ∃ p : Point ε α, r.calls[i]? = some (load, p) ∧
      State.Changes h i r.gate.state p (r.step i).gate.state := by
  obtain ⟨hs, -, -⟩ | ⟨load, p, p', gate, world, hc, ha, hs, -⟩ := r.step_cases i
  · rw [hs]
    exact .inl rfl
  · rw [hs]
    obtain he | hch := (Gate.moves_of_advance ha).state (hr.fits i load p hc) (ht i load p hc)
    · exact .inl he
    · exact .inr ⟨load, p, hc, hch⟩

theorem Consistent.loaded_run (hr : r.Consistent h) (ht : r.Truthful) (hl : r.gate.state = .loaded)
    (later : List Nat) : (r.run later).gate.state = .loaded := by
  induction later generalizing r h with
  | nil => exact hl
  | cons i later ih =>
    refine ih (hr.step i) (ht.step i) ?_
    obtain he | ⟨load, p, -, hch⟩ := hr.state_step ht i
    · exact he.trans hl
    · rw [hl] at hch
      cases hch

/-- `r` is a race at some moment, `h` what happened before; reads of the gate show its value and its
state. -/
structure StateCell (h : List (Event ε α)) (r : Race ω ε α) : Prop where
  loading_iff : r.gate.state = .loading ↔ ∃ i load, ∃ p : Point ε α, r.calls[i]? = some (load, p) ∧
    r.gate.holder = some i ∧ p.attempting = true
  running : ∀ (i : Nat) load, r.calls[i]? = some (load, .loading) → r.gate.value = none
  free : r.gate.holder = none → r.gate.state = if r.gate.value.isSome then .loaded else .notLoaded
  change : ∀ i, (r.step i).gate.state = r.gate.state ∨ ∃ load, ∃ p : Point ε α,
    r.calls[i]? = some (load, p) ∧ State.Changes h i r.gate.state p (r.step i).gate.state
  last : r.gate.state = .loaded → ∀ later, (r.run later).gate.state = .loaded

theorem stateCell_run (world : ω) (loaders : List (Loader ω ε α)) (schedule : List Nat) :
    StateCell ((start .empty world loaders).events schedule)
      ((start .empty world loaders).run schedule) := by
  have hr := consistent_run_start world loaders schedule
  have ht := (truthful_start .empty world loaders).run schedule
  constructor
  · exact hr.state_eq_loading_iff
  · intro i load hc
    exact (hr.fits i load _ hc).2.2.1
  · intro hf
    exact (hr.settled hf).state
  · exact hr.state_step ht
  · exact hr.loaded_run ht

end Race
end RegexHost.Load

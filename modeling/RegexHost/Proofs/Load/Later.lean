import RegexHost.Proofs.Load.OneLoad
import RegexHost.Proofs.Load.Publication
import RegexHost.Proofs.Load.StateCell

/-! After a load: a call that failed has left no value, and once there is one, all calls return it
and none acts on the world. -/
namespace RegexHost.Load

namespace Race

variable {ω ε α : Type} {h : List (Event ε α)} {r : Race ω ε α}
  {loaders : List (Loader ω ε α)} {a : α}

/-- A call that failed and has the lock finds no value. -/
def Barren (r : Race ω ε α) : Prop :=
  ∀ (i : Nat) load result, r.calls[i]? = some (load, .unlocking result) → (∀ a, result ≠ .value a) →
    r.gate.value = none

theorem barren_start (gate : Gate α) (world : ω) (loaders : List (Loader ω ε α)) :
    (start gate world loaders).Barren := by
  intro i load result hc
  cases reading_of_start hc

theorem Barren.step (hb : r.Barren) (hr : r.Consistent h) (ht : r.Truthful) (i : Nat) :
    (r.step i).Barren := by
  obtain ⟨hs, -, -⟩ | ⟨load, p, p', gate, world, hc, ha, hs, -⟩ := r.step_cases i
  · rw [hs]
    exact hb
  have hm := Gate.moves_of_advance ha
  rw [hs]
  intro j load' result hq hn
  rw [getElem?_calls_set hc] at hq
  split_ifs at hq with hij
  · cases hq
    cases hm with
    | found hv => exact absurd rfl (hn _)
    | @publish state =>
      obtain ⟨-, -, -, hstate, -⟩ := hr.fits i load _ hc
      have hnot : state = .notLoaded := by
        rw [ht i load _ hc state result rfl]
        cases result with
        | value a => exact absurd rfl (hn a)
        | failed e => rfl
        | crashed => rfl
      rw [hnot] at hstate
      cases hv : r.gate.value with
      | none => rfl
      | some a => rw [hv] at hstate; cases hstate
  · have hj := (hr.inside_iff j load' _ hq).mp rfl
    rw [(hm.outside (h := h) (hr.inside_iff i load p hc) hij hj).1]
    exact hb j load' result hq hn

theorem Barren.run (hb : r.Barren) (hr : r.Consistent h) (ht : r.Truthful) (schedule : List Nat) :
    (r.run schedule).Barren := by
  induction schedule generalizing r h with
  | nil => exact hb
  | cons i schedule ih => exact ih (hb.step hr ht i) (hr.step i) (ht.step i)

/-- With a value there, what a call returns is that value. -/
theorem Barren.result_eq (hb : r.Barren) (hr : r.Consistent h)
    (hv : r.gate.value = some a) {i j : Nat}
    {result : Outcome ε α} (he : .returned j result ∈ r.event? i) : result = .value a := by
  obtain ⟨-, hn, -⟩ | ⟨load, p, p', gate, world, hc, ha, -, he'⟩ := r.step_cases i
  · rw [hn] at he
    cases he
  rw [he'] at he
  have hm := Gate.moves_of_advance ha
  cases hm with
  | hit hv' =>
    cases he
    rw [Option.some.inj (hv'.symm.trans hv)]
  | @unlock result =>
    cases he
    obtain ⟨-, hbears, -⟩ := hr.fits i load _ hc
    cases result with
    | value b => rw [Option.some.inj ((hbears b rfl).symm.trans hv)]
    | failed e => cases (hb i load _ hc nofun).symm.trans hv
    | crashed => cases (hb i load _ hc nofun).symm.trans hv
  | _ => cases he

theorem Barren.results_eq (hb : r.Barren) (hr : r.Consistent h) (ht : r.Truthful)
    (hv : r.gate.value = some a) (later : List Nat) {j : Nat} {result : Outcome ε α}
    (he : .returned j result ∈ r.events later) : result = .value a := by
  induction later generalizing r h with
  | nil => cases he
  | cons i later ih =>
    rw [events, List.mem_append, Option.mem_toList] at he
    rcases he with he | he
    · exact hb.result_eq hr hv he
    · exact ih (hb.step hr ht i) (hr.step i) (ht.step i) (value_step hv i) he

/-- With a value there, the world is left alone. -/
theorem Consistent.world_step (hr : r.Consistent h) (hv : r.gate.value = some a) (i : Nat) :
    (r.step i).world = r.world := by
  obtain ⟨hs, -, -⟩ | ⟨load, p, p', gate, world, hc, ha, hs, -⟩ := r.step_cases i
  · rw [hs]
  have hm := Gate.moves_of_advance ha
  rw [hs]
  cases hm with
  | loads | fails => cases (hr.fits i load _ hc).2.2.1.symm.trans hv
  | _ => rfl

theorem Consistent.world_run (hr : r.Consistent h) (hv : r.gate.value = some a) (later : List Nat) :
    (r.run later).world = r.world := by
  induction later generalizing r h with
  | nil => rfl
  | cons i later ih => exact (ih (hr.step i) (value_step hv i)).trans (hr.world_step hv i)

/-- A call that begins then returns the value in its first turn. -/
theorem returned_step (hv : r.gate.value = some a) {i : Nat} {load : Loader ω ε α}
    (hc : r.calls[i]? = some (load, .reading)) :
    (r.step i).calls[i]? = some (load, .returned (.value a)) := by
  obtain ⟨-, -, hn⟩ | ⟨load', p, p', gate, world, hc', ha, hs, -⟩ := r.step_cases i
  · have hstuck := hn load _ hc
    simp only [Gate.advance, hv] at hstuck
    cases hstuck
  · cases hc.symm.trans hc'
    simp only [Gate.advance, hv] at ha
    cases ha
    rw [hs, getElem?_calls_set hc, if_pos rfl]

/-- Each call has its own loader. -/
def Runs (loaders : List (Loader ω ε α)) (r : Race ω ε α) : Prop :=
  ∀ (i : Nat) load p, r.calls[i]? = some (load, p) → loaders[i]? = some load

theorem runs_start (gate : Gate α) (world : ω) (loaders : List (Loader ω ε α)) :
    (start gate world loaders).Runs loaders := by
  intro i load p hc
  rw [start, List.getElem?_map] at hc
  obtain ⟨load', hl, he⟩ := Option.map_eq_some_iff.mp hc
  cases he
  exact hl

theorem Runs.step (hr : r.Runs loaders) (i : Nat) : (r.step i).Runs loaders := by
  obtain ⟨hs, -, -⟩ | ⟨load, p, p', gate, world, hc, -, hs, -⟩ := r.step_cases i
  · rw [hs]
    exact hr
  · rw [hs]
    intro j load' q hq
    rw [getElem?_calls_set hc] at hq
    split_ifs at hq with hij
    · cases hq
      exact hij ▸ hr i load p hc
    · exact hr j load' q hq

theorem Runs.run (hr : r.Runs loaders) (schedule : List Nat) : (r.run schedule).Runs loaders := by
  induction schedule generalizing r with
  | nil => exact hr
  | cons i schedule ih => exact ih (hr.step i)

end Race
end RegexHost.Load

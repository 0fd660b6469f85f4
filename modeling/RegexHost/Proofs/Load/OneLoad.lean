import RegexHost.Proofs.Load.Consistent

/-! One load, one value: however calls take turns, one loader runs at a time, none after a value,
every value that anybody sees is the one that a loader returned, and an error or a crash is the
matter of one call. -/
namespace RegexHost.Load

variable {ω ε α : Type} {h : List (Event ε α)} {i : Nat}

namespace Point

/-- The turns that a call can still take. Once its loader has ended, each turn is a step. -/
def left : Point ε α → Nat
  | reading => 8
  | locking => 7
  | rereading => 6
  | starting => 5
  | loading => 4
  | writing _ => 3
  | publishing _ _ => 2
  | unlocking _ => 1
  | returned _ => 0

theorem eq_returned_of_left {p : Point ε α} (hp : p.left = 0) : ∃ result, p = .returned result := by
  cases p with
  | returned result => exact ⟨result, rfl⟩
  | _ => cases hp

theorem Fits.left_of_ended {p : Point ε α} {g : Gate α} {result : Outcome ε α} (hp : p.Fits i h g)
    (he : .ended i result ∈ Event.own i h) : p.left ≤ 3 := by
  cases p with
  | reading | locking =>
    rw [show Event.own i h = [] from hp] at he
    cases he
  | rereading | starting | loading =>
    rw [hp.1] at he
    simp at he
  | writing | publishing | unlocking | returned => simp [left]

theorem Fits.eq_returned {p : Point ε α} {g : Gate α} {result : Outcome ε α} (hp : p.Fits i h g)
    (he : .returned i result ∈ Event.own i h) : p = .returned result := by
  cases p with
  | reading | locking =>
    rw [show Event.own i h = [] from hp] at he
    cases he
  | rereading | starting | loading | writing | publishing =>
    rw [hp.1] at he
    simp at he
  | unlocking =>
    obtain ⟨-, -, ho | ⟨a, -, ho⟩⟩ := hp <;> rw [ho] at he <;> simp at he
  | returned result' =>
    obtain ⟨-, ho | ⟨a, -, ho⟩⟩ := hp <;> rw [ho] at he <;> simp at he <;> rw [he]

end Point

namespace Gate

variable {load : Loader ω ε α} {g g' : Gate α} {w w' : ω} {p p' : Point ε α}

theorem Moves.left_lt (hm : g.Moves i load w p p' g' w') : p'.left < p.left := by
  cases hm <;> simp [Point.left]

theorem advance_ne_none (hp : p.left ≤ 3) (h0 : p.left ≠ 0) : g.advance i load w p ≠ none := by
  cases p with
  | writing | publishing | unlocking => nofun
  | returned => exact absurd rfl h0
  | reading | locking | rereading | starting | loading => simp [Point.left] at hp

theorem Moves.of?_eq_began {j : Nat} (hm : g.Moves i load w p p' g' w')
    (he : Event.of? i p p' = some (.began j)) : p = .starting := by
  cases hm <;> cases he
  rfl

end Gate

namespace Race

variable {r : Race ω ε α}

theorem step_calls_of_ne {j : Nat} (hij : i ≠ j) : (r.step i).calls[j]? = r.calls[j]? := by
  obtain ⟨hs, -, -⟩ | ⟨load, p, p', gate, world, hc, -, hs, -⟩ := r.step_cases i
  · rw [hs]
  · rw [hs, getElem?_calls_set hc, if_neg hij]

/-- A call whose loader has ended returns when it has had its turns. -/
theorem returned_run {load : Loader ω ε α} {p : Point ε α} {later : List Nat}
    (hc : r.calls[i]? = some (load, p)) (hp : p.left ≤ 3) (hl : p.left ≤ later.count i) :
    ∃ result, (r.run later).calls[i]? = some (load, .returned result) := by
  induction later generalizing r p with
  | nil =>
    obtain ⟨result, rfl⟩ := Point.eq_returned_of_left (Nat.le_zero.mp hl)
    exact ⟨result, hc⟩
  | cons j later ih =>
    by_cases hij : j = i
    · subst hij
      rw [List.count_cons_self] at hl
      obtain ⟨hs, -, hn⟩ | ⟨load', p₁, p', gate, world, hc', ha, hs, -⟩ := r.step_cases j
      · have h0 : p.left = 0 := by
          by_contra h0
          exact Gate.advance_ne_none hp h0 (hn load p hc)
        rw [← hs] at hc
        exact ih hc hp (by omega)
      · cases hc.symm.trans hc'
        have hlt := (Gate.moves_of_advance ha).left_lt
        have hc' : (r.step j).calls[j]? = some (load, p') := by
          rw [hs, getElem?_calls_set hc, if_pos rfl]
        exact ih hc' (by omega) (by omega)
    · rw [List.count_cons_of_ne hij] at hl
      rw [← step_calls_of_ne hij] at hc
      exact ih hc hp hl

theorem Consistent.exists_call (hr : r.Consistent h) {e : Event ε α} (he : e ∈ Event.own i h) :
    ∃ load, ∃ p : Point ε α, r.calls[i]? = some (load, p) ∧ p.Fits i h r.gate := by
  cases hc : r.calls[i]? with
  | none =>
    rw [(hr.absent i hc).2] at he
    cases he
  | some c =>
    obtain ⟨load, p⟩ := c
    exact ⟨load, p, rfl, hr.fits i load p hc⟩

theorem Consistent.fits_of_returned (hr : r.Consistent h) {result : Outcome ε α}
    (he : .returned i result ∈ h) : (Point.returned result).Fits i h r.gate := by
  have ho := Event.mem_own.mpr ⟨he, rfl⟩
  obtain ⟨load, p, -, hp⟩ := hr.exists_call ho
  cases hp.eq_returned ho
  exact hp

theorem Consistent.not_mem_events (hr : r.Consistent h) (hv : Event.values h ≠ [])
    (later : List Nat) : .began i ∉ r.events later := by
  induction later generalizing r h with
  | nil => exact List.not_mem_nil
  | cons j later ih =>
    rw [events, List.mem_append, not_or]
    constructor
    · intro hb
      obtain ⟨-, he, -⟩ | ⟨load, p, p', gate, world, hc, ha, -, he⟩ := r.step_cases j
      · rw [he] at hb
        cases hb
      · rw [he, Option.mem_toList] at hb
        have hp := hr.fits j load p hc
        cases (Gate.moves_of_advance ha).of?_eq_began hb
        obtain ⟨-, hg, hn⟩ := hp
        rw [hg.values, hn] at hv
        exact hv rfl
    · refine ih (hr.step j) ?_
      rw [Event.values_append]
      exact List.append_ne_nil_of_left_ne_nil hv _

/-- `h` is what happened up to `r`. Here `Event.own i h` is all that a call did, so it began no
other load and returned nothing else. -/
structure OneLoad (h : List (Event ε α)) (r : Race ω ε α) : Prop where
  alone : ∀ (i j : Nat) load load',
    r.calls[i]? = some (load, .loading) → r.calls[j]? = some (load', .loading) → i = j
  once : (Event.values h).length ≤ 1
  last : Event.values h ≠ [] → ∀ (later : List Nat) (i : Nat), .began i ∉ r.events later
  returned : ∀ (i : Nat) (a : α), .returned i (.value a) ∈ h → Event.values h = [a]
  get : ∀ a, r.gate.value = some a → Event.values h = [a]
  fault : ∀ (i : Nat) (result : Outcome ε α), .returned i result ∈ h → (∀ a, result ≠ .value a) →
    Event.own i h = [.began i, .ended i result, .returned i result]
  told : ∀ (i : Nat) (result : Outcome ε α), .ended i result ∈ h →
    ∀ later : List Nat, 3 ≤ later.count i →
    Event.own i (h ++ r.events later) = [.began i, .ended i result, .returned i result]

theorem Consistent.fault (hr : r.Consistent h) {result : Outcome ε α} (he : .returned i result ∈ h)
    (hn : ∀ a, result ≠ .value a) : Event.own i h = [.began i, .ended i result,
      .returned i result] := by
  obtain ⟨-, ho | ⟨a, ha, -⟩⟩ := hr.fits_of_returned he
  · exact ho
  · exact absurd ha (hn a)

theorem Consistent.told (hr : r.Consistent h) {result : Outcome ε α} (he : .ended i result ∈ h)
    {later : List Nat} (hl : 3 ≤ later.count i) :
    Event.own i (h ++ r.events later) = [.began i, .ended i result, .returned i result] := by
  have ho := Event.mem_own.mpr ⟨he, rfl⟩
  obtain ⟨load, p, hc, hp⟩ := hr.exists_call ho
  have hleft := hp.left_of_ended ho
  obtain ⟨result', hc'⟩ := returned_run hc hleft (hleft.trans hl)
  have he' : .ended i result ∈ Event.own i (h ++ r.events later) :=
    Event.mem_own.mpr ⟨List.mem_append_left _ he, rfl⟩
  obtain ⟨-, ho' | ⟨a, -, ho'⟩⟩ := (hr.run later).fits i load _ hc'
  · rw [ho'] at he' ⊢
    have hresult : result = result' := by simpa using he'
    rw [hresult]
  · rw [ho'] at he'
    simp at he'

theorem one_load (world : ω) (loaders : List (Loader ω ε α)) (schedule : List Nat) :
    OneLoad ((start .empty world loaders).events schedule)
      ((start .empty world loaders).run schedule) := by
  have hr := consistent_run_start world loaders schedule
  constructor
  · intro i j load load' hi hj
    have hi := (hr.inside_iff i load _ hi).mp rfl
    have hj := (hr.inside_iff j load' _ hj).mp rfl
    exact Option.some.inj (hi.symm.trans hj)
  · exact hr.values_length
  · intro hv later i
    exact hr.not_mem_events hv later
  · intro i a he
    exact hr.values_eq ((hr.fits_of_returned he).1 a rfl)
  · intro a hv
    exact hr.values_eq hv
  · intro i result he hn
    exact hr.fault he hn
  · intro i result he later hl
    exact hr.told he hl

example :
    let loaders : List (Loader Unit String Nat) :=
      [fun _ => pure (.failed "no engine"), fun _ => pure (.value 7), fun _ => pure .crashed]
    (start .empty () loaders).events [0, 0, 0, 0, 1, 0, 0, 0, 2, 1, 1, 1, 1, 1, 1, 1, 2, 2, 2, 2] =
      [.began 0, .ended 0 (.failed "no engine"), .returned 0 (.failed "no engine"),
        .began 1, .ended 1 (.value 7), .returned 1 (.value 7), .returned 2 (.value 7)] := by
  decide

end Race
end RegexHost.Load

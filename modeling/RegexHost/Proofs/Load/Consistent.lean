import RegexHost.Proofs.Load.History

/-! The invariant of a race. A call that has the lock settles what the gate shows and what loaders
returned; every other call depends only on the value, which never changes once it is there. -/
namespace RegexHost.Load

variable {ω ε α : Type}

/-- What the gate shows, and what loaders returned, when no attempt is under way. -/
structure Gate.Settled (h : List (Event ε α)) (g : Gate α) : Prop where
  state : g.state = if g.value.isSome then .loaded else .notLoaded
  values : Event.values h = g.value.toList

/-- A result that is a value is the gate's value. -/
def Gate.Bears (g : Gate α) (result : Outcome ε α) : Prop :=
  ∀ a, result = .value a → g.value = some a

namespace Point

/-- Whether a call at this point has the lock. -/
def inside : Point ε α → Bool
  | reading | locking | returned _ => false
  | _ => true

/-- Whether a call at this point has begun a load and not published how it went. -/
def attempting : Point ε α → Bool
  | loading | writing _ | publishing _ _ => true
  | _ => false

/-- What holds while the call `i` stands at a point: its part of the history, and of the gate what
no other call can change. -/
def Fits (i : Nat) (h : List (Event ε α)) (g : Gate α) : Point ε α → Prop
  | reading | locking => Event.own i h = []
  | rereading => Event.own i h = [] ∧ g.Settled h
  | starting => Event.own i h = [] ∧ g.Settled h ∧ g.value = none
  | loading =>
    Event.own i h = [.began i] ∧ g.state = .loading ∧ g.value = none ∧ Event.values h = []
  | writing a =>
    Event.own i h = [.began i, .ended i (.value a)] ∧ g.state = .loading ∧ g.value = none ∧
      Event.values h = [a]
  | publishing state result =>
    Event.own i h = [.began i, .ended i result] ∧ g.state = .loading ∧ g.Bears result ∧
      state = (if g.value.isSome then .loaded else .notLoaded) ∧ Event.values h = g.value.toList
  | unlocking result =>
    g.Settled h ∧ g.Bears result ∧
      (Event.own i h = [.began i, .ended i result] ∨ ∃ a, result = .value a ∧ Event.own i h = [])
  | returned result =>
    g.Bears result ∧
      (Event.own i h = [.began i, .ended i result, .returned i result] ∨
        ∃ a, result = .value a ∧ Event.own i h = [.returned i result])

end Point

namespace Gate

variable {g : Gate α} {h h' : List (Event ε α)}

theorem bears_value {a : α} (hv : g.value = some a) : g.Bears (.value a : Outcome ε α) := by
  intro b hb
  cases hb
  exact hv

theorem Settled.congr (hg : g.Settled h) (hh : Event.values h' = Event.values h) : g.Settled h' :=
  ⟨hg.state, hh.trans hg.values⟩

theorem Settled.returned (hg : g.Settled h) (i : Nat) (result : Outcome ε α) :
    g.Settled (h ++ [.returned i result]) :=
  ⟨hg.state, (Event.values_snoc (.returned i result) hg.values).trans (List.append_nil _)⟩

end Gate

theorem Point.Fits.congr {p : Point ε α} {i : Nat} {h h' : List (Event ε α)} {g : Gate α}
    (hp : p.Fits i h g) (ho : Event.own i h' = Event.own i h)
    (hh : Event.values h' = Event.values h) : p.Fits i h' g := by
  cases p <;> unfold Point.Fits at hp ⊢ <;> rw [ho]
  case reading | locking | returned => exact hp
  case rereading => exact ⟨hp.1, hp.2.congr hh⟩
  case starting => exact ⟨hp.1, hp.2.1.congr hh, hp.2.2⟩
  case unlocking => exact ⟨hp.1.congr hh, hp.2⟩
  all_goals rw [hh]; exact hp

structure Race.Consistent (h : List (Event ε α)) (r : Race ω ε α) : Prop where
  inside_iff : ∀ i load p, r.calls[i]? = some (load, p) →
    (Point.inside p = true ↔ r.gate.holder = some i)
  fits : ∀ i load p, r.calls[i]? = some (load, p) → Point.Fits i h r.gate p
  absent : ∀ i, r.calls[i]? = none → r.gate.holder ≠ some i ∧ Event.own i h = []
  settled : r.gate.holder = none → r.gate.Settled h

/-! One step of one call -/

namespace Gate

inductive Moves (i : Nat) (load : Loader ω ε α) (g : Gate α) (w : ω) :
    Point ε α → Point ε α → Gate α → ω → Prop
  | hit {a} (hv : g.value = some a) : Moves i load g w .reading (.returned (.value a)) g w
  | miss (hv : g.value = none) : Moves i load g w .reading .locking g w
  | lock (hf : g.holder = none) : Moves i load g w .locking .rereading { g with holder := some i } w
  | found {a} (hv : g.value = some a) : Moves i load g w .rereading (.unlocking (.value a)) g w
  | missing (hv : g.value = none) : Moves i load g w .rereading .starting g w
  | start : Moves i load g w .starting .loading { g with state := .loading } w
  | loads {a w'} (hl : load g w = (.value a, w')) : Moves i load g w .loading (.writing a) g w'
  | fails {result w'} (hl : load g w = (result, w')) (hr : ∀ a, result ≠ .value a) :
      Moves i load g w .loading (.publishing .notLoaded result) g w'
  | write {a} : Moves i load g w (.writing a) (.publishing .loaded (.value (g.value.getD a)))
      { g with value := some (g.value.getD a) } w
  | publish {state result} : Moves i load g w (.publishing state result) (.unlocking result)
      { g with state } w
  | unlock {result} : Moves i load g w (.unlocking result) (.returned result)
      { g with holder := none } w

variable {i j : Nat} {load : Loader ω ε α} {g g' : Gate α} {w w' : ω} {p p' q : Point ε α}
  {h : List (Event ε α)}

theorem moves_of_advance (ha : g.advance i load w p = some (p', g', w')) :
    g.Moves i load w p p' g' w' := by
  cases p with
  | reading =>
    simp only [advance] at ha
    split at ha <;> rename_i hv <;> cases ha
    · exact .hit hv
    · exact .miss hv
  | locking =>
    simp only [advance] at ha
    split at ha <;> rename_i hf <;> cases ha
    exact .lock (Option.isNone_iff_eq_none.mp hf)
  | rereading =>
    simp only [advance] at ha
    split at ha <;> rename_i hv <;> cases ha
    · exact .found hv
    · exact .missing hv
  | starting => cases ha; exact .start
  | loading =>
    simp only [advance] at ha
    split at ha <;> cases ha
    next hl => exact .loads hl
    next hn hl => exact .fails hl hn
  | writing a => cases ha; exact .write
  | publishing state result => cases ha; exact .publish
  | unlocking result => cases ha; exact .unlock
  | returned result => cases ha

/-- The value never changes once it is there. -/
theorem Moves.value (hm : g.Moves i load w p p' g' w') {a : α} (hv : g.value = some a) :
    g'.value = some a := by
  cases hm with
  | write => simp only [hv, Option.getD_some]
  | _ => exact hv

theorem Moves.holder (hm : g.Moves i load w p p' g' w') (hi : p.inside = true ↔ g.holder = some i) :
    p'.inside = true ↔ g'.holder = some i := by
  cases hm with
  | hit | miss => exact hi
  | lock => exact iff_of_true rfl rfl
  | unlock => exact iff_of_false Bool.false_ne_true nofun
  | _ => exact iff_of_true rfl (hi.mp rfl)

theorem Moves.holder_of_ne (hm : g.Moves i load w p p' g' w') (hij : i ≠ j)
    (hj : g'.holder = some j) : g.holder = some j := by
  cases hm with
  | lock => exact absurd (Option.some.inj hj) hij
  | unlock => cases hj
  | _ => exact hj

/-- The call that takes the step. -/
theorem Moves.fits (hm : g.Moves i load w p p' g' w') (hp : p.Fits i h g)
    (hs : g.holder = none → g.Settled h) : p'.Fits i (h ++ (Event.of? i p p').toList) g' := by
  cases hm with
  | @hit a hv =>
    exact And.intro (bears_value hv) (.inr ⟨a, rfl, Event.own_snoc (.returned i (.value a)) hp⟩)
  | miss hv =>
    have hh : h ++ (Event.of? i (.reading : Point ε α) .locking).toList = h := List.append_nil h
    rw [hh]
    exact hp
  | lock hf =>
    have hh : h ++ (Event.of? i (.locking : Point ε α) .rereading).toList = h := List.append_nil h
    have hg := hs hf
    rw [hh]
    exact And.intro hp ⟨hg.state, hg.values⟩
  | @found a hv =>
    obtain ⟨ho, hg⟩ := hp
    have hh : h ++ (Event.of? i (.rereading : Point ε α) (.unlocking (.value a))).toList = h :=
      List.append_nil h
    rw [hh]
    exact And.intro hg ⟨bears_value hv, .inr ⟨a, rfl, ho⟩⟩
  | missing hv =>
    obtain ⟨ho, hg⟩ := hp
    have hh : h ++ (Event.of? i (.rereading : Point ε α) .starting).toList = h := List.append_nil h
    rw [hh]
    exact And.intro ho ⟨hg, hv⟩
  | start =>
    obtain ⟨ho, hg, hv⟩ := hp
    have hh : Event.values h = [] := by rw [hg.values, hv]; rfl
    exact And.intro (Event.own_snoc (.began i) ho) ⟨rfl, hv, Event.values_snoc (.began i) hh⟩
  | @loads a w' hl =>
    obtain ⟨ho, ht, hv, hh⟩ := hp
    exact And.intro (Event.own_snoc (.ended i (.value a)) ho)
      ⟨ht, hv, Event.values_snoc (.ended i (.value a)) hh⟩
  | @fails result w' hl hr =>
    obtain ⟨ho, ht, hv, hh⟩ := hp
    have he : Event.of? i .loading (.publishing .notLoaded result) = some (.ended i result) := rfl
    have hb : g.Bears result := fun a ha => absurd ha (hr a)
    have hv' := Event.values_snoc (.ended i result) hh
    rw [Event.loaded?_ended hr] at hv'
    rw [he]
    refine And.intro (Event.own_snoc (.ended i result) ho) ⟨ht, hb, ?_, ?_⟩
    · rw [hv]; rfl
    · rw [hv]; exact hv'
  | @write a =>
    obtain ⟨ho, ht, hv, hh⟩ := hp
    have hk : g.value.getD a = a := by rw [hv]; rfl
    have hh' : h ++
        (Event.of? i (.writing a) (.publishing .loaded (.value a : Outcome ε α))).toList = h :=
      List.append_nil h
    rw [hk, hh']
    exact And.intro ho ⟨ht, bears_value rfl, rfl, hh⟩
  | @publish state result =>
    obtain ⟨ho, ht, hb, hv, hh⟩ := hp
    have hh' : h ++ (Event.of? i (.publishing state result) (.unlocking result)).toList = h :=
      List.append_nil h
    rw [hh']
    exact And.intro ⟨hv, hh⟩ ⟨hb, .inl ho⟩
  | @unlock result =>
    obtain ⟨hg, hb, ho⟩ := hp
    refine And.intro hb ?_
    obtain ho | ⟨a, hr, ho⟩ := ho
    · exact .inl (Event.own_snoc (.returned i result) ho)
    · exact .inr ⟨a, hr, Event.own_snoc (.returned i result) ho⟩

theorem Moves.settled (hm : g.Moves i load w p p' g' w') (hi : p.inside = true ↔ g.holder = some i)
    (hp : p.Fits i h g) (hs : g.holder = none → g.Settled h) (hf : g'.holder = none) :
    g'.Settled (h ++ (Event.of? i p p').toList) := by
  cases hm with
  | @hit a hv => exact (hs hf).returned i (.value a)
  | miss hv => exact (hs hf).congr (congrArg Event.values (List.append_nil h))
  | lock => cases hf
  | @unlock result =>
    have hg := hp.1.returned i result
    exact ⟨hg.state, hg.values⟩
  | _ => exact nomatch (hi.mp rfl).symm.trans hf

/-- While one call has the lock, another changes nothing. -/
theorem Moves.outside (hm : g.Moves i load w p p' g' w') (hi : p.inside = true ↔ g.holder = some i)
    (hij : i ≠ j) (hj : g.holder = some j) :
    g' = g ∧ Event.values (h ++ (Event.of? i p p').toList) = Event.values h := by
  cases hm with
  | @hit a hv =>
    exact ⟨rfl, (Event.values_snoc (.returned i (.value a)) rfl).trans (List.append_nil _)⟩
  | miss => exact ⟨rfl, congrArg Event.values (List.append_nil h)⟩
  | lock hf => exact nomatch hf.symm.trans hj
  | _ => exact absurd (Option.some.inj ((hi.mp rfl).symm.trans hj)) hij

/-- Every other call. -/
theorem Moves.other (hm : g.Moves i load w p p' g' w') (hi : p.inside = true ↔ g.holder = some i)
    (hij : i ≠ j) (hj : q.inside = true ↔ g.holder = some j) (hq : q.Fits j h g) :
    (q.inside = true ↔ g'.holder = some j) ∧ q.Fits j (h ++ (Event.of? i p p').toList) g' := by
  have ho : Event.own j (h ++ (Event.of? i p p').toList) = Event.own j h :=
    Event.own_append_of? h hij
  by_cases hin : q.inside = true
  · obtain ⟨hg, hh⟩ := hm.outside (h := h) hi hij (hj.mp hin)
    rw [hg]
    exact ⟨hj, hq.congr ho hh⟩
  · constructor
    · exact iff_of_false hin fun hj' => hin (hj.mpr (hm.holder_of_ne hij hj'))
    · cases q with
      | reading | locking => exact ho.trans hq
      | returned result =>
        obtain ⟨hb, hq⟩ := hq
        unfold Point.Fits
        rw [ho]
        exact ⟨fun a ha => hm.value (hb a ha), hq⟩
      | _ => exact absurd rfl hin

end Gate

/-! One turn of a race, and a run -/

namespace Race

variable {h : List (Event ε α)} {r : Race ω ε α} {i : Nat}

theorem getElem?_calls_set {c c' : Loader ω ε α × Point ε α} (hc : r.calls[i]? = some c) (j : Nat) :
    (r.calls.set i c')[j]? = if i = j then some c' else r.calls[j]? := by
  obtain ⟨hi, -⟩ := List.getElem?_eq_some_iff.mp hc
  rw [List.getElem?_set, if_pos hi]

theorem reading_of_start {gate : Gate α} {world : ω} {loaders : List (Loader ω ε α)}
    {load : Loader ω ε α} {p : Point ε α}
    (hc : (start gate world loaders).calls[i]? = some (load, p)) : p = .reading := by
  unfold start at hc
  rw [List.getElem?_map] at hc
  obtain ⟨_, -, hl⟩ := Option.map_eq_some_iff.mp hc
  cases hl
  rfl

theorem consistent_start (world : ω) (loaders : List (Loader ω ε α)) :
    (start .empty world loaders).Consistent [] where
  inside_iff i load p hc := by
    cases reading_of_start hc
    exact iff_of_false Bool.false_ne_true nofun
  fits i load p hc := by
    cases reading_of_start hc
    rfl
  absent _ _ := ⟨nofun, rfl⟩
  settled _ := ⟨rfl, rfl⟩

theorem Consistent.step (hr : r.Consistent h) (i : Nat) :
    (r.step i).Consistent (h ++ (r.event? i).toList) := by
  obtain ⟨hs, he, -⟩ | ⟨load, p, p', gate, world, hc, ha, hs, he⟩ := r.step_cases i
  · rw [hs, he, Option.toList_none, List.append_nil]
    exact hr
  have hm := Gate.moves_of_advance ha
  have hi := hr.inside_iff i load p hc
  have hp := hr.fits i load p hc
  have hset : ∀ j, (r.calls.set i (load, p'))[j]? =
      if i = j then some (load, p') else r.calls[j]? :=
    getElem?_calls_set hc
  rw [hs, he]
  have hcall : ∀ j load' q, (r.calls.set i (load, p'))[j]? = some (load', q) →
      (q.inside = true ↔ gate.holder = some j) ∧
        q.Fits j (h ++ (Event.of? i p p').toList) gate := by
    intro j load' q hq
    rw [hset] at hq
    by_cases hij : i = j
    · subst hij
      rw [if_pos rfl] at hq
      cases hq
      exact ⟨hm.holder hi, hm.fits hp hr.settled⟩
    · rw [if_neg hij] at hq
      exact hm.other hi hij (hr.inside_iff j load' q hq) (hr.fits j load' q hq)
  constructor
  · exact fun j load' q hq => (hcall j load' q hq).1
  · exact fun j load' q hq => (hcall j load' q hq).2
  · intro j hj
    dsimp only at hj ⊢
    rw [hset] at hj
    by_cases hij : i = j
    · rw [if_pos hij] at hj
      cases hj
    · rw [if_neg hij] at hj
      obtain ⟨hh, ho⟩ := hr.absent j hj
      exact ⟨fun hg => hh (hm.holder_of_ne hij hg), (Event.own_append_of? h hij).trans ho⟩
  · exact hm.settled hi hp hr.settled

theorem Consistent.run (hr : r.Consistent h) (schedule : List Nat) :
    (r.run schedule).Consistent (h ++ r.events schedule) := by
  induction schedule generalizing r h with
  | nil =>
    rw [events, List.append_nil]
    exact hr
  | cons i schedule ih =>
    rw [events, ← List.append_assoc]
    exact ih (hr.step i)

theorem consistent_run_start (world : ω) (loaders : List (Loader ω ε α)) (schedule : List Nat) :
    ((start .empty world loaders).run schedule).Consistent
      ((start .empty world loaders).events schedule) :=
  (consistent_start world loaders).run schedule

/-- The call amid its attempt, if there is one, knows what the gate and the loaders did. -/
theorem Consistent.settled_or (hr : r.Consistent h) :
    r.gate.Settled h ∨ ∃ i load, ∃ p : Point ε α, r.calls[i]? = some (load, p) ∧
      p.attempting = true ∧ p.Fits i h r.gate := by
  cases hh : r.gate.holder with
  | none => exact .inl (hr.settled hh)
  | some i =>
    cases hc : r.calls[i]? with
    | none => exact absurd hh (hr.absent i hc).1
    | some c =>
      obtain ⟨load, p⟩ := c
      have hp := hr.fits i load p hc
      have hin : p.inside = true := (hr.inside_iff i load p hc).mpr hh
      cases p with
      | reading | locking | returned => cases hin
      | rereading => exact .inl hp.2
      | starting => exact .inl hp.2.1
      | unlocking => exact .inl hp.1
      | loading | writing | publishing => exact .inr ⟨i, load, _, hc, rfl, hp⟩

theorem Consistent.values_eq (hr : r.Consistent h) {a : α} (hv : r.gate.value = some a) :
    Event.values h = [a] := by
  obtain hg | ⟨i, load, p, -, hat, hp⟩ := hr.settled_or
  · rw [hg.values, hv]
    rfl
  · cases p with
    | loading | writing => cases hp.2.2.1.symm.trans hv
    | publishing state result =>
      obtain ⟨-, -, -, -, hh⟩ := hp
      rw [hh, hv]
      rfl
    | _ => cases hat

theorem Consistent.values_length (hr : r.Consistent h) : (Event.values h).length ≤ 1 := by
  have hl : r.gate.value.toList.length ≤ 1 := by cases r.gate.value <;> simp
  obtain hg | ⟨i, load, p, -, hat, hp⟩ := hr.settled_or
  · rw [hg.values]
    exact hl
  · cases p with
    | loading => rw [hp.2.2.2]; exact Nat.zero_le 1
    | writing a => rw [hp.2.2.2]; exact le_refl 1
    | publishing state result => rw [hp.2.2.2.2]; exact hl
    | _ => cases hat

end Race
end RegexHost.Load

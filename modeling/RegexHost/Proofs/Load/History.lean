import RegexHost.Load.Race
import Mathlib.Tactic

/-! What happens while calls race for a gate, in order, and what the gate, the calls and the record
of it have to do with each other at every moment. A thread's calls are calls of the race, taken one
after the other. -/
namespace RegexHost.Load

/-- A loader's begin and end, and the return of a call. -/
inductive Event (ε α : Type)
  | began (call : Nat)
  | ended (call : Nat) (result : Outcome ε α)
  | returned (call : Nat) (result : Outcome ε α)
  deriving DecidableEq, Repr

variable {ω ε α : Type}

namespace Event

def call : Event ε α → Nat
  | began i | ended i _ | returned i _ => i

/-- What a call does that goes from one point to another. -/
def of? (call : Nat) : Point ε α → Point ε α → Option (Event ε α)
  | .starting, .loading => some (.began call)
  | .loading, .writing a => some (.ended call (.value a))
  | .loading, .publishing _ result => some (.ended call result)
  | _, .returned result => some (.returned call result)
  | _, _ => none

def loaded? : Event ε α → Option α
  | ended _ (.value a) => some a
  | _ => none

/-- The values that loaders returned. -/
def values (h : List (Event ε α)) : List α :=
  h.filterMap loaded?

/-- The part of one call. -/
def own (i : Nat) (h : List (Event ε α)) : List (Event ε α) :=
  h.filter (·.call = i)

@[simp] theorem values_append (h h' : List (Event ε α)) :
    values (h ++ h') = values h ++ values h' :=
  List.filterMap_append

@[simp] theorem own_append (i : Nat) (h h' : List (Event ε α)) :
    own i (h ++ h') = own i h ++ own i h' :=
  List.filter_append _ _

theorem own_snoc (e : Event ε α) {h l : List (Event ε α)} (ho : own e.call h = l) :
    own e.call (h ++ [e]) = l ++ [e] := by
  rw [own_append, ho, own, List.filter_singleton, decide_eq_true rfl]
  rfl

theorem own_snoc_of_ne {i : Nat} {e : Event ε α} (he : e.call ≠ i) (h : List (Event ε α)) :
    own i (h ++ [e]) = own i h := by
  rw [own_append, own, own, List.filter_singleton, decide_eq_false he]
  exact List.append_nil _

theorem mem_own {i : Nat} {e : Event ε α} {h : List (Event ε α)} :
    e ∈ own i h ↔ e ∈ h ∧ e.call = i := by
  rw [own, List.mem_filter, decide_eq_true_iff]

theorem values_snoc (e : Event ε α) {h : List (Event ε α)} {l : List α} (hv : values h = l) :
    values (h ++ [e]) = l ++ e.loaded?.toList := by
  rw [values_append, hv]
  cases he : e.loaded? <;> simp [values, he]

theorem loaded?_ended {i : Nat} {result : Outcome ε α} (hr : ∀ a, result ≠ .value a) :
    (ended i result).loaded? = none := by
  cases result with
  | value a => exact absurd rfl (hr a)
  | _ => rfl

theorem call_of {i : Nat} {p p' : Point ε α} {e : Event ε α} (h : of? i p p' = some e) :
    e.call = i := by
  unfold of? at h
  split at h <;> cases h <;> rfl

/-- What a call does is no part of another. -/
theorem own_append_of? {i j : Nat} {p p' : Point ε α} (h : List (Event ε α)) (hij : i ≠ j) :
    own j (h ++ (of? i p p').toList) = own j h := by
  cases he : of? i p p' with
  | none => rw [Option.toList_none, List.append_nil]
  | some e => exact own_snoc_of_ne (by rwa [call_of he]) h

end Event

/-- A load ends in the one turn that runs its loader. -/
theorem Gate.advance_of?_eq_ended {i j : Nat} {load : Loader ω ε α} {g g' : Gate α} {w w' : ω}
    {p p' : Point ε α} {result : Outcome ε α} (ha : g.advance i load w p = some (p', g', w'))
    (he : Event.of? i p p' = some (.ended j result)) : p = .loading ∧ (load g w).1 = result := by
  cases p with
  | loading =>
    unfold Gate.advance at ha
    rcases hload : load g w with ⟨a | e | _, world⟩ <;> simp only [hload] at ha <;>
      cases ha <;> cases he <;> exact ⟨rfl, rfl⟩
  | _ => cases p' <;> cases he

namespace Race

def event? (r : Race ω ε α) (i : Nat) : Option (Event ε α) :=
  match r.calls[i]? with
  | none => none
  | some (load, point) =>
    match r.gate.advance i load r.world point with
    | none => none
    | some (next, _, _) => Event.of? i point next

def events (r : Race ω ε α) : List Nat → List (Event ε α)
  | [] => []
  | i :: schedule => (r.event? i).toList ++ (r.step i).events schedule

/-- A turn leaves all as it is or moves one call by one point. -/
theorem step_cases (r : Race ω ε α) (i : Nat) :
    (r.step i = r ∧ r.event? i = none ∧
      ∀ load p, r.calls[i]? = some (load, p) → r.gate.advance i load r.world p = none) ∨
    ∃ load p p' gate world, r.calls[i]? = some (load, p) ∧
      r.gate.advance i load r.world p = some (p', gate, world) ∧
      r.step i = ⟨gate, world, r.calls.set i (load, p')⟩ ∧ r.event? i = Event.of? i p p' := by
  unfold step event?
  cases hc : r.calls[i]? with
  | none => exact .inl ⟨rfl, rfl, nofun⟩
  | some c =>
    obtain ⟨load, p⟩ := c
    cases ha : r.gate.advance i load r.world p with
    | none => exact .inl ⟨by simp [ha], by simp [ha], fun _ _ h => by cases h; exact ha⟩
    | some next =>
      obtain ⟨p', gate, world⟩ := next
      exact .inr ⟨load, p, p', gate, world, rfl, ha, by simp [ha], by simp [ha]⟩

/-- The end of a load is the loader's own answer, given the gate and the world as they stand. -/
theorem event?_eq_ended_iff {r : Race ω ε α} {i j : Nat} {result : Outcome ε α} :
    r.event? j = some (.ended i result) ↔
      j = i ∧ ∃ load, r.calls[i]? = some (load, .loading) ∧ (load r.gate r.world).1 = result := by
  constructor
  · intro he
    obtain ⟨-, hn, -⟩ | ⟨load, p, p', gate, world, hc, ha, -, hof⟩ := r.step_cases j
    · rw [hn] at he
      cases he
    · rw [hof] at he
      obtain rfl : j = i := (Event.call_of he).symm
      obtain ⟨rfl, hresult⟩ := Gate.advance_of?_eq_ended ha he
      exact ⟨rfl, load, hc, hresult⟩
  · rintro ⟨rfl, load, hc, rfl⟩
    simp only [event?, hc, Gate.advance]
    rcases load r.gate r.world with ⟨a | e | _, world⟩ <;> rfl

/-- Every end of a load that the record has is the answer of the loader that ran, at the turn that
it took. -/
theorem ended_mem_events_iff {r : Race ω ε α} {schedule : List Nat} {i : Nat}
    {result : Outcome ε α} :
    .ended i result ∈ r.events schedule ↔
      ∃ before after load, schedule = before ++ i :: after ∧
        (r.run before).calls[i]? = some (load, .loading) ∧
        (load (r.run before).gate (r.run before).world).1 = result := by
  induction schedule generalizing r with
  | nil => simp [events]
  | cons j schedule ih =>
    rw [events, List.mem_append, Option.mem_toList, event?_eq_ended_iff, ih]
    constructor
    · rintro (⟨rfl, load, hc, hresult⟩ | ⟨before, after, load, rfl, hc, hresult⟩)
      · exact ⟨[], schedule, load, rfl, hc, hresult⟩
      · exact ⟨j :: before, after, load, rfl, hc, hresult⟩
    · rintro ⟨_ | ⟨k, before⟩, after, load, hs, hc, hresult⟩
      · cases hs
        exact .inl ⟨rfl, load, hc, hresult⟩
      · cases hs
        exact .inr ⟨before, after, load, rfl, hc, hresult⟩

end Race
end RegexHost.Load

/-! A gate in front of a value that is loaded once. A value that is there is read without a lock; a
lock keeps loaders apart. -/
namespace RegexHost.Load

inductive State
  | notLoaded | loading | loaded
  deriving DecidableEq, Repr, Inhabited

def State.name : State → String
  | notLoaded => "NotLoaded"
  | loading => "Loading"
  | loaded => "Loaded"

/-- How a loader ends, and so the call that ran it. -/
inductive Outcome (ε α : Type)
  | value (a : α)
  | failed (e : ε)
  | crashed
  deriving DecidableEq, Repr

/-- The value and the state are cells of their own, written one after the other. -/
structure Gate (α : Type) where
  value : Option α
  state : State
  /-- The call that has the lock. -/
  holder : Option Nat
  deriving DecidableEq, Repr

/-- A loader acts on the world and can look at the gate. -/
abbrev Loader (ω ε α : Type) := Gate α → StateM ω (Outcome ε α)

/-- Where a call stands: what it does next. -/
inductive Point (ε α : Type)
  | reading
  | locking
  | rereading
  | starting
  | loading
  | writing (a : α)
  | publishing (state : State) (result : Outcome ε α)
  | unlocking (result : Outcome ε α)
  | returned (result : Outcome ε α)
  deriving DecidableEq, Repr

namespace Gate

variable {ω ε α : Type}

def empty : Gate α :=
  ⟨none, .notLoaded, none⟩

/-- One step of a call. There is none after its return, and none while another call has the lock
that it waits for. The state is published before the lock is given back, whatever the loader did. -/
def advance (call : Nat) (load : Loader ω ε α) (gate : Gate α) (world : ω) :
    Point ε α → Option (Point ε α × Gate α × ω)
  | .reading =>
    match gate.value with
    | some a => some (.returned (.value a), gate, world)
    | none => some (.locking, gate, world)
  | .locking =>
    if gate.holder.isNone then some (.rereading, { gate with holder := some call }, world) else none
  | .rereading =>
    match gate.value with
    | some a => some (.unlocking (.value a), gate, world)
    | none => some (.starting, gate, world)
  | .starting => some (.loading, { gate with state := .loading }, world)
  | .loading =>
    match load gate world with
    | (.value a, world) => some (.writing a, gate, world)
    | (result, world) => some (.publishing .notLoaded result, gate, world)
  | .writing a =>
    let kept := gate.value.getD a
    some (.publishing .loaded (.value kept), { gate with value := some kept }, world)
  | .publishing state result => some (.unlocking result, { gate with state }, world)
  | .unlocking result => some (.returned result, { gate with holder := none }, world)
  | .returned _ => none

/-- A call with no other beside it. -/
def getOrLoad (gate : Gate α) (load : Loader ω ε α) : StateM ω (Outcome ε α × Gate α) :=
  match gate.value with
  | some a => return (.value a, gate)
  | none => do
    match ← load { gate with state := .loading } with
    | .value a => return (.value a, { gate with value := some a, state := .loaded })
    | result => return (result, { gate with state := .notLoaded })

end RegexHost.Load.Gate

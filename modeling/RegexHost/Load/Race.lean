import RegexHost.Load.Gate

/-! Calls that use one gate at the same time, one step of one call after the other. -/
namespace RegexHost.Load

structure Race (ω ε α : Type) where
  gate : Gate α
  world : ω
  calls : List (Loader ω ε α × Point ε α)

namespace Race

variable {ω ε α : Type}

def start (gate : Gate α) (world : ω) (loaders : List (Loader ω ε α)) : Race ω ε α :=
  ⟨gate, world, loaders.map fun load => (load, .reading)⟩

/-- The call numbered `i` takes a step, if it can. -/
def step (r : Race ω ε α) (i : Nat) : Race ω ε α :=
  match r.calls[i]? with
  | none => r
  | some (load, point) =>
    match r.gate.advance i load r.world point with
    | none => r
    | some (point, gate, world) => ⟨gate, world, r.calls.set i (load, point)⟩

def run (r : Race ω ε α) (schedule : List Nat) : Race ω ε α :=
  schedule.foldl step r

/-- Every call in turn, until none can be left waiting: the first needs eight turns, and each other
one three more to get the lock, look and leave. -/
def inTurn (calls : Nat) : List Nat :=
  (List.replicate (8 + 3 * calls) (List.range calls)).flatten

def results (r : Race ω ε α) : List (Option (Outcome ε α)) :=
  r.calls.map fun c =>
    match c.2 with
    | .returned result => some result
    | _ => none

end RegexHost.Load.Race

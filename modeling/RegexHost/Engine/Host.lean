import RegexHost.Match
import RegexHost.Native.Abi

/-! Engine libraries as their host sees them: exports that may do anything, and a record of every
call made to them. -/
namespace RegexHost

/-- Whether `\G` and `\A` can match. -/
structure SearchOptions where
  beginPosition : Bool
  beginString : Bool
  deriving DecidableEq, Repr

namespace SearchOptions

def standard : SearchOptions :=
  ⟨true, true⟩

instance : Inhabited SearchOptions := ⟨standard⟩

end SearchOptions

/-- Distinct for distinct engines. -/
abbrev EngineId := Nat

/-- Memory that a library hands out, with its address. -/
structure Block (α : Type) where
  address : Nat
  content : α
  deriving DecidableEq, Repr

structure Made where
  handle : Option Nat
  message : Option (Block Bytes)
  deriving DecidableEq, Repr

structure Found where
  status : Int32
  buffer : Option (Block (List Int32))
  message : Option (Block Bytes)
  deriving DecidableEq, Repr

inductive Call
  | compile (pattern : Bytes) (reply : Made)
  | createString (text : Bytes) (reply : Made)
  | search (pattern : Nat) (text : Bytes) (offset : Nat) (options : SearchOptions) (reply : Found)
  | searchString (pattern text : Nat) (offset : Nat) (options : SearchOptions) (reply : Found)
  | freeCaptures (buffer : Option (Block (List Int32)))
  | freeError (message : Block Bytes)
  | freeRegex (handle : Nat)
  | freeString (handle : Nat)
  deriving DecidableEq, Repr

/-- A block of memory goes to the host of a library, or back. -/
inductive Transfer (α : Type)
  | lent (b : Block α)
  | returned (b : Block α)
  deriving DecidableEq, Repr

/-- What stands at an address then. Memory that was returned holds nothing. -/
def Transfer.leaves {α : Type} (address : Nat) (held : Option α) : Transfer α → Option α
  | lent b => if b.address = address then some b.content else held
  | returned b => if b.address = address then none else held

namespace Call

def message? : Call → Option (Transfer Bytes)
  | compile _ reply | createString _ reply => reply.message.map .lent
  | search _ _ _ _ reply | searchString _ _ _ _ reply => reply.message.map .lent
  | freeError m => some (.returned m)
  | freeCaptures _ | freeRegex _ | freeString _ => none

/-- A buffer without memory is returned without effect. -/
def captures? : Call → Option (Transfer (List Int32))
  | search _ _ _ _ reply | searchString _ _ _ _ reply => reply.buffer.map .lent
  | freeCaptures b => b.map .returned
  | compile .. | createString .. | freeError _ | freeRegex _ | freeString _ => none

end Call

/-- What stands at an address after some calls, as memory of one kind. -/
def heldAt {α : Type} (transfer? : Call → Option (Transfer α)) (address : Nat)
    (calls : List (EngineId × Call)) : Option α :=
  calls.foldl (fun held c => (transfer? c.2).elim held (Transfer.leaves address held)) none

/-- What the exports of each engine do, over a state that the libraries share. -/
structure Libraries (σ : Type) where
  compile : EngineId → Bytes → StateM σ Made
  createString : EngineId → Bytes → StateM σ Made
  search : EngineId → Nat → Bytes → Nat → SearchOptions → StateM σ Found
  searchString : EngineId → Nat → Nat → Nat → SearchOptions → StateM σ Found
  freeRegex : EngineId → Nat → StateM σ Unit
  freeString : EngineId → Nat → StateM σ Unit

/-- The libraries' state and the calls made so far, the first one first. -/
structure HostState (σ : Type) where
  libraries : σ
  calls : List (EngineId × Call)
  deriving Repr

abbrev Host (σ : Type) := StateM (HostState σ)

namespace Host

variable {σ : Type}

def record (engine : EngineId) (c : Call) : Host σ Unit :=
  modify fun s => { s with calls := s.calls ++ [(engine, c)] }

/-- Runs an export and records the call. -/
def call {α : Type} (engine : EngineId) (action : StateM σ α) (c : α → Call) : Host σ α := do
  let s ← get
  let (reply, libraries) := action.run s.libraries
  set { s with libraries }
  record engine (c reply)
  return reply

/-- Reads memory. Where nothing stands, nothing is read. -/
def read {α : Type} (transfer? : Call → Option (Transfer (List α))) (address : Nat) :
    Host σ (List α) := do
  return (heldAt transfer? address (← get).calls).getD []

end Host

end RegexHost

import RegexHost.Regex

/-! Patterns and texts in the hands of an owner. A wrapper has its handle until the handle is given
up or released. What is asked of a wrapper without a handle has no answer. -/
namespace RegexHost

structure ScopedRegex where
  engine : Engine
  handle : Option PatternHandle
  deriving DecidableEq, Repr

structure ScopedText where
  engine : Engine
  handle : Option TextHandle
  text : UnitText
  deriving DecidableEq, Repr

variable {σ : Type} (libs : Libraries σ)

namespace ScopedText

def make (e : Engine) (text : UnitText) : Host σ (Except Error ScopedText) := do
  return (← InternedText.make libs e text).map fun t => ⟨t.engine, some t.handle, t.text⟩

def interned? (t : ScopedText) : Option InternedText :=
  t.handle.map fun h => ⟨t.engine, h, t.text⟩

/-- Releases the handle, if it is still there. -/
def drop (t : ScopedText) : Host σ Unit :=
  match t.interned? with
  | some x => x.drop libs
  | none => pure ()

end ScopedText

namespace ScopedRegex

/-- Takes over a handle that this engine has made. -/
def ofHandle (e : Engine) (p : PatternHandle) : ScopedRegex :=
  ⟨e, some p⟩

def make (e : Engine) (pattern : String) : Host σ (Except Error ScopedRegex) := do
  return (← Regex.make libs e pattern).map fun r => ofHandle r.engine r.handle

def regex? (r : ScopedRegex) : Option Regex :=
  r.handle.map fun h => ⟨r.engine, h⟩

/-- Releases the handle, if it is still there. -/
def drop (r : ScopedRegex) : Host σ Unit :=
  match r.regex? with
  | some x => x.drop libs
  | none => pure ()

/-- Takes the handle, and drops what is left of the wrapper. -/
def giveUp (r : ScopedRegex) : Host σ (Option PatternHandle) := do
  drop libs { r with handle := none }
  return r.handle

def search (r : ScopedRegex) (text : UnitText) (offset : Nat) (options : SearchOptions) :
    Host σ (Option (Except Error (Option Match))) :=
  match Regex.startOf text offset with
  | .error f => return some (.error f)
  | .ok _ =>
    match r.regex? with
    | some x => return some (← x.search libs text offset options)
    | none => return none

def searchBytes (r : ScopedRegex) (text : Bytes) (offset : Nat) (options : SearchOptions) :
    Host σ (Option (Except Error (Option Match))) :=
  match r.regex? with
  | some x => return some (← x.searchBytes libs text offset options)
  | none => return none

def searchInterned (r : ScopedRegex) (t : ScopedText) (offset : Nat) (options : SearchOptions) :
    Host σ (Option (Except Error (Option Match))) :=
  if r.engine.id ≠ t.engine.id then return some (.error .engineMismatch)
  else match Regex.startOf t.text offset with
    | .error f => return some (.error f)
    | .ok _ =>
      match r.regex?, t.interned? with
      | some x, some u => return some (← x.searchInterned libs u offset options)
      | _, _ => return none

/-- The inner result is missing if the turns are too few. -/
def findAll (r : ScopedRegex) (text : UnitText) (options : SearchOptions) (turns : Nat) :
    Host σ (Option (Option (Except Error (List Match)))) :=
  match r.regex? with
  | some x => return some (← x.findAll libs text options turns)
  | none => return none

end ScopedRegex

end RegexHost

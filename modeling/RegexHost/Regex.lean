import RegexHost.Engine.Facade
import RegexHost.Text.UnitText

/-! Patterns and texts bound to the engine that made them. Offsets are in code units. -/
namespace RegexHost

structure Regex where
  engine : Engine
  handle : PatternHandle
  deriving DecidableEq, Repr

structure InternedText where
  engine : Engine
  handle : TextHandle
  text : UnitText
  deriving Repr

variable {σ : Type} (libs : Libraries σ)

namespace InternedText

def make (e : Engine) (text : UnitText) : Host σ (Except Error InternedText) := do
  match ← e.internText libs text.bytes with
  | .ok h => return .ok ⟨e, h, text⟩
  | .error f => return .error f

def drop (t : InternedText) : Host σ Unit :=
  t.engine.releaseText libs t.handle

end InternedText

namespace Regex

def make (e : Engine) (pattern : String) : Host σ (Except Error Regex) := do
  match ← e.compile libs (Utf8.encode pattern.toList) with
  | .ok h => return .ok ⟨e, h⟩
  | .error f => return .error f

def drop (r : Regex) : Host σ Unit :=
  r.engine.release libs r.handle

def startOf (text : UnitText) (offset : Nat) : Except Error Nat := do
  checkOffset offset text.length
  return text.byteOffset offset

def inUnits (text : UnitText) (result : Except Error (Option Match)) :
    Except Error (Option Match) :=
  result.map fun found => found.map (Match.toUnits text.bytes)

def search (r : Regex) (text : UnitText) (offset : Nat) (options : SearchOptions) :
    Host σ (Except Error (Option Match)) :=
  match startOf text offset with
  | .error f => return .error f
  | .ok start => return inUnits text (← r.engine.search libs r.handle text.bytes start options)

def searchBytes (r : Regex) (text : Bytes) (offset : Nat) (options : SearchOptions) :
    Host σ (Except Error (Option Match)) :=
  r.engine.search libs r.handle text offset options

def searchInterned (r : Regex) (t : InternedText) (offset : Nat) (options : SearchOptions) :
    Host σ (Except Error (Option Match)) :=
  if r.engine.id ≠ t.engine.id then return .error .engineMismatch
  else match startOf t.text offset with
    | .error f => return .error f
    | .ok start =>
      return inUnits t.text (← r.engine.searchText libs r.handle t.handle start options)

/-- Where the search after a match begins: past the match, and past a character more if the match
took nothing. -/
def nextOffset (text : UnitText) (start stop : Nat) : Nat :=
  if start < stop then stop else Utf16.next text.units stop

/-- All matches from `offset` on, one search after the other, unless `turns` searches are too
few. -/
def findFrom (r : Regex) (text : UnitText) (options : SearchOptions) :
    Nat → Nat → Host σ (Option (Except Error (List Match)))
  | 0, offset => return if text.length < offset then some (.ok []) else none
  | turns + 1, offset =>
    if text.length < offset then return some (.ok [])
    else do
      match ← r.search libs text offset options with
      | .error f => return some (.error f)
      | .ok none => return some (.ok [])
      | .ok (some m) =>
        match m.whole?.bind Capture.range? with
        | none => return some (.ok [])
        | some (start, stop) => do
          let rest ← findFrom r text options turns (nextOffset text start stop)
          return rest.map fun result => result.map (m :: ·)

def findAll (r : Regex) (text : UnitText) (options : SearchOptions) (turns : Nat) :
    Host σ (Option (Except Error (List Match))) :=
  r.findFrom libs text options turns 0

end RegexHost.Regex

import RegexHost.Text.Offset

/-! What a search reports: a pair of positions for the whole match and for every group. -/
namespace RegexHost

structure Capture where
  start : Int32
  stop : Int32
  deriving DecidableEq, Repr, Inhabited

namespace Capture

/-- A group that took no part in the match. -/
def unmatched : Capture :=
  ⟨-1, -1⟩

def isMatched (c : Capture) : Bool :=
  0 ≤ c.start && 0 ≤ c.stop

/-- The ends of a matched capture. They may be in either order. -/
def range? (c : Capture) : Option (Nat × Nat) :=
  if c.isMatched then some (c.start.toInt.toNat, c.stop.toInt.toNat) else none

def length (c : Capture) : Nat :=
  match c.range? with
  | some (i, j) => j - i
  | none => 0

def isEmpty (c : Capture) : Bool :=
  c.length = 0

def mapM {m : Type → Type} [Monad m] (f : Int32 → m Int32) (c : Capture) : m Capture :=
  if c.isMatched then do
    let start ← f c.start
    let stop ← f c.stop
    return ⟨start, stop⟩
  else pure c

def map (f : Int32 → Int32) (c : Capture) : Capture :=
  if c.isMatched then ⟨f c.start, f c.stop⟩ else c

end Capture

/-- The captures of a match, the whole match first. -/
structure Match where
  captures : List Capture
  deriving DecidableEq, Repr, Inhabited

namespace Match

def empty : Match :=
  ⟨[]⟩

def pairs : List Int32 → List Capture
  | s :: e :: rest => ⟨s, e⟩ :: pairs rest
  | _ => []

/-- Reads the ends two by two. An odd one at the end is left out. -/
def ofFlat (ends : List Int32) : Match :=
  ⟨pairs ends⟩

def whole? (m : Match) : Option Capture :=
  m.captures.head?

def group? (m : Match) (n : Nat) : Option Capture :=
  m.captures[n]?

def length (m : Match) : Nat :=
  m.captures.length

def isEmpty (m : Match) : Bool :=
  m.captures.isEmpty

def mapOffsetsM {n : Type → Type} [Monad n] (f : Int32 → n Int32) (m : Match) : n Match := do
  return ⟨← m.captures.mapM (Capture.mapM f)⟩

def mapOffsets (f : Int32 → Int32) (m : Match) : Match :=
  ⟨m.captures.map (Capture.map f)⟩

/-- A byte position as a unit position of the text with these bytes. -/
def unitEnd (bytes : Bytes) (offset : Int32) : Int32 :=
  .ofNat (unitOffset bytes offset.toInt.toNat)

def toUnits (bytes : Bytes) (m : Match) : Match :=
  m.mapOffsets (unitEnd bytes)

end RegexHost.Match

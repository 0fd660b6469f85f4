import RegexHost.Engine.Host
import RegexHost.Error

/-! Engines behind their exports. Offsets are in bytes. What a library hands out is given back
before a call returns. -/
namespace RegexHost

structure Engine where
  id : EngineId
  isDynamic : Bool
  deriving DecidableEq, Repr

/-- A compiled pattern, to be released once by the engine that made it. -/
structure PatternHandle where
  address : Nat
  deriving DecidableEq, Repr

/-- A text kept by an engine, and its length. -/
structure TextHandle where
  address : Nat
  length : Nat
  deriving DecidableEq, Repr

namespace PatternHandle

/-- The null address makes no handle. -/
def ofAddress? (address : Option Nat) : Option PatternHandle :=
  address.map .mk

end PatternHandle

namespace TextHandle

def isEmpty (t : TextHandle) : Bool :=
  t.length = 0

def ofAddress? (address : Option Nat) (length : Nat) : Option TextHandle :=
  address.map fun a => ⟨a, length⟩

end TextHandle

/-- An offset at the end of the text is still in bounds. -/
def checkOffset (offset length : Nat) : Except Error Unit :=
  if length < offset then .error (.offsetOutOfBounds offset length) else .ok ()

namespace Engine

def describe (e : Engine) : String :=
  "NativeEngine \x7b dynamic: " ++ (if e.isDynamic then "true" else "false") ++ " \x7d"

def unknownMessage : String := "unknown native error"

/-- The text in memory, which a NUL ends. -/
def messageText (content : Bytes) : String :=
  .ofList (Utf8.decode (content.takeWhile (· ≠ 0)))

variable {σ : Type} (libs : Libraries σ)

def takeMessage (e : Engine) : Option (Block Bytes) → Host σ String
  | none => return unknownMessage
  | some m => do
    let content ← Host.read Call.message? m.address
    Host.record e.id (.freeError m)
    return messageText content

def compile (e : Engine) (pattern : Bytes) : Host σ (Except Error PatternHandle) := do
  let made ← Host.call e.id (libs.compile e.id pattern) (.compile pattern)
  match made.handle with
  | some h => return .ok ⟨h⟩
  | none => return .error (.compile (← e.takeMessage made.message))

def release (e : Engine) (p : PatternHandle) : Host σ Unit :=
  Host.call e.id (libs.freeRegex e.id p.address) fun _ => .freeRegex p.address

def internText (e : Engine) (text : Bytes) : Host σ (Except Error TextHandle) := do
  let made ← Host.call e.id (libs.createString e.id text) (.createString text)
  match made.handle with
  | some h => return .ok ⟨h, text.length⟩
  | none => return .error (.native (← e.takeMessage made.message))

def releaseText (e : Engine) (t : TextHandle) : Host σ Unit :=
  Host.call e.id (libs.freeString e.id t.address) fun _ => .freeString t.address

def readMatch : Option (Block (List Int32)) → Host σ Match
  | none => return .empty
  | some b => return .ofFlat (← Host.read Call.captures? b.address)

def collect (e : Engine) (found : Found) : Host σ (Except Error (Option Match)) :=
  if found.status = Native.matched then do
    let result ← readMatch found.buffer
    Host.record e.id (.freeCaptures found.buffer)
    return .ok (some result)
  else if found.status = Native.noMatch then return .ok none
  else return .error (.native (← e.takeMessage found.message))

def search (e : Engine) (p : PatternHandle) (text : Bytes) (offset : Nat)
    (options : SearchOptions) : Host σ (Except Error (Option Match)) :=
  match checkOffset offset text.length with
  | .error f => return .error f
  | .ok () => do
    let found ← Host.call e.id (libs.search e.id p.address text offset options)
      (.search p.address text offset options)
    e.collect found

def searchText (e : Engine) (p : PatternHandle) (t : TextHandle) (offset : Nat)
    (options : SearchOptions) : Host σ (Except Error (Option Match)) :=
  match checkOffset offset t.length with
  | .error f => return .error f
  | .ok () => do
    let found ← Host.call e.id (libs.searchString e.id p.address t.address offset options)
      (.searchString p.address t.address offset options)
    e.collect found

end RegexHost.Engine

import RegexHost.Match
import RegexHost.Native.Abi
import RegexHost.Native.Fault

/-! What the exports of an engine library do with their arguments. The work inside may write to what
the caller has lent before it fails or crashes. Whatever it comes to, an export either succeeds or
returns its fallback and leaves a message. -/
namespace RegexHost.Native

inductive Work (α : Type)
  | returned (a : α)
  | failed (f : Fault)
  | crashed (p : Payload)
  deriving Repr

namespace Work

def bind {α β : Type} (w : Work α) (f : α → Work β) : Work β :=
  match w with
  | returned a => f a
  | failed e => failed e
  | crashed p => crashed p

instance : Monad Work where
  pure := returned
  bind := bind

def ofExcept {α : Type} : Except Fault α → Work α
  | .ok a => returned a
  | .error f => failed f

/-- A crash is a fault like any other to whoever hears of it. -/
def fault? {α : Type} : Work α → Option Fault
  | returned _ => none
  | failed f => some f
  | crashed p => some (.ofPayload p)

end Work

/-- The ends of the whole match and of each group, in bytes; nothing for a group that took no
part. -/
abbrev Region := List (Option (Nat × Nat))

/-- The engine inside: patterns of type `ρ`, and text that is known to be UTF-8. -/
structure Core (ρ : Type) where
  compile : List Char → Work ρ
  search : ρ → Bytes → Nat → Bool → Bool → Work (Option Region)

/-- A pointer and a length. The pointer may be null. -/
inductive Data
  | null (length : Nat)
  | given (bytes : Bytes)
  deriving DecidableEq, Repr

/-- Where a message goes: nowhere, or over what is there. -/
abbrev ErrorSlot := Option (Option Bytes)

/-- Where captures go: nowhere, or over what is there. -/
abbrev OutSlot := Option (Option (List Int32))

/-- What a call can write to, and the objects made so far that somebody has to free. -/
structure Frame (κ : Type) where
  out : OutSlot
  error : ErrorSlot
  made : List κ
  deriving DecidableEq, Repr

/-- Work that writes. Nothing that it has written is taken back when it fails or crashes. -/
def Job (κ α : Type) :=
  Frame κ → Work α × Frame κ

namespace Job

variable {κ : Type}

def bind {α β : Type} (j : Job κ α) (f : α → Job κ β) : Job κ β := fun frame =>
  match j frame with
  | (.returned a, frame) => f a frame
  | (.failed e, frame) => (.failed e, frame)
  | (.crashed p, frame) => (.crashed p, frame)

instance : Monad (Job κ) where
  pure a := fun frame => (.returned a, frame)
  bind := bind

instance : MonadLift Work (Job κ) where
  monadLift w := fun frame => (w, frame)

/-- Makes an object that outlives the call. -/
def make (k : κ) : Job κ κ := fun frame =>
  (.returned k, { frame with made := frame.made ++ [k] })

end Job

/-- An empty input may come with any pointer. -/
def Data.read (argument : String) : Data → Except Fault Bytes
  | .null 0 => .ok []
  | .null _ => .error (.nullPointer argument)
  | .given bytes => .ok bytes

def readText (argument : String) (data : Data) : Except Fault Bytes := do
  let bytes ← data.read argument
  match Utf8.fault? bytes with
  | some f => throw (.notUtf8 f)
  | none => return bytes

/-- A message as it is handed out: a NUL would end it, so a space takes its place. -/
def messageBytes (f : Fault) : Bytes :=
  Utf8.encode (f.message.toList.map fun c => if c = '\x00' then ' ' else c)

/-- Bytes that can be handed out with a NUL after them. -/
def terminated? (bytes : Bytes) : Option Bytes :=
  if 0 ∈ bytes then none else some bytes

def Frame.report {κ : Type} (f : Fault) (frame : Frame κ) : Frame κ :=
  match frame.error, terminated? (messageBytes f) with
  | some _, some message => { frame with error := some (some message) }
  | _, _ => frame

def guard {κ α : Type} (job : Job κ α) (fallback : α) (frame : Frame κ) : α × Frame κ :=
  match job frame with
  | (.returned a, frame) => (a, frame)
  | (.failed f, frame) => (fallback, frame.report f)
  | (.crashed p, frame) => (fallback, frame.report (.ofPayload p))

def textLimit : Nat := 2147483647

def flatten (region : Region) : List Int32 :=
  region.flatMap fun
    | some (start, stop) => [.ofNat start, .ofNat stop]
    | none => [unmatchedEnd, unmatchedEnd]

def checkedSearch {ρ : Type} (core : Core ρ) (regex : ρ) (text : Bytes) (offset : Nat)
    (beginPosition beginString : Bool) : Work (Option Region) :=
  if textLimit < text.length then .failed (.textTooLarge text.length)
  else if text.length < offset then .failed (.offsetOutOfBounds offset text.length)
  else core.search regex text offset beginPosition beginString

/-- Writes the captures of a match. The status says whether there is one. -/
def writeCaptures {κ : Type} (found : Option (List Int32)) : Job κ Int32 := fun frame =>
  match found, frame.out with
  | none, _ => (.returned noMatch, frame)
  | some _, none => (.failed (.nullPointer "capture buffer"), frame)
  | some ends, some _ => (.returned matched, { frame with out := some (some ends) })

def regexOf {ρ : Type} : Option ρ → Work ρ
  | some r => .returned r
  | none => .failed (.nullPointer "pattern handle")

def textOf : Option Bytes → Work Bytes
  | some t => .returned t
  | none => .failed (.nullPointer "text handle")

/-! The work inside each export, up to its writes -/

section

variable {ρ : Type} (core : Core ρ)

def compileWork (pattern : Data) : Work ρ := do
  let bytes ← Work.ofExcept (readText "pattern" pattern)
  core.compile (Utf8.decode bytes)

def textWork (utf8 : Data) : Work Bytes :=
  Work.ofExcept (readText "text" utf8)

def searchWork (regex : Option ρ) (text : Data) (offset : Nat) (beginPosition beginString : Bool) :
    Work (Option Region) := do
  let r ← regexOf regex
  let bytes ← Work.ofExcept (readText "text" text)
  checkedSearch core r bytes offset beginPosition beginString

def searchStringWork (regex : Option ρ) (text : Option Bytes) (offset : Nat)
    (beginPosition beginString : Bool) : Work (Option Region) := do
  let r ← regexOf regex
  let bytes ← textOf text
  checkedSearch core r bytes offset beginPosition beginString

end

/-- An export that makes an object and hands it out. -/
def makingCall {κ : Type} (work : Work κ) (frame : Frame κ) : Option κ × Frame κ :=
  guard (do some <$> Job.make (← work)) none frame

/-- An export that searches. -/
def searchingCall {κ : Type} (work : Work (Option Region)) (frame : Frame κ) : Int32 × Frame κ :=
  guard (do writeCaptures ((← work).map flatten)) searchError frame

variable {ρ : Type} (core : Core ρ)

def compile (pattern : Data) (error : ErrorSlot) : Option ρ × ErrorSlot :=
  let (handle, frame) := makingCall (compileWork core pattern) ⟨none, error, []⟩
  (handle, frame.error)

def createString (utf8 : Data) (error : ErrorSlot) : Option Bytes × ErrorSlot :=
  let (handle, frame) := makingCall (textWork utf8) ⟨none, error, []⟩
  (handle, frame.error)

def search (regex : Option ρ) (text : Data) (offset : Nat) (beginPosition beginString : Bool)
    (out : OutSlot) (error : ErrorSlot) : (Int32 × OutSlot) × ErrorSlot :=
  let (status, frame) := searchingCall (searchWork core regex text offset beginPosition beginString)
    (⟨out, error, []⟩ : Frame ρ)
  ((status, frame.out), frame.error)

def searchString (regex : Option ρ) (text : Option Bytes) (offset : Nat)
    (beginPosition beginString : Bool) (out : OutSlot) (error : ErrorSlot) :
    (Int32 × OutSlot) × ErrorSlot :=
  let (status, frame) :=
    searchingCall (searchStringWork core regex text offset beginPosition beginString)
      (⟨out, error, []⟩ : Frame ρ)
  ((status, frame.out), frame.error)

def freeCaptures (out : OutSlot) : OutSlot :=
  out.map fun _ => none

end RegexHost.Native

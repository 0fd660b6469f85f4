import RegexHost.Engine.Host
import RegexHost.Native.Inner
import RegexHost.Pattern.Search

/-! The engine that is part of the program: its exports around any engine inside, and the patterns
and texts that live behind its handles. -/
namespace RegexHost.Linked

def notBeginString : UInt32 :=
  0x400000

def notBeginPosition : UInt32 :=
  0x1000000

/-- All ranges that are asked for end where the text does. -/
def inner : Native.Inner Pattern.Program where
  compile cs :=
    match Pattern.compile cs with
    | .ok p => .returned p
    | .error d => .failed (.engine d.message)
  search p text start _ options :=
    match p.search text start (options &&& notBeginPosition = 0)
      (options &&& notBeginString = 0) with
    | .ok region => .returned region
    | .error f => .crashed (.text ("Onig: Regex search error: " ++ f.text))
  notBeginPosition := notBeginPosition
  notBeginString := notBeginString

def core : Native.Core Pattern.Program :=
  inner.core

/-- What lives behind handles. Addresses are never used again. -/
structure Heap (ρ : Type) where
  next : Nat
  patterns : List (Nat × ρ)
  texts : List (Nat × Bytes)
  deriving DecidableEq, Repr, Inhabited

namespace Heap

variable {ρ : Type}

def empty : Heap ρ :=
  ⟨1, [], []⟩

def fresh : StateM (Heap ρ) Nat :=
  modifyGet fun h => (h.next, { h with next := h.next + 1 })

def place {α : Type} : Option α → StateM (Heap ρ) (Option (Block α))
  | none => return none
  | some a => return some ⟨← fresh, a⟩

end Heap

variable {ρ : Type} (core : Native.Core ρ)

def compile (pattern : Bytes) : StateM (Heap ρ) Made := do
  let (regex, error) := Native.compile core (.given pattern) (some none)
  let message ← Heap.place error.join
  match regex with
  | none => return ⟨none, message⟩
  | some p => do
    let a ← Heap.fresh
    modify fun h => { h with patterns := (a, p) :: h.patterns }
    return ⟨some a, message⟩

def createString (text : Bytes) : StateM (Heap ρ) Made := do
  let (kept, error) := Native.createString (.given text) (some none)
  let message ← Heap.place error.join
  match kept with
  | none => return ⟨none, message⟩
  | some t => do
    let a ← Heap.fresh
    modify fun h => { h with texts := (a, t) :: h.texts }
    return ⟨some a, message⟩

def reply (outcome : (Int32 × Native.OutSlot) × Native.ErrorSlot) : StateM (Heap ρ) Found := do
  let buffer ← Heap.place outcome.1.2.join
  let message ← Heap.place outcome.2.join
  return ⟨outcome.1.1, buffer, message⟩

def search (pattern : Nat) (text : Bytes) (offset : Nat) (options : SearchOptions) :
    StateM (Heap ρ) Found := do
  let heap ← get
  reply (Native.search core (heap.patterns.lookup pattern) (.given text) offset
    options.beginPosition options.beginString (some none) (some none))

def searchString (pattern text offset : Nat) (options : SearchOptions) : StateM (Heap ρ) Found := do
  let heap ← get
  reply (Native.searchString core (heap.patterns.lookup pattern) (heap.texts.lookup text) offset
    options.beginPosition options.beginString (some none) (some none))

def freeRegex (pattern : Nat) : StateM (Heap ρ) Unit :=
  modify fun h => { h with patterns := h.patterns.filter (·.1 ≠ pattern) }

def freeString (text : Nat) : StateM (Heap ρ) Unit :=
  modify fun h => { h with texts := h.texts.filter (·.1 ≠ text) }

/-- Every engine is this one. -/
def libraries : Libraries (Heap ρ) where
  compile _ := compile core
  createString _ := createString
  search _ := search core
  searchString _ := searchString core
  freeRegex _ := freeRegex
  freeString _ := freeString

end RegexHost.Linked

import RegexHost.Engine.Host

/-! A library that answers from a script, to watch what its host does with the answers. -/
namespace RegexHost.Scripted

inductive Making
  | handle
  | refusal (message : Option Bytes)
  deriving DecidableEq, Repr

structure Finding where
  status : Int32
  ends : Option (List Int32)
  message : Option Bytes
  deriving DecidableEq, Repr

/-- The answers left, the next handle and the next block of memory. -/
structure Script where
  compiles : List Making
  interns : List Making
  searches : List Finding
  nextHandle : Nat
  nextBlock : Nat
  deriving Repr, Inhabited

/-- A script that has run out makes handles and finds nothing. -/
def nothingFound : Finding :=
  ⟨0, none, none⟩

def begin (compiles interns : List Making) (searches : List Finding) : Script :=
  ⟨compiles, interns, searches, 1, 1⟩

def place {α : Type} : Option α → StateM Script (Option (Block α))
  | none => return none
  | some a => modifyGet fun s => (some ⟨s.nextBlock, a⟩, { s with nextBlock := s.nextBlock + 1 })

/-- Handles are numbered from 1 on, patterns and texts alike. -/
def make : Making → StateM Script Made
  | .handle =>
    modifyGet fun s => (⟨some s.nextHandle, none⟩, { s with nextHandle := s.nextHandle + 1 })
  | .refusal message => return ⟨none, ← place message⟩

def compile : StateM Script Made := do
  let s ← get
  set { s with compiles := s.compiles.tail }
  make (s.compiles.headD .handle)

def createString : StateM Script Made := do
  let s ← get
  set { s with interns := s.interns.tail }
  make (s.interns.headD .handle)

def search : StateM Script Found := do
  let s ← get
  set { s with searches := s.searches.tail }
  let f := s.searches.headD nothingFound
  return ⟨f.status, ← place f.ends, ← place f.message⟩

end RegexHost.Scripted

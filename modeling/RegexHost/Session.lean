import RegexHost.Engine.Linked
import RegexHost.Engine.Scripted
import RegexHost.Scoped

/-! Sessions: steps that make, use and drop named patterns and texts of several engines. -/
namespace RegexHost.Session

inductive Kind
  | linked
  | scripted
  deriving DecidableEq, Repr

structure Libs where
  heap : Linked.Heap Pattern.Program
  script : Scripted.Script

def onHeap {α : Type} (action : StateM (Linked.Heap Pattern.Program) α) : StateM Libs α :=
  modifyGet fun s => let (a, heap) := action.run s.heap; (a, { s with heap })

def onScript {α : Type} (action : StateM Scripted.Script α) : StateM Libs α :=
  modifyGet fun s => let (a, script) := action.run s.script; (a, { s with script })

/-- All scripted engines share one script. -/
def libraries (kind : EngineId → Kind) : Libraries Libs where
  compile e pattern :=
    match kind e with
    | .linked => onHeap (Linked.compile Linked.core pattern)
    | .scripted => onScript Scripted.compile
  createString e text :=
    match kind e with
    | .linked => onHeap (Linked.createString text)
    | .scripted => onScript Scripted.createString
  search e pattern text offset options :=
    match kind e with
    | .linked => onHeap (Linked.search Linked.core pattern text offset options)
    | .scripted => onScript Scripted.search
  searchString e pattern text offset options :=
    match kind e with
    | .linked => onHeap (Linked.searchString Linked.core pattern text offset options)
    | .scripted => onScript Scripted.search
  freeRegex e pattern :=
    match kind e with
    | .linked => onHeap (Linked.freeRegex pattern)
    | .scripted => pure ()
  freeString e text :=
    match kind e with
    | .linked => onHeap (Linked.freeString text)
    | .scripted => pure ()

inductive Item
  | regex (r : ScopedRegex)
  | interned (t : ScopedText)
  | pattern (p : PatternHandle)
  | text (t : TextHandle)
  deriving DecidableEq

inductive Step
  | compile (engine : Nat) (name : String) (pattern : Bytes)
  | intern (engine : Nat) (name : String) (text : Bytes)
  | search (engine : Nat) (p : String) (text : Bytes) (offset : Nat) (options : SearchOptions)
  | searchText (engine : Nat) (p t : String) (offset : Nat) (options : SearchOptions)
  | release (engine : Nat) (p : String)
  | releaseText (engine : Nat) (t : String)
  /-- Gives a handle up for its address and makes it anew, with another length if one is given. -/
  | remake (p : String) (name : String)
  | remakeText (t : String) (name : String) (length : Option Nat)
  | nullHandles
  | describe (engine : Nat)
  | regex (engine : Nat) (name : String) (pattern : String)
  | adopt (engine : Nat) (p : String) (name : String)
  | giveUp (r : String) (name : String)
  | interned (engine : Nat) (name : String) (text : UnitText)
  | find (r : String) (text : UnitText) (offset : Nat) (options : SearchOptions)
  | findBytes (r : String) (text : Bytes) (offset : Nat) (options : SearchOptions)
  | findInterned (r t : String) (offset : Nat) (options : SearchOptions)
  | findAll (r : String) (text : UnitText) (options : SearchOptions)
  | drop (name : String)

inductive Answer
  | done
  | error (e : Error)
  | found (m : Option Match)
  | allFound (ms : List Match)
  | length (n : Nat) (isEmpty : Bool)
  | interned (t : UnitText)
  | areNull (pattern text : Bool)
  | text (s : String)
  | unknown

structure State where
  engines : List Engine
  items : List (String × Item)

/-- A session over libraries of any kind. It ends where something is asked of a wrapper without a
handle. -/
abbrev Run (σ : Type) := OptionT (StateT State (Host σ))

section

variable {σ : Type} (libs : Libraries σ)

def dropItem : Item → Host σ Unit
  | .regex r => r.drop libs
  | .interned t => t.drop libs
  | .pattern _ | .text _ => pure ()

def insertItem (name : String) (item : Item) : List (String × Item) → List (String × Item)
  | [] => [(name, item)]
  | (n, i) :: rest =>
    if name < n then (name, item) :: (n, i) :: rest
    else if name = n then (name, item) :: rest
    else (n, i) :: insertItem name item rest

/-- Keeps an item under a name. What had the name is dropped. -/
def keep (name : String) (item : Item) : Run σ Unit := do
  let s ← get
  set { s with items := insertItem name item s.items }
  match s.items.lookup name with
  | some old => dropItem libs old
  | none => pure ()

def forget (name : String) : Run σ Unit :=
  modify fun s => { s with items := s.items.filter (·.1 ≠ name) }

def item? (name : String) : Run σ (Option Item) := do
  return (← get).items.lookup name

def withEngine (i : Nat) (f : Engine → Run σ Answer) : Run σ Answer := do
  match (← get).engines[i]? with
  | some e => f e
  | none => return .unknown

def withPattern (name : String) (f : PatternHandle → Run σ Answer) : Run σ Answer := do
  match ← item? name with
  | some (.pattern p) => f p
  | _ => return .unknown

def withText (name : String) (f : TextHandle → Run σ Answer) : Run σ Answer := do
  match ← item? name with
  | some (.text t) => f t
  | _ => return .unknown

def withRegex (name : String) (f : ScopedRegex → Run σ Answer) : Run σ Answer := do
  match ← item? name with
  | some (.regex r) => f r
  | _ => return .unknown

def withInterned (name : String) (f : ScopedText → Run σ Answer) : Run σ Answer := do
  match ← item? name with
  | some (.interned t) => f t
  | _ => return .unknown

/-- What a wrapper answers. -/
def ask {α : Type} (action : Host σ (Option α)) : Run σ α :=
  OptionT.mk action

def ofSearch : Except Error (Option Match) → Answer
  | .ok m => .found m
  | .error e => .error e

/-- Keeps what was made, or answers with the failure. -/
def keepMade {α : Type} (made : Except Error α) (name : String) (item : α → Item)
    (answer : α → Answer) : Run σ Answer := do
  match made with
  | .ok a => do
    keep libs name (item a)
    return answer a
  | .error e => return .error e

/-- One step. A step that looks for all matches searches at most `extra` times more often than a
search at every place of the text would. -/
def step (extra : Nat) : Step → Run σ Answer
  | .compile i name pattern => withEngine i fun e => do
    keepMade libs (← e.compile libs pattern) name .pattern fun _ => .done
  | .intern i name text => withEngine i fun e => do
    keepMade libs (← e.internText libs text) name .text fun t => .length t.length t.isEmpty
  | .search i p text offset options => withEngine i fun e => withPattern p fun h => do
    return ofSearch (← e.search libs h text offset options)
  | .searchText i p t offset options =>
    withEngine i fun e => withPattern p fun h => withText t fun u => do
    return ofSearch (← e.searchText libs h u offset options)
  | .release i p => withEngine i fun e => withPattern p fun h => do
    forget p
    e.release libs h
    return .done
  | .releaseText i t => withEngine i fun e => withText t fun h => do
    forget t
    e.releaseText libs h
    return .done
  | .remake p name => withPattern p fun h => do
    forget p
    match PatternHandle.ofAddress? (some h.address) with
    | some h => do
      keep libs name (.pattern h)
      return .done
    | none => return .unknown
  | .remakeText t name length => withText t fun h => do
    forget t
    match TextHandle.ofAddress? (some h.address) (length.getD h.length) with
    | some h => do
      keep libs name (.text h)
      return .done
    | none => return .unknown
  | .nullHandles =>
    return .areNull (PatternHandle.ofAddress? none).isNone (TextHandle.ofAddress? none 0).isNone
  | .describe i => withEngine i fun e => return .text e.describe
  | .regex i name pattern => withEngine i fun e => do
    keepMade libs (← ScopedRegex.make libs e pattern) name .regex fun _ => .done
  | .adopt i p name => withEngine i fun e => withPattern p fun h => do
    forget p
    keep libs name (.regex (.ofHandle e h))
    return .done
  | .giveUp r name => withRegex r fun x => do
    forget r
    let h ← ask (x.giveUp libs)
    keep libs name (.pattern h)
    return .done
  | .interned i name text => withEngine i fun e => do
    keepMade libs (← ScopedText.make libs e text) name .interned fun t => .interned t.text
  | .find r text offset options => withRegex r fun x => do
    return ofSearch (← ask (x.search libs text offset options))
  | .findBytes r text offset options => withRegex r fun x => do
    return ofSearch (← ask (x.searchBytes libs text offset options))
  | .findInterned r t offset options => withRegex r fun x => withInterned t fun u => do
    return ofSearch (← ask (x.searchInterned libs u offset options))
  | .findAll r text options => withRegex r fun x => do
    match ← ask (x.findAll libs text options (text.length + extra + 2)) with
    | some (.ok ms) => return .allFound ms
    | some (.error e) => return .error e
    | none => return .unknown
  | .drop name => do
    match ← item? name with
    | some item => do
      forget name
      dropItem libs item
      return .done
    | none => return .unknown

def dropAll : List (String × Item) → Host σ Unit
  | [] => pure ()
  | (_, item) :: rest => do
    dropItem libs item
    dropAll rest

/-- All steps, and then the drop of all that is kept. -/
def run (extra : Nat) (engines : List Engine) (steps : List Step) :
    Host σ (Option (List Answer)) := do
  let (answers, s) ← (steps.mapM (step libs extra)).run.run ⟨engines, []⟩
  dropAll libs s.items
  return answers

end

/-- A session of linked and scripted engines: its answers and the calls it made. -/
def play (kinds : List Kind) (script : Scripted.Script) (steps : List Step) :
    List Answer × List (EngineId × Call) :=
  let kind (e : EngineId) : Kind := kinds.getD e .linked
  let engines := (List.range kinds.length).map fun i => ⟨i, kind i = .scripted⟩
  let (answers, s) :=
    (run (libraries kind) script.searches.length engines steps).run ⟨⟨.empty, script⟩, []⟩
  (answers.getD [], s.calls)

end RegexHost.Session

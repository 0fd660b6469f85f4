import RegexHost.Bundle.Embedded
import RegexHost.Load.Extraction
import RegexHost.Load.Gate

/-! Loaders that share one gate: the first to load an engine loads it for all. -/
namespace RegexHost.Load

open Files

structure LibraryLoader where
  config : Config
  bundle : Bundle

inductive Request
  | packaged
  | explicit (path : String)
  | linked
  /-- The path that is configured, or else the package. -/
  | configured
  deriving DecidableEq, Repr

namespace LibraryLoader

/-- A loader of what this program was built with. -/
def ofConfig (config : Config) : LibraryLoader :=
  ⟨config, .embedded⟩

variable (s : Surroundings) (refusals : Refusals) (l : LibraryLoader)

def openFor : Request → Loading Opened
  | .packaged => openPackaged s refusals l.config l.bundle
  | .explicit path => openLibrary s path
  | .linked => openLinked
  | .configured =>
    match l.config.libraryPath with
    | some path => openLibrary s path
    | none => openPackaged s refusals l.config l.bundle

/-- What the gate runs for a request. -/
def load (r : Request) : Loader World Error Opened := fun _ => do
  match ← (l.openFor s refusals r).run with
  | .ok opened => return .value opened
  | .error e => return .failed e

end LibraryLoader

structure Running where
  gate : Gate Opened
  world : World

namespace Running

def start (files : FileSystem) : Running :=
  ⟨.empty, ⟨files, [], [], 0, 0⟩⟩

def ensureLoaded (s : Surroundings) (l : LibraryLoader) (r : Request)
    (refusals : Refusals := .none) : StateM Running (Outcome Error Opened) := do
  let p ← get
  let ((outcome, gate), world) := (p.gate.getOrLoad (l.load s refusals r)).run p.world
  set (Running.mk gate world)
  return outcome

def exit (p : Running) : World :=
  p.world.cleanUp

end RegexHost.Load.Running

import RegexHost.Bundle.Source
import RegexHost.Config
import RegexHost.Load.Linker
import RegexHost.Text.Quoted

/-! Opening libraries, and extracting packaged ones into directories of their own. -/
namespace RegexHost.Load

open Files

/-- What a process finds and does not change. -/
structure Surroundings where
  host : Except Error Platform
  tempDir : String
  suffix : Nat → String
  linker : Linker

/-- What the system refuses to a load, by its path: to make the directories above, the temporary one
or the file, or to take all of the content, and how much it has taken by then. -/
structure Refusals where
  parents : String → Option Fault
  directory : String → Option Fault
  file : String → Option Fault
  content : String → Option (Nat × Fault)

def Refusals.none : Refusals :=
  ⟨fun _ => .none, fun _ => .none, fun _ => .none, fun _ => .none⟩

structure World where
  files : FileSystem
  /-- The temporary directories made and not removed. -/
  live : List Location
  /-- Those to be removed when the process ends. -/
  pending : List Location
  drawn : Nat
  engines : Nat
  deriving Repr

namespace World

def removeDirectory (w : World) (l : Location) : World :=
  { w with files := w.files.removeTree l, live := w.live.erase l }

def cleanUp (w : World) : World :=
  { w.pending.foldl removeDirectory w with pending := [] }

end World

/-- What was done stays done when a later part fails. -/
abbrev Loading := ExceptT Error (StateM World)

namespace Loading

def onFiles (action : FileSystem → Except Fault Unit × FileSystem) : Loading Unit := do
  let w ← get
  let (result, files) := action w.files
  set { w with files }
  match result with
  | .ok () => return
  | .error f => throw (.io f)

def newEngine (isDynamic : Bool) (kind : Session.Kind) : Loading Opened := do
  let w ← get
  set { w with engines := w.engines + 1 }
  return ⟨⟨w.engines, isDynamic⟩, kind⟩

end Loading

variable (s : Surroundings)

def Surroundings.link (fs : FileSystem) (path : String) : Except LinkFault LibraryFile :=
  match s.linker.resolve fs path with
  | none => .error (.reported "cannot open shared object file")
  | some found =>
    match fs.read found with
    | .error f => .error (.reported f.message)
    | .ok content =>
      match s.linker.library? content with
      | none => .error .notLibrary
      | some file => file.check.map fun _ => file

def openLibrary (path : String) : Loading Opened := do
  match s.link (← get).files path with
  | .ok file => Loading.newEngine true file.kind
  | .error reason => throw (.loadFailure path reason)

variable (refusals : Refusals)

def tempPrefix : String := "onig-bridge"

def tempTries : Nat := 65536

def faultAt (f : Fault) (path : String) : Fault :=
  ⟨f.kind, some (f.message ++ " at path " ++ quoted path)⟩

/-- A directory with a new name: its path and its place. As the package `tempfile` documents it, a
name is the prefix and some random letters, another is drawn while the last one is taken, and a
fault tells the path. -/
def makeTempDir (base : String) : Nat → Loading (String × Location)
  | 0 => throw (.io (faultAt ⟨.alreadyExists, some "too many temporary files exist"⟩ base))
  | tries + 1 => do
    let w ← get
    let path := Path.join base (tempPrefix ++ s.suffix w.drawn)
    set { w with drawn := w.drawn + 1 }
    match (refusals.directory path).elim (w.files.directoryToMake path) .error with
    | .ok l => do
      modify fun w => { w with files := w.files.put l .directory, live := w.live ++ [l] }
      return (path, l)
    | .error f =>
      if f.kind = .alreadyExists then makeTempDir base tries else throw (.io (faultAt f path))

structure Extracted where
  directory : Location
  library : String
  deriving DecidableEq, Repr

def tempParent (config : Config) : Loading String := do
  let parent := config.tempDir.getD s.tempDir
  if config.tempDir.isSome then
    Loading.onFiles fun fs => (refusals.parents parent).elim (fs.makeDirectories parent) fun f =>
      (.error f, fs)
  return Path.join (← get).files.home.path parent

/-- Makes the file, and then writes to it as much as is taken. -/
def store (path : String) (content : Bytes) : Loading Unit :=
  Loading.onFiles fun fs =>
    match (refusals.file path).elim (fs.fileToWrite path) .error with
    | .error f => (.error f, fs)
    | .ok l =>
      match refusals.content path with
      | none => (.ok (), fs.put l (.file content))
      | some (taken, f) => (.error f, fs.put l (.file (content.take taken)))

/-- Writes the packaged library into a directory of its own, which goes again when that fails. -/
def extract (config : Config) (bundle : Bundle) : Loading Extracted := do
  let platform ← config.resolvePlatform s.host
  let resource := platform.resource config.libraryName
  match bundle.read (← get).files resource with
  | .error f => throw (.io f)
  | .ok none => throw (.libraryNotFound resource)
  | .ok (some content) => do
    let (path, directory) ← makeTempDir s refusals (← tempParent s refusals config) tempTries
    let library := Path.join path (platform.libraryFile config.libraryName)
    try store refusals library content
    catch e =>
      modify fun w => w.removeDirectory directory
      throw e
    return ⟨directory, library⟩

/-- Opens the packaged library. Its directory stays until the process ends, or goes at once when the
library does not open. -/
def openPackaged (config : Config) (bundle : Bundle) : Loading Opened := do
  let extracted ← extract s refusals config bundle
  let opened ←
    try openLibrary s extracted.library
    catch e =>
      modify fun w => w.removeDirectory extracted.directory
      throw e
  modify fun w => { w with pending := w.pending ++ [extracted.directory] }
  return opened

def openLinked : Loading Opened :=
  Loading.newEngine false .linked

end RegexHost.Load

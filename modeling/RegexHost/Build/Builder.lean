import RegexHost.Build.Profile
import RegexHost.Build.Tool
import RegexHost.Native.Abi

/-! Builds the library for each platform and stages it for embedding. -/
namespace RegexHost.Build

open Files

/-- Stages a platform's library as `outDir/platform/file`. -/
structure Builder where
  workspace : String
  targetDir : String
  outDir : String
  profile : String
  packageName : String
  libraryName : String
  /-- The cargo to use. Without one it is searched for. -/
  cargo : Option String
  deriving DecidableEq, Repr

namespace Builder

def targetDirVariable : String := "CARGO_TARGET_DIR"
def cargoVariable : String := "CARGO"

def ofWorkspace (env : Environment) (workspace : String) : Builder where
  workspace
  targetDir := (env.path? targetDirVariable).getD (Path.join workspace "target")
  outDir := Path.join (Path.join (Path.join workspace "crates") "onig-bridge") "native"
  profile := "release"
  packageName := Build.packageName
  libraryName := Native.libraryName
  cargo := none

variable (b : Builder)

def built (p : Platform) : String :=
  Path.join (Path.join (Path.join b.targetDir p.triple) (profileDir b.profile))
    (p.libraryFile b.libraryName)

def staged (p : Platform) : String :=
  Path.join (Path.join b.outDir p.name) (p.libraryFile b.libraryName)

def command (cargo : String) (p : Platform) : Invocation where
  program := cargo
  directory := b.workspace
  settings := [(targetDirVariable, b.targetDir)]
  arguments := ["build", "--package=" ++ b.packageName, "--profile=" ++ b.profile,
    "--target=" ++ p.triple, "--color=always"]

/-- The cargo given, the one in the variable, or what the package `which` documents to find: the
first file of this name on the search path that can be run. -/
def findCargo (env : Environment) : Building String := do
  match b.cargo.or (env.path? cargoVariable) with
  | some cargo => return cargo
  | none => do
    let w ← get
    let paths := (searchPath env).map fun d => Path.join d "cargo"
    match paths.find? fun p => (w.programAt w.files.home p).toOption.isSome with
    | some cargo => return cargo
    | none => throw .cargoNotFound

def stage (p : Platform) : Building String := do
  if !(← get).files.isFile (b.built p) then throw (.missingArtifact (b.built p))
  match Path.parent? (b.staged p) with
  | some above => onFiles fun fs => fs.makeDirectories above
  | none => pure ()
  onFiles fun fs => fs.copy (b.built p) (b.staged p)
  return b.staged p
where
  onFiles (action : FileSystem → Except Fault Unit × FileSystem) : Building Unit := do
    let w ← get
    let (result, files) := action w.files
    set { w with files }
    match result with
    | .ok () => return
    | .error f => throw (.io f)

def build (env : Environment) (p : Platform) : Building String := do
  let cargo ← b.findCargo env
  match ← (b.command cargo p).run env with
  | .error f => throw (.spawn p.triple f)
  | .ok status =>
    if status.isSuccess then b.stage p else throw (.cargoFailed p.triple status)

/-- Builds in order and stops at the first failure. -/
def buildAll (env : Environment) (ps : List Platform) : Building (List String) :=
  ps.mapM (b.build env)

end RegexHost.Build.Builder

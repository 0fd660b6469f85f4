import RegexHost.Build.Error
import RegexHost.Environment
import RegexHost.Files.FileSystem

/-! Programs that a build runs, and the record of their runs. -/
namespace RegexHost.Build

open Files

structure Invocation where
  program : String
  directory : String
  settings : List (String × String)
  arguments : List String
  deriving DecidableEq, Repr

/-- What a program does, once it has entered its directory. -/
abbrev Program := Location → Invocation → FileSystem → ExitStatus × FileSystem

/-- The files, the programs that some of them are, and the runs so far, the first one first. -/
structure Workshop where
  files : FileSystem
  programs : List (Location × Program)
  runs : List (Location × Invocation)

/-- What was done stays done when a later part fails. -/
abbrev Building := ExceptT Error (StateM Workshop)

def searchPathVariable : String := "PATH"

def searchPath (env : Environment) : List String :=
  match env.path? searchPathVariable with
  | some p => (pieces ':' p.toList).map .ofList
  | none => []

namespace Workshop

variable (w : Workshop)

def programAt (home : Location) (path : String) : Except Fault Program := do
  match ← { w.files with home }.locate true path with
  | .vacant .. => throw (.ofKind .notFound)
  | .found l _ =>
    match w.programs.lookup l with
    | some program => return program
    | none => throw (.ofKind .permissionDenied)

/-- The first of the paths that is a program. One that may not be run is told only if there is no
other. -/
def firstProgram (home : Location) : Fault → List String → Except Fault Program
  | f, [] => .error f
  | f, path :: rest =>
    match w.programAt home path with
    | .ok program => .ok program
    | .error g => firstProgram home (if g.kind = .permissionDenied then g else f) rest

/-- A name without a slash is looked for in the directories of the search path. -/
def findProgram (env : Environment) (home : Location) (program : String) : Except Fault Program :=
  if program = "" then .error (.ofKind .notFound)
  else if program.toList.contains '/' then w.programAt home program
  else w.firstProgram home (.ofKind .notFound) ((searchPath env).map fun d => Path.join d program)

def enter (directory : String) : Except Fault Location := do
  match ← w.files.locate true directory with
  | .found l .directory => return l
  | .found .. => throw (.ofKind .notADirectory)
  | .vacant .. => throw (.ofKind .notFound)

end Workshop

namespace Invocation

def nulInArgument : Fault :=
  ⟨.invalidInput, some "nul byte found in provided data"⟩

/-- No program can be handed such a word. -/
def wordHasNul (word : String) : Bool :=
  word.toList.contains '\x00'

def hasNul (i : Invocation) : Bool :=
  (i.program :: i.directory :: i.arguments ++ i.settings.flatMap fun v => [v.1, v.2]).any wordHasNul

/-- The invocation as it is shown. Words that no program can be handed are not told, settings
are. -/
def shown (i : Invocation) : Invocation :=
  let word (w : String) := if wordHasNul w then "<string-with-nul>" else w
  { i with
    program := word i.program
    directory := word i.directory
    arguments := i.arguments.map word }

/-- Runs the program: it enters its directory, then is looked for. A run that does not start is not
recorded. -/
def run (env : Environment) (i : Invocation) : StateM Workshop (Except Fault ExitStatus) := do
  let w ← get
  let found : Except Fault (Location × Program) := do
    if i.hasNul then throw nulInArgument
    let here ← w.enter i.directory
    return (here, ← w.findProgram env here i.program)
  match found with
  | .error f => return .error f
  | .ok (here, program) => do
    let (status, files) := program here i w.files
    set { w with files, runs := w.runs ++ [(here, i)] }
    return .ok status

end RegexHost.Build.Invocation

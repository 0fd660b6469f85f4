import RegexHost.Build.Builder
import RegexHost.Build.Mode

/-! The command line of the build tool. -/
namespace RegexHost.Build.CommandLine

inductive Flag
  | mode | profile | workspace | out | targetDir
  deriving DecidableEq, Repr

def Flag.ofLong? : String → Option Flag
  | "mode" => some mode
  | "profile" => some profile
  | "workspace" => some workspace
  | "out" => some out
  | "target-dir" => some targetDir
  | _ => none

def Flag.ofShort? : Char → Option Flag
  | 'm' => some mode
  | 'p' => some profile
  | 'w' => some workspace
  | 'o' => some out
  | _ => none

def modeNamed? (name : String) : Option Mode :=
  [Mode.skip, .all, .host].find? fun m => m.name = name

/-- Modes go by their exact names, and no directory has an empty path. -/
def Flag.accepts : Flag → String → Bool
  | mode, v => (modeNamed? v).isSome
  | profile, _ => true
  | workspace, v | out, v | targetDir, v => v ≠ ""

inductive Stop
  | help
  | usage
  deriving DecidableEq, Repr

/-- What an argument is on its own. -/
inductive Word
  | endOfFlags
  | help
  | bare (flag : Flag)
  | attached (flag : Flag) (value : String)
  | unknown
  | value
  deriving DecidableEq, Repr

def Word.ofShort (c : Char) (rest : List Char) : Word :=
  if c = 'h' then help
  else
    match Flag.ofShort? c, rest with
    | none, _ => unknown
    | some f, [] => bare f
    | some f, '=' :: v => attached f (.ofList v)
    | some f, v => attached f (.ofList v)

def Word.ofLong (text : List Char) : Word :=
  let (name, rest) := text.span (· ≠ '=')
  match Flag.ofLong? (.ofList name), rest with
  | some f, [] => bare f
  | some f, _ :: v => attached f (.ofList v)
  | none, [] => if name = "help".toList then help else unknown
  | none, _ => unknown

/-- A lone dash is a value. -/
def Word.ofArgument (a : String) : Word :=
  match a.toList with
  | ['-', '-'] => endOfFlags
  | '-' :: '-' :: text => ofLong text
  | '-' :: c :: rest => ofShort c rest
  | _ => value

/-- Adds a flag, which may be given only once. -/
def add (given : List (Flag × String)) (f : Flag) (v : String) :
    Except Stop (List (Flag × String)) :=
  if (given.lookup f).isSome || !f.accepts v then .error .usage else .ok (given ++ [(f, v)])

/-- Reads the flags in order. There are no other arguments. -/
def flags (given : List (Flag × String)) : List String → Except Stop (List (Flag × String))
  | [] => .ok given
  | a :: rest =>
    match Word.ofArgument a, rest with
    | .attached f v, rest => do flags (← add given f v) rest
    | .bare f, v :: rest =>
      match Word.ofArgument v with
      | .value => do flags (← add given f v) rest
      | _ => .error .usage
    | .help, _ => .error .help
    | .endOfFlags, [] => .ok given
    | _, _ => .error .usage

structure Options where
  mode : Option Mode
  profile : String
  workspace : String
  out : Option String
  targetDir : Option String
  deriving DecidableEq, Repr

def parse (args : List String) : Except Stop Options := do
  let given ← flags [] args
  return {
    mode := (given.lookup .mode).bind modeNamed?
    profile := (given.lookup .profile).getD "release"
    workspace := (given.lookup .workspace).getD "."
    out := given.lookup .out
    targetDir := given.lookup .targetDir }

def Options.builder (o : Options) (env : Environment) : Builder :=
  let b := Builder.ofWorkspace env o.workspace
  { b with
    profile := o.profile
    outDir := o.out.getD b.outDir
    targetDir := o.targetDir.getD b.targetDir }

def Options.run (o : Options) (env : Environment) (host : Except RegexHost.Error Platform) :
    Building (List String) := do
  let mode := o.mode.getD (.ofEnvironment env)
  let platforms : Except Error (List Platform) := Id.run (mode.platforms (pure host))
  (o.builder env).buildAll env (← platforms)

structure Ended where
  exit : Nat
  output : String
  errors : String
  deriving DecidableEq, Repr

def usage : String :=
  lines ["Usage: onig-bridge-build [OPTIONS]", "",
    "  -m, --mode <MODE>              skip, all or host",
    "  -p, --profile <PROFILE>        Cargo profile",
    "  -w, --workspace <WORKSPACE>    Workspace root",
    "  -o, --out <OUT>                Staging directory",
    "      --target-dir <TARGET_DIR>  Cargo target directory",
    "  -h, --help                     Print help"]

def report (e : Error) : String :=
  lines (("Error: " ++ e.message) ::
    match e.cause? with
    | some cause => ["", "Caused by:", "    " ++ cause]
    | none => [])

/-- One line for each staged path; nothing of them if the build fails. -/
def run (args : List String) (env : Environment) (host : Except RegexHost.Error Platform) :
    StateM Workshop Ended := do
  match parse args with
  | .error .help => return ⟨0, usage, ""⟩
  | .error .usage => return ⟨2, "", usage⟩
  | .ok o =>
    match ← (o.run env host).run with
    | .ok staged => return ⟨0, lines staged, ""⟩
    | .error e => return ⟨1, "", report e⟩

end RegexHost.Build.CommandLine

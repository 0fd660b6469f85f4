import RegexHost.Bundle.Source
import RegexHost.Environment
import RegexHost.Text.Quoted

/-! Finds the libraries to embed in a directory, and writes the table that embeds them. -/
namespace RegexHost.Bundle

open Files

def nativeDirVariable : String := "ONIG_BRIDGE_NATIVE_DIR"
def manifestDirVariable : String := "CARGO_MANIFEST_DIR"

abbrev Artifact := String × Location

/-- A platform's directory and its files may be links. -/
def filesOf (fs : FileSystem) (directory platform : String) : List Artifact :=
  match fs.directory? (Path.join directory platform) with
  | none => []
  | some sub =>
    (fs.children sub).filterMap fun name =>
      (fs.file? (Path.join (Path.join directory platform) name)).map fun l =>
        ("native/" ++ platform ++ "/" ++ name, l)

/-- By resource; a resource that stands there twice, by its file. -/
def precedes (a b : Artifact) : Bool :=
  a.1 < b.1 || (a.1 = b.1 && !(b.2 < a.2))

/-- The files directly in a subdirectory, in the order of their resources. A directory that cannot
be listed counts as empty. -/
def collect (fs : FileSystem) (directory : String) : List Artifact :=
  match fs.directory? directory with
  | none => []
  | some native => ((fs.children native).flatMap (filesOf fs directory)).mergeSort precedes

/-- What a run of the embedding script leaves: how it ended, what it said, and the table it
wrote. -/
structure Generated where
  exit : Nat
  output : String
  table : Option String
  deriving DecidableEq, Repr

def nativeDirectory? (env : Environment) : Option String :=
  (env.path? nativeDirVariable).or
    ((env.text? manifestDirVariable).map fun d => Path.join d "native")

def tableText (directory : String) (artifacts : List Artifact) : String :=
  lines (["// Generated at build time from " ++ directory,
    "static EMBEDDED: &[(&str, &[u8])] = &["] ++
    artifacts.map (fun a => "    (" ++ quoted a.1 ++ ", include_bytes!(" ++
      quoted a.2.path ++ ")),") ++ ["];"])

/-- What a program that is built with the table has embedded: the content of each file. -/
def embeddedFrom (fs : FileSystem) (artifacts : List Artifact) : Bundle :=
  .ofTable (artifacts.filterMap fun a =>
    match fs.node? a.2 with
    | some (.file content) => some (a.1, content)
    | _ => none)

def notices (directory : String) (artifacts : List Artifact) : List String :=
  ["cargo:rerun-if-changed=" ++ directory] ++
    (if artifacts.isEmpty then []
      else [s!"cargo:warning=Embedding {artifacts.length} native artifact(s) from " ++
        directory]) ++
    artifacts.map fun a => "cargo:rerun-if-changed=" ++ a.2.path

/-- Without a directory to embed the script crashes after its first line. -/
def generate (fs : FileSystem) (env : Environment) : Generated :=
  let start := "cargo:rerun-if-env-changed=" ++ nativeDirVariable
  match nativeDirectory? env with
  | none => ⟨101, lines [start], none⟩
  | some directory =>
    let artifacts := collect fs directory
    ⟨0, lines (start :: notices directory artifacts), some (tableText directory artifacts)⟩

end RegexHost.Bundle

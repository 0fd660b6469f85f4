import RegexHost.Files.Fault
import RegexHost.Files.Path
import RegexHost.Text.Utf8

/-! A file system: what stands at each place, and how paths lead there. -/
namespace RegexHost.Files

/-- The names from the root on. -/
abbrev Location := List String

inductive Node
  | file (content : Bytes)
  | directory
  | link (target : String)
  deriving DecidableEq, Repr

structure FileSystem where
  nodes : List (Location × Node)
  home : Location
  deriving Repr

/-- Where a path leads: to a node, or to a name that its directory does not have. -/
inductive Place
  | found (location : Location) (node : Node)
  | vacant (directory : Location) (name : String)
  deriving DecidableEq, Repr

def Location.path (l : Location) : String :=
  "/" ++ "/".intercalate l

namespace FileSystem

variable (fs : FileSystem)

def node? (l : Location) : Option Node :=
  if l = [] then some .directory else fs.nodes.lookup l

def put (l : Location) (node : Node) : FileSystem :=
  { fs with nodes := (l, node) :: fs.nodes.filter (·.1 ≠ l) }

def removeTree (l : Location) : FileSystem :=
  { fs with nodes := fs.nodes.filter fun n => !l.isPrefixOf n.1 }

/-- The names in a directory, in no particular order. -/
def children (l : Location) : List String :=
  fs.nodes.filterMap fun n => if n.1.dropLast = l then n.1.getLast? else none

/-- The longest name, in bytes. -/
def nameLimit : Nat := 255

/-- Paths have fewer bytes than this. -/
def pathLimit : Nat := 4096

def linkLimit : Nat := 40

def byteLength (s : String) : Nat :=
  (Utf8.encode s.toList).length

/-- Goes from a directory along the steps of a path, and along links by `jump`. Only a directory
leads further, so a slash at the end rules out a file. -/
def walkBy (jump : Location → List String → Except FaultKind Place) (follow : Bool) :
    Location → List String → Except FaultKind Place
  | here, [] => .ok (.found here .directory)
  | here, name :: rest =>
    if name = "" ∨ name = "." then walkBy jump follow here rest
    else if name = ".." then walkBy jump follow here.dropLast rest
    else if nameLimit < byteLength name then .error .invalidFilename
    else
      match fs.node? (here ++ [name]) with
      | none => if rest.all (· = "") then .ok (.vacant here name) else .error .notFound
      | some .directory => walkBy jump follow (here ++ [name]) rest
      | some (.file content) =>
        if rest = [] then .ok (.found (here ++ [name]) (.file content)) else .error .notADirectory
      | some (.link target) =>
        if rest = [] ∧ !follow then .ok (.found (here ++ [name]) (.link target))
        else jump (if Path.isAbsolute target then [] else here) (Path.steps target ++ rest)

/-- Goes along at most `links` links, those at the end only if asked to. -/
def walk (follow : Bool) : Nat → Location → List String → Except FaultKind Place
  | 0 => fs.walkBy (fun _ _ => .error .tooManyLinks) follow
  | links + 1 => fs.walkBy (walk follow links) follow

def unexpectedNul : Fault :=
  ⟨.invalidInput, some "file name contained an unexpected NUL byte"⟩

def locate (follow : Bool) (p : String) : Except Fault Place :=
  if p.toList.contains '\x00' then .error unexpectedNul
  else if p = "" then .error (.ofKind .notFound)
  else if pathLimit ≤ byteLength p then .error (.ofKind .invalidFilename)
  else (fs.walk follow linkLimit (if Path.isAbsolute p then [] else fs.home)
    (Path.steps p)).mapError .ofKind

def directory? (p : String) : Option Location :=
  match fs.locate true p with
  | .ok (.found l .directory) => some l
  | _ => none

def isDirectory (p : String) : Bool :=
  (fs.directory? p).isSome

def file? (p : String) : Option Location :=
  match fs.locate true p with
  | .ok (.found l (.file _)) => some l
  | _ => none

def isFile (p : String) : Bool :=
  (fs.file? p).isSome

def read (p : String) : Except Fault Bytes := do
  match ← fs.locate true p with
  | .found _ (.file content) => return content
  | .found _ .directory => throw (.ofKind .isADirectory)
  | .found _ (.link _) | .vacant .. => throw (.ofKind .notFound)

def directoryToMake (p : String) : Except Fault Location := do
  match ← fs.locate false p with
  | .found .. => throw (.ofKind .alreadyExists)
  | .vacant d name => return d ++ [name]

def makeDirectory (p : String) : Except Fault FileSystem := do
  return fs.put (← fs.directoryToMake p) .directory

/-- A path that would not lead to the file, since a slash follows its name, asks for a directory. -/
def fileToWrite (p : String) : Except Fault Location := do
  match ← fs.locate true p with
  | .found l (.file _) => return l
  | .found .. => throw (.ofKind .isADirectory)
  | .vacant d name =>
    let l := d ++ [name]
    if (fs.put l (.file [])).file? p = some l then return l else throw (.ofKind .isADirectory)

def write (p : String) (content : Bytes) : Except Fault FileSystem := do
  return fs.put (← fs.fileToWrite p) (.file content)

/-- Makes a directory after those above it that are missing. What was made stays when a later one
fails. -/
def makeWithParents : Nat → FileSystem → String → Except Fault Unit × FileSystem
  | 0, fs, _ => (.error (.ofKind .notFound), fs)
  | depth + 1, fs, p =>
    if p = "" then (.ok (), fs)
    else
      match fs.makeDirectory p with
      | .ok fs => (.ok (), fs)
      | .error f =>
        if f.kind = .notFound then
          match Path.parent? p with
          | none => (.error f, fs)
          | some above =>
            match makeWithParents depth fs above with
            | (.error f, fs) => (.error f, fs)
            | (.ok (), fs) => settle fs (fs.makeDirectory p) p
        else settle fs (.error f) p
where
  /-- A directory that is there already is as good as one just made. -/
  settle (fs : FileSystem) (made : Except Fault FileSystem) (p : String) :
    Except Fault Unit × FileSystem :=
    match made with
    | .ok fs => (.ok (), fs)
    | .error f => if fs.isDirectory p then (.ok (), fs) else (.error f, fs)

def makeDirectories (p : String) : Except Fault Unit × FileSystem :=
  makeWithParents ((Path.names p).length + 2) fs p

def notRegular : Fault :=
  ⟨.invalidInput, some "the source path is neither a regular file nor a symlink to a regular file"⟩

/-- Empties the target before the source is read. -/
def copy (source target : String) : Except Fault Unit × FileSystem :=
  match fs.locate true source with
  | .error f => (.error f, fs)
  | .ok (.vacant ..) => (.error (.ofKind .notFound), fs)
  | .ok (.found l (.file _)) =>
    match fs.fileToWrite target with
    | .error f => (.error f, fs)
    | .ok t =>
      let emptied := fs.put t (.file [])
      match emptied.node? l with
      | some node => (.ok (), emptied.put t node)
      | none => (.ok (), emptied)
  | .ok (.found ..) => (.error notRegular, fs)

/-- The files below a place, each directory in the order of its names. -/
def filesBelow (l : Location) : List (Location × Bytes) :=
  (fs.nodes.filterMap fun n =>
    match n.2 with
    | .file content => if l.isPrefixOf n.1 then some (n.1.drop l.length, content) else none
    | _ => none).mergeSort fun a b => ¬ b.1 < a.1

end RegexHost.Files.FileSystem

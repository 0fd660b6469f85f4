import RegexHost.Error
import RegexHost.Text.Blank
import RegexHost.Text.LowerCase

/-! Operating systems and architectures: how they are recognised and what is named after them. -/
namespace RegexHost

inductive Os
  | linux | macOs | windows
  deriving DecidableEq, Repr, Inhabited

inductive Arch
  | x86_64 | aarch64
  deriving DecidableEq, Repr, Inhabited

structure Platform where
  os : Os
  arch : Arch
  deriving DecidableEq, Repr, Inhabited

def holdsWord (word : List Char) : List Char → Bool
  | [] => word.isEmpty
  | c :: cs => word.isPrefixOf (c :: cs) || holdsWord word cs

namespace Os

def name : Os → String
  | linux => "linux"
  | macOs => "macos"
  | windows => "windows"

/-- The words that tell a system, in the order in which they are looked for: "darwin" holds
"win". -/
def words : List (Os × List String) :=
  [(macOs, ["mac", "darwin"]), (windows, ["win"]), (linux, ["linux", "nux", "nix", "aix"])]

def classify (text : String) : Option Os :=
  let cs := lower text.toList
  (words.find? fun w => w.2.any fun word => holdsWord word.toList cs).map (·.1)

def ofName? : String → Option Os
  | "linux" => some linux
  | "macos" => some macOs
  | "windows" => some windows
  | _ => none

end Os

namespace Arch

def name : Arch → String
  | x86_64 => "x86_64"
  | aarch64 => "aarch64"

def words : List (String × Arch) :=
  [("x86_64", x86_64), ("amd64", x86_64), ("x64", x86_64), ("x86-64", x86_64),
   ("aarch64", aarch64), ("arm64", aarch64)]

def classify (text : String) : Option Arch :=
  words.lookup (.ofList (lower text.toList))

end Arch

namespace Platform

def all : List Platform :=
  [⟨.macOs, .aarch64⟩, ⟨.macOs, .x86_64⟩, ⟨.windows, .aarch64⟩, ⟨.windows, .x86_64⟩,
   ⟨.linux, .aarch64⟩, ⟨.linux, .x86_64⟩]

def resolve (os arch : String) : Except Error Platform :=
  match Os.classify os, Arch.classify arch with
  | some o, some a => .ok ⟨o, a⟩
  | _, _ => .error (.unsupportedPlatform os arch)

def name (p : Platform) : String :=
  p.os.name ++ "-" ++ p.arch.name

/-- Reads a name. The system is taken literally; for the architecture any word does. -/
def parse? (text : List Char) : Option Platform :=
  match text.span (· ≠ '-') with
  | (os, '-' :: arch) => do
    let o ← Os.ofName? (.ofList os)
    let a ← Arch.classify (.ofList arch)
    return ⟨o, a⟩
  | _ => none

def parse (text : String) : Except Error Platform :=
  match parse? (trim text).toList with
  | some p => .ok p
  | none => .error (.unsupportedPlatform text "")

def libraryFile (p : Platform) (library : String) : String :=
  match p.os with
  | .linux => "lib" ++ library ++ ".so"
  | .macOs => "lib" ++ library ++ ".dylib"
  | .windows => library ++ ".dll"

def resource (p : Platform) (library : String) : String :=
  "native/" ++ p.name ++ "/" ++ p.libraryFile library

def triple (p : Platform) : String :=
  p.arch.name ++ "-" ++
    match p.os with
    | .windows => "pc-windows-msvc"
    | .macOs => "apple-darwin"
    | .linux => "unknown-linux-gnu"

end RegexHost.Platform

import RegexHost.Files.FileSystem
import RegexHost.Session

/-! Library files as a linker sees them. -/
namespace RegexHost.Load

/-- The exports of a library, the version that it tells, and what its exports do. -/
structure LibraryFile where
  exports : List Native.Export
  version : Nat
  kind : Session.Kind
  deriving DecidableEq, Repr

/-- The version is asked for first. Only then are the other exports looked up. -/
def LibraryFile.check (f : LibraryFile) : Except LinkFault Unit :=
  if !f.exports.contains .abiVersion then .error (.missingExport Native.Export.abiVersion.name)
  else if f.version ≠ Native.abiVersion then .error (.wrongVersion f.version Native.abiVersion)
  else
    match Native.Export.all.find? fun e => !f.exports.contains e with
    | some e => .error (.missingExport e.name)
    | none => .ok ()

/-- The library that content is, if it is one, and where the system's search ends for a name without
a slash. -/
structure Linker where
  library? : Bytes → Option LibraryFile
  search : Files.FileSystem → String → Option String

namespace Linker

/-- A system that has nowhere to search. -/
instance : Coe (Bytes → Option LibraryFile) Linker :=
  ⟨fun library? => ⟨library?, fun _ _ => none⟩⟩

/-- The path to open. One with a slash is never searched for. -/
def resolve (linker : Linker) (fs : Files.FileSystem) (path : String) : Option String :=
  if path.toList.contains '/' then some path else linker.search fs path

end Linker

structure Opened where
  engine : Engine
  kind : Session.Kind
  deriving DecidableEq, Repr

end RegexHost.Load

import RegexHost.Files.Fault

/-! What can go wrong between a caller and an engine. -/
namespace RegexHost

inductive LinkFault
  | notLibrary
  | missingExport (name : String)
  | wrongVersion (found expected : Nat)
  | reported (text : String)
  deriving DecidableEq, Repr

def LinkFault.message : LinkFault → String
  | notLibrary => "invalid ELF header"
  | missingExport name => s!"undefined symbol: {name}"
  | wrongVersion found expected => s!"ABI version {found}, expected {expected}"
  | reported text => text

inductive Error
  | compile (text : String)
  | unsupportedPlatform (os arch : String)
  | libraryNotFound (resource : String)
  | loadFailure (path : String) (reason : LinkFault)
  | offsetOutOfBounds (offset length : Nat)
  | engineMismatch
  | native (text : String)
  | io (fault : Files.Fault)
  deriving DecidableEq, Repr

namespace Error

def message : Error → String
  | compile text => s!"Failed to compile pattern: {text}"
  | unsupportedPlatform os arch => s!"Unsupported platform: os={os}, arch={arch}"
  | libraryNotFound resource => s!"Native library not found in resources: {resource}"
  | loadFailure path reason =>
    "Failed to load native library " ++ path ++ ": " ++ reason.message
  | offsetOutOfBounds offset length =>
    s!"Offset {offset} is out of bounds for text of length {length}"
  | engineMismatch => "Interned text was created by a different engine than the pattern"
  | native text => s!"Native engine error: {text}"
  | io fault => "I/O error: " ++ fault.message

/-- The packaged library is missing rather than broken, so another source may be tried. -/
def allowsFallback : Error → Bool
  | unsupportedPlatform .. | libraryNotFound .. => true
  | _ => false

end RegexHost.Error

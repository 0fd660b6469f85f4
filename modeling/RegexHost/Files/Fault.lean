/-! Failures of the file system. -/
namespace RegexHost.Files

inductive FaultKind
  | notFound | permissionDenied | alreadyExists | notADirectory | isADirectory
  | invalidInput | invalidFilename | tooManyLinks | noExecFormat | other
  deriving DecidableEq, Repr, Inhabited

/-- A failure of the system, or one with a text of its own. -/
structure Fault where
  kind : FaultKind
  text? : Option String
  deriving DecidableEq, Repr, Inhabited

def FaultKind.name : FaultKind → String
  | notFound => "NotFound"
  | permissionDenied => "PermissionDenied"
  | alreadyExists => "AlreadyExists"
  | notADirectory => "NotADirectory"
  | isADirectory => "IsADirectory"
  | invalidInput => "InvalidInput"
  | invalidFilename => "InvalidFilename"
  | tooManyLinks => "FilesystemLoop"
  | noExecFormat => "Uncategorized"
  | other => "Other"

def FaultKind.systemText : FaultKind → String
  | notFound => "No such file or directory (os error 2)"
  | permissionDenied => "Permission denied (os error 13)"
  | alreadyExists => "File exists (os error 17)"
  | notADirectory => "Not a directory (os error 20)"
  | isADirectory => "Is a directory (os error 21)"
  | invalidInput => "Invalid argument (os error 22)"
  | invalidFilename => "File name too long (os error 36)"
  | tooManyLinks => "Too many levels of symbolic links (os error 40)"
  | noExecFormat => "Exec format error (os error 8)"
  | other => "other error"

namespace Fault

def ofKind (k : FaultKind) : Fault :=
  ⟨k, none⟩

def message (f : Fault) : String :=
  f.text?.getD f.kind.systemText

end RegexHost.Files.Fault

import RegexHost.Files.FileSystem

/-! Where packaged libraries come from. -/
namespace RegexHost

/-- To have no such resource is not a failure to read it. -/
structure Bundle where
  read : Files.FileSystem → String → Except Files.Fault (Option Bytes)

namespace Bundle

def ofTable (table : List (String × Bytes)) : Bundle where
  read _ resource := .ok (table.lookup resource)

/-- The file of a resource: each part of its name below the one before. -/
def filePath (root resource : String) : String :=
  ((Path.steps resource).filter (· ≠ "")).foldl Path.join root

def ofDirectory (root : String) : Bundle where
  read fs resource :=
    match fs.read (filePath root resource) with
    | .ok content => .ok (some content)
    | .error f => if f.kind = .notFound then .ok none else .error f

end RegexHost.Bundle

import RegexHost.Text.Pieces

/-! Paths as text: names with slashes between them. -/
namespace RegexHost.Path

def isAbsolute (p : String) : Bool :=
  p.toList.head? = some '/'

def endsInSlash (p : String) : Bool :=
  p.toList.getLast? = some '/'

/-- An absolute part replaces what precedes it. No slash is doubled, and an empty part adds one at
the end. -/
def join (base part : String) : String :=
  if isAbsolute part then part
  else if base = "" || endsInSlash base then base ++ part
  else base ++ "/" ++ part

/-- What stands between the slashes, empty parts included. -/
def steps (p : String) : List String :=
  (pieces '/' p.toList).map .ofList

/-- Whether a step leads nowhere else. -/
def isBlank (step : String) : Bool :=
  step = "" || step = "."

/-- The steps that lead somewhere else. -/
def names (p : String) : List String :=
  (steps p).filter fun s => s ≠ "" ∧ s ≠ "."

/-- The path before its last name. The root has none, nor has the empty path. -/
def parent? (p : String) : Option String :=
  match (steps p).reverse.dropWhile isBlank with
  | [] => none
  | _ :: above =>
    let kept := (above.dropWhile isBlank).reverse
    some (if kept = [] ∧ isAbsolute p then "/" else "/".intercalate kept)

end RegexHost.Path

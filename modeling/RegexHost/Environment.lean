import RegexHost.Text.Blank
import RegexHost.Text.Utf8

/-! Environment variables, whose values are bytes. -/
namespace RegexHost

abbrev Environment := List (String × Bytes)

namespace Environment

def text? (env : Environment) (name : String) : Option String :=
  (env.lookup name).bind fun bytes => (Utf8.decode? bytes).toOption.map .ofList

/-- The value of a variable as a path. Whatever is no text in it is replaced. -/
def path? (env : Environment) (name : String) : Option String :=
  (env.lookup name).map fun bytes => .ofList (Utf8.decode bytes)

/-- A value that is blank counts as none. -/
def nonBlank? (env : Environment) (name : String) : Option String :=
  (env.text? name).filter fun s => trim s ≠ ""

end RegexHost.Environment

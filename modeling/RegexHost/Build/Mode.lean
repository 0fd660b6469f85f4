import RegexHost.Build.Error
import RegexHost.Environment

/-! Which platforms a build covers. -/
namespace RegexHost.Build

inductive Mode
  | skip | all | host
  deriving DecidableEq, Repr

namespace Mode

instance : Inhabited Mode := ⟨host⟩

def modeVariable : String := "NATIVE_BUILD_MODE"

def name : Mode → String
  | skip => "skip"
  | all => "all"
  | host => "host"

/-- Blanks around the name and ASCII case do not count. Any other text is the default. -/
def parse (text : String) : Mode :=
  match (trim text).map Char.toLower with
  | "skip" => skip
  | "all" => all
  | _ => default

def ofEnvironment (env : Environment) : Mode :=
  ((env.text? modeVariable).map parse).getD default

/-- The host is asked for its platform only when that is what is built. -/
def platforms {m : Type → Type} [Monad m] (mode : Mode)
    (askHost : m (Except RegexHost.Error Platform)) : m (Except Error (List Platform)) :=
  match mode with
  | skip => pure (.ok [])
  | all => pure (.ok Platform.all)
  | host => do
    match ← askHost with
    | .ok p => return .ok [p]
    | .error e => return .error (.platform e)

end RegexHost.Build.Mode

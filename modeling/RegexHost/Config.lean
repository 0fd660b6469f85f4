import RegexHost.Environment
import RegexHost.Native.Abi
import RegexHost.Platform

/-! Where an engine library is looked for. -/
namespace RegexHost

structure Config where
  platform : Option Platform
  libraryPath : Option String
  tempDir : Option String
  libraryName : String
  deriving DecidableEq, Repr

namespace Config

def platformVariable : String := "ONIG_BRIDGE_PLATFORM"
def libraryPathVariable : String := "ONIG_BRIDGE_LIBRARY_PATH"
def tempDirVariable : String := "ONIG_BRIDGE_TEMP_DIR"

def standard : Config :=
  ⟨none, none, none, Native.libraryName⟩

/-- A platform that cannot be read is passed over. -/
def ofEnvironment (env : Environment) : Config where
  platform := (env.nonBlank? platformVariable).bind fun s => (Platform.parse s).toOption
  libraryPath := env.nonBlank? libraryPathVariable
  tempDir := env.nonBlank? tempDirVariable
  libraryName := Native.libraryName

/-- The platform chosen, else the host's. -/
def resolvePlatform (config : Config) (host : Except Error Platform) : Except Error Platform :=
  match config.platform with
  | some p => .ok p
  | none => host

end RegexHost.Config

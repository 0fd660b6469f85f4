/-! Build profiles. -/
namespace RegexHost.Build

def profileDir : String → String
  | "dev" | "test" => "debug"
  | "bench" => "release"
  | other => other

def packageName : String := "onig-bridge-native"

end RegexHost.Build

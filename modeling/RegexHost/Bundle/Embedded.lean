import RegexHost.Bundle.Source

/-! The resources that are part of the program. -/
namespace RegexHost.Bundle

/-- The table that the build has generated for the program that is run here, from the files then
staged under `native`: no library for Linux on ARM and an empty one for Windows. Another build has a
table of its own, made by `embeddedFrom`. -/
def embeddedTable : List (String × Bytes) :=
  [("native/linux-aarch64/libonig_bridge_native.so", Utf8.encode "not a library".toList),
   ("native/linux-aarch64/notes.txt", Utf8.encode "notes\n".toList),
   ("native/windows-x86_64/onig_bridge_native.dll", [])]

def embedded : Bundle :=
  ofTable embeddedTable

end RegexHost.Bundle

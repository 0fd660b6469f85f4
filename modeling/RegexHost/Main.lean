import RegexHost.Build.CommandLine

/-! The build tool as a program. It starts no programs of its own here, so a cargo is never found to
run. -/
open RegexHost

def variablesRead : List String :=
  [Build.Mode.modeVariable, Build.Builder.targetDirVariable, Build.Builder.cargoVariable,
   Build.searchPathVariable]

def main (args : List String) : IO UInt32 := do
  let env ← variablesRead.filterMapM fun name => do
    return (← IO.getEnv name).map fun v => (name, Utf8.encode v.toList)
  let home := Path.names (← IO.currentDir).toString
  let above := (List.range home.length).map fun n => (home.take (n + 1), Files.Node.directory)
  let files : Files.FileSystem := ⟨above, home⟩
  let (ended, _) := (Build.CommandLine.run args env (.ok ⟨.linux, .x86_64⟩)).run ⟨files, [], []⟩
  (← IO.getStdout).putStr ended.output
  (← IO.getStderr).putStr ended.errors
  return ended.exit.toUInt32

import RegexHost.Platform

/-! What can go wrong while libraries are built and staged. -/
namespace RegexHost.Build

inductive ExitStatus
  | code (n : Nat)
  | signal (n : Nat)
  deriving DecidableEq, Repr

namespace ExitStatus

def isSuccess (s : ExitStatus) : Bool :=
  s = code 0

def signalName : Nat → String
  | 1 => " (SIGHUP)" | 2 => " (SIGINT)" | 3 => " (SIGQUIT)" | 4 => " (SIGILL)" | 5 => " (SIGTRAP)"
  | 6 => " (SIGABRT)" | 7 => " (SIGBUS)" | 8 => " (SIGFPE)" | 9 => " (SIGKILL)" | 10 => " (SIGUSR1)"
  | 11 => " (SIGSEGV)" | 12 => " (SIGUSR2)" | 13 => " (SIGPIPE)" | 14 => " (SIGALRM)"
  | 15 => " (SIGTERM)" | 16 => " (SIGSTKFLT)" | 17 => " (SIGCHLD)" | 18 => " (SIGCONT)"
  | 19 => " (SIGSTOP)" | 20 => " (SIGTSTP)" | 21 => " (SIGTTIN)" | 22 => " (SIGTTOU)"
  | 23 => " (SIGURG)" | 24 => " (SIGXCPU)" | 25 => " (SIGXFSZ)" | 26 => " (SIGVTALRM)"
  | 27 => " (SIGPROF)" | 28 => " (SIGWINCH)" | 29 => " (SIGIO)" | 30 => " (SIGPWR)"
  | 31 => " (SIGSYS)" | _ => ""

def message : ExitStatus → String
  | code n => s!"exit status: {n}"
  | signal n => s!"signal: {n}" ++ signalName n

end ExitStatus

inductive Error
  | cargoNotFound
  | spawn (target : String) (fault : Files.Fault)
  | cargoFailed (target : String) (status : ExitStatus)
  | missingArtifact (path : String)
  | platform (cause : RegexHost.Error)
  | io (fault : Files.Fault)
  deriving DecidableEq, Repr

namespace Error

def notFoundText : String := "cannot find binary path"

def message : Error → String
  | cargoNotFound => "cargo executable not found: " ++ notFoundText
  | spawn target fault => s!"Failed to spawn cargo for {target}: " ++ fault.message
  | cargoFailed target status => s!"cargo build for {target} failed with " ++ status.message
  | missingArtifact path => s!"Built artifact not found at {path}"
  | platform cause => "Host platform cannot be built: " ++ cause.message
  | io fault => "I/O error: " ++ fault.message

def cause? : Error → Option String
  | cargoNotFound => some notFoundText
  | spawn _ fault => some fault.message
  | platform cause => some cause.message
  | io fault => some fault.message
  | cargoFailed .. | missingArtifact .. => none

end RegexHost.Build.Error

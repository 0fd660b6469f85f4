/-! The interface between an engine library and its host: version, exports and search outcomes. -/
namespace RegexHost.Native

def abiVersion : Nat := 1

def libraryName : String := "onig_bridge_native"

def matched : Int32 := 1
def noMatch : Int32 := 0
def searchError : Int32 := -1

def unmatchedEnd : Int32 := -1

inductive Export
  | abiVersion | compile | freeRegex | createString | freeString | search | searchString
  | freeCaptures | freeError
  deriving DecidableEq, Repr, Inhabited

namespace Export

def all : List Export :=
  [abiVersion, compile, freeRegex, createString, freeString, search, searchString, freeCaptures,
   freeError]

def shortName : Export → String
  | abiVersion => "abi_version"
  | compile => "compile"
  | freeRegex => "free_regex"
  | createString => "create_string"
  | freeString => "free_string"
  | search => "search"
  | searchString => "search_string"
  | freeCaptures => "free_captures"
  | freeError => "free_error"

def name (e : Export) : String :=
  "onig_bridge_" ++ e.shortName

/-- The name as a linker looks it up, with the NUL that ends it. -/
def symbol (e : Export) : String :=
  e.name ++ "\x00"

end RegexHost.Native.Export

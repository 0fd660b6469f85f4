import RegexHost.Text.Utf8

/-! Failures inside an engine library. -/
namespace RegexHost.Native

inductive Fault
  /-- The engine's own words. -/
  | engine (text : String)
  | notUtf8 (fault : Utf8.Fault)
  | nullPointer (argument : String)
  | offsetOutOfBounds (offset length : Nat)
  | textTooLarge (length : Nat)
  | crashed (text : String)
  deriving DecidableEq, Repr

inductive Payload
  | text (s : String)
  | other
  deriving DecidableEq, Repr

namespace Fault

def ofPayload : Payload → Fault
  | .text s => crashed s
  | .other => crashed "Unknown"

def message : Fault → String
  | engine text => text
  | notUtf8 fault => "Unable to read UTF-8 input: " ++ fault.message
  | nullPointer argument => s!"Null pointer passed for {argument}"
  | offsetOutOfBounds offset length =>
    s!"Byte offset {offset} is out of bounds for text of {length} bytes"
  | textTooLarge length => s!"Text of {length} bytes exceeds the supported size"
  | crashed text => s!"Panic happened: {text}"

end RegexHost.Native.Fault

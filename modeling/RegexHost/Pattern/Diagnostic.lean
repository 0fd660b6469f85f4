import RegexHost.Text.Utf8

/-! Why a pattern is rejected. -/
namespace RegexHost.Pattern

inductive Diagnostic
  | unmatchedOpen
  | unmatchedClose
  | endInGroup
  | undefinedGroupOption
  | endInClass
  | emptyClass
  | emptyRange
  | valueAtEndOfRange
  | unmatchedRange
  | invalidPosixBracket
  | endAtEscape
  | repeatNothing
  | repeatInvalid
  | repeatTooBig
  | emptyName
  | invalidName (name : List Char)
  | invalidNameChar (name : List Char)
  | undefinedName (name : List Char)
  | invalidProperty (name : List Char)
  | invalidBackref
  | tooBigNumber
  | tooLongCode
  | tooBigCode
  | invalidCode
  | invalidWideChar
  | tooShortMultibyte
  | invalidLookBehind
  /-- A look-behind whose parts can all be left out. -/
  | undefined
  deriving DecidableEq, Repr

namespace Diagnostic

def nameLimit : Nat := 27

/-- A name as it is shown. A long one is cut, which may leave half a character behind. -/
def shownName (name : List Char) : Bytes :=
  let bytes := Utf8.encode name
  if bytes.length ≤ nameLimit then bytes else bytes.take nameLimit ++ Utf8.encode "...".toList

def around (before : String) (name : List Char) (after : String) : String :=
  match Utf8.decode? (shownName name) with
  | .ok cs => before ++ .ofList cs ++ after
  | .error _ => "Onig error string was invalid UTF-8"

def text : Diagnostic → String
  | unmatchedOpen => "end pattern with unmatched parenthesis"
  | unmatchedClose => "unmatched close parenthesis"
  | endInGroup => "end pattern in group"
  | undefinedGroupOption => "undefined group option"
  | endInClass => "premature end of char-class"
  | emptyClass => "empty char-class"
  | emptyRange => "empty range in char class"
  | valueAtEndOfRange => "char-class value at end of range"
  | unmatchedRange => "unmatched range specifier in char-class"
  | invalidPosixBracket => "invalid POSIX bracket type"
  | endAtEscape => "end pattern at escape"
  | repeatNothing => "target of repeat operator is not specified"
  | repeatInvalid => "target of repeat operator is invalid"
  | repeatTooBig => "too big number for repeat range"
  | emptyName => "group name is empty"
  | invalidName name => around "invalid group name <" name ">"
  | invalidNameChar name => around "invalid char in group name <" name ">"
  | undefinedName name => around "undefined name <" name "> reference"
  | invalidProperty name => around "invalid character property name \x7b" name "\x7d"
  | invalidBackref => "invalid backref number/name"
  | tooBigNumber => "too big number"
  | tooLongCode => "too long wide-char value"
  | tooBigCode => "too big wide-char value"
  | invalidCode => "invalid code point value"
  | invalidWideChar => "invalid wide-char value"
  | tooShortMultibyte => "too short multibyte string"
  | invalidLookBehind => "invalid pattern in look-behind"
  | undefined => "undefined error code"

def message (d : Diagnostic) : String :=
  "Oniguruma error: " ++ d.text

end RegexHost.Pattern.Diagnostic

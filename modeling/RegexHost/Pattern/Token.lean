import RegexHost.Pattern.CharKind
import RegexHost.Pattern.Diagnostic
import RegexHost.Pattern.Syntax

/-! The tokens of a pattern outside brackets. -/
namespace RegexHost.Pattern

structure Options where
  ignoreCase : Bool
  extended : Bool
  dotAll : Bool
  deriving DecidableEq, Repr, Inhabited

/-- The groups met so far: how many, their names, and the ones not closed yet. -/
structure Groups where
  count : Nat
  names : List (List Char × Nat)
  unclosed : List Nat
  deriving Repr, Inhabited

inductive Token
  | endOfPattern
  | char (c : Char)
  /-- Characters given by their codes. -/
  | codes (ns : List Nat)
  /-- A byte given by its value, in octal or in hexadecimal digits. -/
  | byte (value : Nat) (base : Nat)
  | any
  | anchor (a : Anchor)
  | keep
  | word (negated : Bool)
  | kind (codes : CodeSet) (negated : Bool)
  | property (negated : Bool)
  /-- A reference to groups. One that asks for another level of calls finds nothing. -/
  | backref (groups : List Nat) (found : Bool)
  | repetition (b : Bounds) (possessive : Bool)
  | openGroup
  | closeGroup
  | alternative
  | openClass
  deriving Repr, Inhabited

abbrev Reading (α : Type) := Except Diagnostic (α × List Char)

namespace Token

def digitValue? (base : Nat) (c : Char) : Option Nat :=
  let v :=
    if c.isDigit then c.toNat - '0'.toNat
    else if 'a' ≤ c ∧ c ≤ 'f' then c.toNat - 'a'.toNat + 10
    else if 'A' ≤ c ∧ c ≤ 'F' then c.toNat - 'A'.toNat + 10
    else base
  if v < base then some v else none

/-- Up to `most` digits: how many, their value, and the text after them. -/
def digits (base : Nat) : Nat → List Char → Nat × Nat × List Char
  | most + 1, c :: cs =>
    match digitValue? base c with
    | some v =>
      let (n, rest) := go v 1 most cs
      (n.1, n.2, rest)
    | none => (0, 0, c :: cs)
  | _, cs => (0, 0, cs)
where
  go (value count : Nat) : Nat → List Char → (Nat × Nat) × List Char
    | most + 1, c :: cs =>
      match digitValue? base c with
      | some v => go (value * base + v) (count + 1) most cs
      | none => ((count, value), c :: cs)
    | _, cs => ((count, value), cs)

/-- A decimal number, if there is one, or that it is too large. -/
def number (cs : List Char) : Option (Option Nat) × List Char :=
  let (count, value, rest) := digits 10 cs.length cs
  (if count = 0 then none else some (if value ≤ 2147483647 then some value else none), rest)

/-- What an escaped letter stands for when it has no other meaning. -/
def controlCode (c : Char) : Nat :=
  match c with
  | 'n' => 0x0A
  | 't' => 0x09
  | 'r' => 0x0D
  | 'f' => 0x0C
  | 'a' => 0x07
  | 'b' => 0x08
  | 'e' => 0x1B
  | 'v' => 0x0B
  | _ => c.toNat

/-- Further codes, each after blanks, up to a closing brace. -/
def moreCodes : Nat → List Char → Reading (List Nat)
  | 0, _ => .error .invalidCode
  | fuel + 1, cs =>
    let blank (c : Char) : Bool := c = ' ' || c = '\n'
    match cs.dropWhile blank with
    | '}' :: after => .ok ([], after)
    | later =>
      let (count, value, rest) := digits 16 8 later
      if count = 0 || later = cs then .error .invalidCode
      else (moreCodes fuel rest).map fun r => (value :: r.1, r.2)

/-- After `\x`: codes in braces, or up to two digits for a byte. -/
def hexEscape : List Char → Reading Token
  | [] => .ok (char 'x', [])
  | '{' :: cs =>
    let (count, value, rest) := digits 16 8 cs
    match rest with
    | d :: _ =>
      if (digitValue? 16 d).isSome then .error .tooLongCode
      else if count = 0 then .ok (char 'x', '{' :: cs)
      else (moreCodes (rest.length + 1) rest).map fun r => (codes (value :: r.1), r.2)
    | [] => if count = 0 then .ok (char 'x', '{' :: cs) else .error .invalidCode
  | cs =>
    let (_, value, rest) := digits 16 2 cs
    .ok (byte value 16, rest)

/-- After `\u`: four digits. -/
def wideEscape : List Char → Reading Token
  | [] => .ok (char 'u', [])
  | cs =>
    let (count, value, rest) := digits 16 4 cs
    if count = 4 then .ok (codes [value], rest) else .error .invalidCode

def octalEscape (most : Nat) (cs : List Char) : Reading Token :=
  let (_, value, rest) := digits 8 most cs
  if value ≤ CharSet.lastByte then .ok (byte value 8, rest) else .error .tooBigNumber

/-- After `\p` or `\P`: the token before the name, when a brace follows. -/
def propertyEscape (c : Char) : List Char → Token × List Char
  | '{' :: '^' :: cs => (property (c = 'p'), cs)
  | '{' :: cs => (property (c = 'P'), cs)
  | cs => (char c, cs)

/-- The kinds that a letter stands for, in brackets and outside. -/
def kind? : Char → Option Token
  | 'd' => some (kind CharKind.digit false)
  | 'D' => some (kind CharKind.digit true)
  | 's' => some (kind CharKind.space false)
  | 'S' => some (kind CharKind.space true)
  | 'h' => some (kind CharKind.hexDigit false)
  | 'H' => some (kind CharKind.hexDigit true)
  | _ => none

def isWordChar (c : Char) : Bool :=
  CharKind.word.contains c.toNat

inductive Name
  | absolute (n : Nat)
  | before (n : Nat)
  | after (n : Nat)
  | text (cs : List Char)

/-- The name of a new group. Only its first character is looked at. A name that is not closed is
shown without its last character if the pattern ends in it. -/
def definedName (stop : Char) : List Char → Reading (List Char)
  | [] => .error .emptyName
  | c :: cs =>
    if c = stop then .error .emptyName
    else
      let (more, rest) := cs.span fun d => d ≠ stop && d ≠ ')'
      let shown := match rest with
        | [] | [_] => c :: cs
        | _ => c :: more
      if c.isDigit || c = '-' || c = '+' then .error (.invalidName shown)
      else if !isWordChar c then .error (.invalidNameChar shown)
      else match rest with
        | s :: after =>
          if s = stop then .ok (c :: more, after) else .error (.invalidName (c :: more))
        | [] => .error (.invalidName (c :: more.dropLast))

def isSigned (c : Char) : Bool :=
  c = '-' || c = '+'

/-- What is wrong with the characters of a reference, as far as they go. A number may be signed;
once it holds something other than a digit it is read on as a name. -/
def referenceFault (c : Char) (more shown : List Char) : Option Diagnostic :=
  if c.isDigit || isSigned c then
    match more.dropWhile Char.isDigit with
    | [] => none
    | _ :: later =>
      some (if later.all isWordChar then .invalidName shown else .invalidNameChar shown)
  else if (c :: more).all isWordChar then none
  else some (.invalidNameChar shown)

/-- A name, or a number if it begins like one. -/
def nameOf (c : Char) (more : List Char) : Except Diagnostic Name :=
  if c.isDigit || isSigned c then
    match (number (if c.isDigit then c :: more else more)).1 with
    | none => .ok (.text (c :: more))
    | some none => .error .tooBigNumber
    | some (some n) =>
      if c.isDigit then .ok (.absolute n)
      else if n = 0 then .error (.invalidName (c :: more))
      else .ok (if c = '-' then .before n else .after n)
  else .ok (.text (c :: more))

/-- The level of calls after a sign: whether it is the one that holds, and the text after the
name. -/
def level (stop : Char) (all shown : List Char) : List Char → Except Diagnostic (Bool × List Char)
  | [] => .error (.invalidNameChar shown)
  | cs =>
    match number cs with
    | (some none, _) => .error .tooBigNumber
    | (some (some n), s :: after) =>
      if s = stop then .ok (n = 0, after) else .error (.invalidName all)
    | _ => .error (.invalidName all)

/-- The name or number of a reference, and whether it is to the level of calls that holds. -/
def referredName (stop : Char) : List Char → Except Diagnostic ((Name × Bool) × List Char)
  | [] => .error .emptyName
  | c :: cs =>
    if c = stop then .error .emptyName
    else
      let (more, rest) := cs.span fun d => d ≠ stop && d ≠ ')' && !isSigned d
      let shown := if rest = [] then c :: more.dropLast else c :: more
      match referenceFault c more shown, rest with
      | some d, _ => .error d
      | none, [] =>
        .error (if isSigned c && cs = [] then .invalidNameChar [c] else .invalidName (c :: cs))
      | none, s :: after =>
        if isSigned c && more = [] then .error (.invalidName (c :: more))
        else if s = stop then (nameOf c more).map fun name => ((name, true), after)
        else if isSigned s then do
          let (found, after) ← level stop (c :: cs) (c :: more) after
          return ((← nameOf c more, found), after)
        else .error (.invalidName (c :: cs))

def resolve (groups : Groups) : Name → Except Diagnostic (List Nat)
  | .absolute 0 => .error .invalidBackref
  | .absolute n => .ok [n]
  | .before n => if n ≤ groups.count then .ok [groups.count + 1 - n] else .error .invalidBackref
  | .after n => .ok [groups.count + n]
  | .text name =>
    match (groups.names.filter (·.1 = name)).map (·.2) with
    | [] => .error (.undefinedName name)
    | ns => .ok ns.reverse

def escaped (groups : Groups) : List Char → Reading Token
  | [] => .error .endAtEscape
  | c :: cs =>
    match kind? c with
    | some t => .ok (t, cs)
    | none =>
      match c with
      | 'w' => .ok (word false, cs)
      | 'W' => .ok (word true, cs)
      | 'b' => .ok (anchor .wordEdge, cs)
      | 'B' => .ok (anchor .noWordEdge, cs)
      | 'A' => .ok (anchor .textStart, cs)
      | 'Z' => .ok (anchor .lastLineEnd, cs)
      | 'z' => .ok (anchor .textEnd, cs)
      | 'G' => .ok (anchor .searchStart, cs)
      | 'K' => .ok (keep, cs)
      | 'x' => hexEscape cs
      | 'u' => wideEscape cs
      | 'p' | 'P' => .ok (propertyEscape c cs)
      | 'k' =>
        match cs with
        | '<' :: rest => reference '>' rest
        | '\'' :: rest => reference '\'' rest
        | _ => .ok (char 'k', cs)
      | '0' => octalEscape 2 cs
      | _ =>
        if c.isDigit then
          match number (c :: cs) with
          | (some (some n), rest) =>
            if n ≤ 9 || n ≤ groups.count then .ok (backref [n] true, rest) else notBackref c cs
          | _ => notBackref c cs
        else if controlCode c ≠ c.toNat then .ok (codes [controlCode c], cs)
        else .ok (char c, cs)
where
  reference (stop : Char) (cs : List Char) : Except Diagnostic (Token × List Char) := do
    let ((name, found), rest) ← referredName stop cs
    return (backref (← resolve groups name) found, rest)
  notBackref (c : Char) (cs : List Char) : Reading Token :=
    if c = '8' || c = '9' then .ok (char c, cs) else octalEscape 3 (c :: cs)

/-- A repetition in braces after the opening one. Anything else is plain text. -/
def interval (cs : List Char) : Except Diagnostic (Option (Token × List Char)) := do
  let (low, rest) := number cs
  match low with
  | some none => throw .repeatTooBig
  | some (some n) => if repeatLimit < n then throw .repeatTooBig else fromLow (some n) rest
  | none => fromLow none rest
where
  repeatLimit : Nat := 100000
  fromLow (low : Option Nat) : List Char → Except Diagnostic (Option (Token × List Char))
    | ',' :: rest => do
      let (high, rest) := number rest
      match high with
      | some none => throw .repeatTooBig
      | some (some n) =>
        if repeatLimit < n then throw .repeatTooBig else closed (low.getD 0) (some n) rest
      | none => match low with
        | some n => closed n none rest
        | none => return none
    | '}' :: rest =>
      match low with
      | some n => return some (repetition ⟨n, some n, true⟩ false, rest)
      | none => return none
    | _ => return none
  closed (low : Nat) (high : Option Nat) : List Char →
    Except Diagnostic (Option (Token × List Char))
    | '}' :: rest =>
      match high with
      | some n =>
        if n < low then return some (repetition ⟨n, some low, true⟩ true, rest)
        else return some (lazy low high rest)
      | none => return some (lazy low high rest)
    | _ => return none
  lazy (low : Nat) (high : Option Nat) : List Char → Token × List Char
    | '?' :: rest => (repetition ⟨low, high, false⟩ false, rest)
    | rest => (repetition ⟨low, high, true⟩ false, rest)

/-- A repetition sign and what may follow it. -/
def sign (low : Nat) (high : Option Nat) : List Char → Token × List Char
  | '?' :: rest => (repetition ⟨low, high, false⟩ false, rest)
  | '+' :: rest => (repetition ⟨low, high, true⟩ true, rest)
  | rest => (repetition ⟨low, high, true⟩ false, rest)

/-- The text after a comment group's closing parenthesis. -/
def afterComment : List Char → Except Diagnostic (List Char)
  | [] => .error .endInGroup
  | '\\' :: _ :: rest => afterComment rest
  | ')' :: rest => .ok rest
  | _ :: rest => afterComment rest

def isExtendedBlank (c : Char) : Bool :=
  c = ' ' || c = '\t' || c = '\n' || c = '\r' || c = '\x0c'

/-- The token at the start of a text that neither a comment nor a skipped blank begins. -/
def plain (groups : Groups) : List Char → Except Diagnostic (Token × List Char)
  | [] => .ok (endOfPattern, [])
  | '\\' :: cs => escaped groups cs
  | '.' :: cs => .ok (any, cs)
  | '*' :: cs => .ok (sign 0 none cs)
  | '+' :: cs => .ok (sign 1 none cs)
  | '?' :: cs => .ok (sign 0 (some 1) cs)
  | '{' :: cs => do
    match ← interval cs with
    | some r => return r
    | none => return (char '{', cs)
  | '|' :: cs => .ok (alternative, cs)
  | '(' :: cs => .ok (openGroup, cs)
  | ')' :: cs => .ok (closeGroup, cs)
  | '^' :: cs => .ok (anchor .lineStart, cs)
  | '$' :: cs => .ok (anchor .lineEnd, cs)
  | '[' :: cs => .ok (openClass, cs)
  | c :: cs => .ok (char c, cs)

/-- The next token. Comment groups are skipped, and in extended mode blanks and line comments; each
takes a character off the text, whose length is therefore fuel enough. -/
def next (options : Options) (groups : Groups) (cs : List Char) : Reading Token :=
  go cs.length cs
where
  go : Nat → List Char → Except Diagnostic (Token × List Char)
    | fuel + 1, '(' :: '?' :: '#' :: cs => do go fuel (← afterComment cs)
    | fuel + 1, c :: cs =>
      if options.extended && isExtendedBlank c then go fuel cs
      else if options.extended && c = '#' then go fuel ((cs.dropWhile (· ≠ '\n')).drop 1)
      else plain groups (c :: cs)
    | _, cs => plain groups cs

end RegexHost.Pattern.Token

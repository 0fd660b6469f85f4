import RegexHost.Pattern.Token

/-! Character classes in brackets: ranges, kinds, nested classes and intersections. -/
namespace RegexHost.Pattern.Bracket

inductive Token
  | endOfPattern
  | codes (ns : List Nat)
  | byte (value base : Nat)
  | dash
  | close
  | openClass
  | openPosix
  | and
  | kind (s : CharSet)
  | property (negated : Bool)

/-- Whether ":]" comes before any closing bracket. Escaped characters are passed over. -/
def posixEnds : List Char → Bool
  | ':' :: ']' :: _ => true
  | ']' :: _ => false
  | '\\' :: _ :: rest => posixEnds rest
  | _ :: rest => posixEnds rest
  | [] => false

def kindSet (codes : CodeSet) (negated : Bool) : CharSet :=
  .ofCodes (if negated then codes.compl else codes)

def escaped : List Char → Reading Token
  | [] => .error .endAtEscape
  | c :: cs =>
    match c with
    | 'w' => .ok (.kind (kindSet CharKind.word false), cs)
    | 'W' => .ok (.kind (kindSet CharKind.word true), cs)
    | 'x' => (Token.hexEscape cs).map fun r => (ofToken r.1, r.2)
    | 'u' => (Token.wideEscape cs).map fun r => (ofToken r.1, r.2)
    | 'p' | 'P' => let r := Token.propertyEscape c cs; .ok (ofToken r.1, r.2)
    | _ =>
      match Token.kind? c with
      | some t => .ok (ofToken t, cs)
      | none =>
        if '0' ≤ c ∧ c ≤ '7' then (Token.octalEscape 3 (c :: cs)).map fun r => (ofToken r.1, r.2)
        else .ok (.codes [Token.controlCode c], cs)
where
  ofToken : Pattern.Token → Token
    | .char c => .codes [c.toNat]
    | .codes ns => .codes ns
    | .byte v b => .byte v b
    | .kind codes negated => .kind (kindSet codes negated)
    | .property negated => .property negated
    | _ => .endOfPattern

def next : List Char → Reading Token
  | [] => .ok (.endOfPattern, [])
  | ']' :: cs => .ok (.close, cs)
  | '-' :: cs => .ok (.dash, cs)
  | '\\' :: cs => escaped cs
  | '[' :: ':' :: cs => if posixEnds cs then .ok (.openPosix, cs) else .ok (.openClass, ':' :: cs)
  | '[' :: cs => .ok (.openClass, cs)
  | '&' :: '&' :: cs => .ok (.and, cs)
  | c :: cs => .ok (.codes [c.toNat], cs)

/-- The value read last, which stands for a byte or for a longer character. A kind of characters can
begin no range. -/
inductive Item
  | byte (n : Nat)
  | wide (n : Nat)
  | kind

inductive Pending
  | start
  | value (v : Item)
  | range (first : Nat) (wide : Bool)
  | complete

/-- A class being read: what `&&` has set aside, what has been read since, and what waits. -/
structure Draft where
  before : Option CharSet
  set : CharSet
  pending : Pending

namespace Draft

def begin : Draft :=
  ⟨none, .empty, .start⟩

def flush (d : Draft) : Draft :=
  match d.pending with
  | .value (.byte n) => { d with set := d.set.insertByte n }
  | .value (.wide n) => { d with set := d.set.insertWide n }
  | _ => d

/-- A range from a byte to a longer character holds bytes up to the last one and the codes
between. -/
def addRange (first last : Nat) (fromWide toWide : Bool) (s : CharSet) : CharSet :=
  let bytes := if fromWide && toWide then s.bytes
    else s.bytes.insert first (min last CharSet.lastByte)
  let wide := if fromWide || toWide then s.wide.insert first last else s.wide
  { s with bytes, wide }

def addValue (n : Nat) (wide : Bool) (d : Draft) : Except Diagnostic Draft :=
  let value := Pending.value (if wide then .wide n else .byte n)
  match d.pending with
  | .value _ => .ok { d.flush with pending := value }
  | .range first fromWide =>
    if n < first then .error .emptyRange
    else .ok { d with set := addRange first n fromWide wide d.set, pending := .complete }
  | .start | .complete => .ok { d with pending := value }

def addCode (n : Nat) (d : Draft) : Except Diagnostic Draft :=
  d.addValue n (CharSet.firstWide ≤ n)

def addKind (s : CharSet) (d : Draft) : Except Diagnostic Draft :=
  match d.pending with
  | .range .. => .error .valueAtEndOfRange
  | _ => .ok { d.flush with set := d.flush.set.union s, pending := .value .kind }

def addNested (s : CharSet) (d : Draft) : Draft :=
  { d.flush with set := d.flush.set.union s, pending := .complete }

def joined (d : Draft) : CharSet :=
  match d.before with
  | some s => s.inter d.flush.set
  | none => d.flush.set

def addAnd (d : Draft) : Draft :=
  ⟨some d.joined, .empty, .start⟩

/-- A dash makes a range of a single value, unless the class or its part ends there. -/
def addDash (follower : Token) (d : Draft) : Except Diagnostic Draft :=
  let plain := d.addCode '-'.toNat
  match d.pending, follower with
  | .value _, .close | .value _, .and => plain
  | .value (.byte n), _ => .ok { d with pending := .range n false }
  | .value (.wide n), _ => .ok { d with pending := .range n true }
  | .value .kind, _ => .error .unmatchedRange
  | _, _ => plain

end Draft

/-- Whether a character can be given by these bytes, as far as it shows. -/
def checkBytes (bytes : Bytes) : Except Diagnostic Unit :=
  if Utf8.fits bytes then .ok () else .error .invalidWideChar

/-- The bytes that follow a given one up to the length of its character. -/
def moreBytes (base : Nat) : Nat → List Char → Except Diagnostic (Bytes × List Char)
  | 0, cs => .ok ([], cs)
  | n + 1, cs => do
    match ← next cs with
    | (.byte v b, rest) =>
      if b = base then do
        let (more, rest) ← moreBytes base n rest
        return (.ofNat v :: more, rest)
      else throw .tooShortMultibyte
    | _ => throw .tooShortMultibyte

def propertyName (cs : List Char) : Except Diagnostic (CodeSet × List Char) :=
  let (name, rest) := cs.span fun c => c ≠ '}' && c ≠ '(' && c ≠ ')' && c ≠ '{' && c ≠ '|'
  match rest with
  | '}' :: after =>
    match CharKind.ofName? name with
    | some s => .ok (s, after)
    | none => .error (.invalidProperty name)
  | _ => .error .unmatchedOpen

/-- A kind in a bracket such as `[:alpha:]`, from its name on, or nothing if it is no such
bracket. -/
def posixKind (cs : List Char) : Except Diagnostic (Option (CharSet × List Char)) :=
  let (negated, cs) := match cs with
    | '^' :: rest => (true, rest)
    | rest => (false, rest)
  let entry := if cs.length < 7 then none else
    CharKind.posix.find? fun e => e.1.toList.isPrefixOf cs
  match entry with
  | some (name, codes) =>
    match cs.drop name.length with
    | ':' :: ']' :: rest => .ok (some (kindSet codes negated, rest))
    | _ => .error .invalidPosixBracket
  | none =>
    let (word, rest) := cs.span fun c => c ≠ ':' && c ≠ ']'
    match rest with
    | ':' :: ']' :: _ => if word.length ≤ 20 then .error .invalidPosixBracket else .ok none
    | _ => .ok none

def readClass : Nat → List Char → Except Diagnostic (CharSet × List Char)
  | 0, _ => .error .endInClass
  | fuel + 1, cs => do
    let (negated, cs) := match cs with
      | '^' :: rest => (true, rest)
      | rest => (false, rest)
    let d ← match cs with
      | ']' :: rest =>
        if rest.contains ']' then pure ((← Draft.begin.addCode ']'.toNat), rest)
        else throw .emptyClass
      | _ => pure (Draft.begin, cs)
    let (set, rest) ← readItems fuel d.1 d.2
    return (set.complIf negated, rest)
where
  readItems : Nat → Draft → List Char → Except Diagnostic (CharSet × List Char)
    | 0, _, _ => .error .endInClass
    | fuel + 1, d, cs => do
      let (token, rest) ← next cs
      match token with
      | .endOfPattern => throw .endInClass
      | .close => return (d.joined, rest)
      | .codes ns =>
        let step (d : Draft) (n : Nat) : Except Diagnostic Draft :=
          if CodeSet.lastCode < n then .error .tooBigCode else d.addCode n
        readItems fuel (← ns.foldlM step d) rest
      | .byte v base =>
        let (more, rest) ← moreBytes base (Utf8.span (.ofNat v) - 1) rest
        if more = [] then readItems fuel (← d.addValue v false) rest
        else
          let bytes := UInt8.ofNat v :: more
          checkBytes bytes
          readItems fuel (← d.addValue (Utf8.value bytes) true) rest
      | .dash =>
        let (follower, _) ← next rest
        readItems fuel (← d.addDash follower) rest
      | .and => readItems fuel d.addAnd rest
      | .kind s => readItems fuel (← d.addKind s) rest
      | .property negated =>
        let (codes, rest) ← propertyName rest
        readItems fuel (← d.addKind (kindSet codes negated)) rest
      | .openPosix =>
        match ← posixKind rest with
        | some (s, rest) => readItems fuel (← d.addKind s) rest
        | none => readItems fuel (← d.addCode '['.toNat) (':' :: rest)
      | .openClass =>
        let (s, rest) ← readClass fuel rest
        readItems fuel (d.addNested s.plain) rest

/-- The class as it stands for itself or, where case does not count, with the longer texts that it
then stands for too. -/
def folded (s : CharSet) : Node :=
  let closed := s.close
  let part (c : Nat) : Node :=
    match CaseFold.variants c with
    | [_] => .ofCodes [c] false
    | vs => .set (.ofCodes (.ofRanges (vs.map fun v => (v, v))))
  let longer := if s.negated then [] else CaseFold.texts s.codes closed.codes
  Node.choice (.set closed :: longer.map fun text => Node.row (text.map part))

/-- A class after its opening bracket. One that holds a single character is that character. -/
def read (fold : Bool) (cs : List Char) : Except Diagnostic (Node × List Char) := do
  let (s, rest) ← readClass (2 * cs.length + 2) cs
  match s.single? with
  | some n => return (.ofCodes [n] fold, rest)
  | none => return (if fold then folded s else .set s, rest)

end RegexHost.Pattern.Bracket

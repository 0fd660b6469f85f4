import RegexHost.Pattern.Bracket
import RegexHost.Pattern.Quantifier

/-! Reading a pattern into its parts, one token ahead. -/
namespace RegexHost.Pattern

/-- The token ahead, the text after it, and the groups met so far. -/
structure Cursor where
  token : Token
  rest : List Char
  groups : Groups

abbrev Parser := StateT Cursor (Except Diagnostic)

namespace Parser

def peek : Parser Token := do
  return (← get).token

def advance (o : Options) : Parser Unit := do
  let s ← get
  let (token, rest) ← (Token.next o s.groups s.rest : Except Diagnostic (Token × List Char))
  set { s with token, rest }

def skipTo (rest : List Char) : Parser Unit :=
  modify fun s => { s with rest }

def openGroup (name : Option (List Char)) : Parser Nat := do
  let s ← get
  let n := s.groups.count + 1
  let names := match name with
    | some cs => s.groups.names ++ [(cs, n)]
    | none => s.groups.names
  set { s with groups := ⟨n, names, n :: s.groups.unclosed⟩ }
  return n

def closeGroup (n : Nat) : Parser Unit :=
  modify fun s =>
    { s with groups := { s.groups with unclosed := s.groups.unclosed.filter (· ≠ n) } }

def backref (o : Options) (refs : List Nat) (found : Bool) : Parser Node := do
  let unclosed := (← get).groups.unclosed
  let node := Node.backref refs o.ignoreCase (refs.any unclosed.contains)
  return if found then node else .seq node .fail

/-- The bytes of a character given by its code. The two greatest codes stand for bytes that no text
has. -/
def codeBytes (n : Nat) : Except Diagnostic Bytes :=
  if n ≤ CodeSet.lastCode then .ok (Utf8.encodeCode n)
  else if n = 0xFFFFFFFE then .ok [0xFE]
  else if n = 0xFFFFFFFF then .ok [0xFF]
  else .error .tooBigCode

/-- Plain text up to the next token of another kind. -/
def run (o : Options) : Nat → Bytes → Parser Bytes
  | 0, text => return text
  | fuel + 1, text => do
    match ← peek with
    | .char c => do
      advance o
      run o fuel (text ++ Utf8.encodeChar c)
    | .codes ns => do
      let codes ← (ns.mapM codeBytes : Except Diagnostic (List Bytes))
      advance o
      run o fuel (text ++ codes.flatten)
    | _ => return text

/-- Further bytes of a character that bytes make up. -/
def bytes (o : Options) : Nat → Parser Bytes
  | 0 => return []
  | n + 1 => do
    match ← peek with
    | .byte v _ => do
      advance o
      return .ofNat v :: (← bytes o n)
    | _ => throw .tooShortMultibyte

/-- The options after the question mark of a group: what stops them, and the options then. -/
def readOptions (o : Options) (off : Bool) :
    List Char → Except Diagnostic (Char × Options × List Char)
  | [] => .error .endInGroup
  | c :: cs =>
    match c with
    | ')' | ':' => .ok (c, o, cs)
    | '-' => readOptions o true cs
    | 'x' => readOptions { o with extended := !off } off cs
    | 'i' => readOptions { o with ignoreCase := !off } off cs
    | 'm' => readOptions { o with dotAll := !off } off cs
    | _ => .error .undefinedGroupOption

inductive Opening
  | capture (name : Option (List Char))
  | grouping
  | ahead (negated : Bool)
  | behind (negated : Bool)
  | atomic
  | options (o : Options)
  | isolated (o : Options)

def opening (o : Options) : List Char → Except Diagnostic (Opening × List Char)
  | [] => .error .unmatchedOpen
  | '?' :: cs =>
    match cs with
    | [] => .error .endInGroup
    | ':' :: cs => .ok (.grouping, cs)
    | '=' :: cs => .ok (.ahead false, cs)
    | '!' :: cs => .ok (.ahead true, cs)
    | '>' :: cs => .ok (.atomic, cs)
    | '\'' :: cs => named '\'' cs
    | '<' :: cs =>
      match cs with
      | [] => .error .unmatchedOpen
      | '=' :: cs => .ok (.behind false, cs)
      | '!' :: cs => .ok (.behind true, cs)
      | _ => named '>' cs
    | cs@(c :: _) =>
      if c = ')' then .error .undefinedGroupOption
      else do
        let (stop, o, rest) ← readOptions o false cs
        return (if stop = ')' then .isolated o else .options o, rest)
  | cs => .ok (.capture none, cs)
where
  named (stop : Char) (cs : List Char) : Except Diagnostic (Opening × List Char) := do
    let (name, rest) ← Token.definedName stop cs
    return (.capture (some name), rest)

def branchEnds (inGroup : Bool) : Token → Bool
  | .endOfPattern | .alternative => true
  | .closeGroup => inGroup
  | _ => false

/-- A text without its last character, and that character, if there is more than one. -/
def splitLast (text : Bytes) : Option (Bytes × Bytes) :=
  match (Utf8.cells text).reverse with
  | last :: rest@(_ :: _) => some (rest.reverse.flatten, last)
  | _ => none

/-- Applies the repetitions ahead. The first one takes the last character of a run of text that no
group holds together. -/
def repeats (o : Options) : Nat → Bool → Node → Parser Node
  | 0, _, node => return node
  | fuel + 1, grouped, node => do
    match ← peek with
    | .repetition b possessive =>
      unless repeatable node do throw .repeatInvalid
      advance o
      let wrap (n : Node) : Node := if possessive then .atomic n else n
      let whole : Parser Node := do
        let quantified ← (quantify b node : Except Diagnostic Node)
        repeats o fuel false (wrap quantified)
      if b.lower = 1 ∧ b.upper = some 1 then repeats o fuel false node
      else match grouped, node with
        | false, .literal text fold =>
          match splitLast text with
          | some (start, last) => do
            let last ← repeats o fuel false (wrap (.quantified b (.literal last fold)))
            return .seq (.literal start fold) last
          | none => whole
        | _, _ => whole
    | _ => return node

mutual

def alternatives : Nat → Options → Bool → Parser Node
  | 0, _, _ => throw .unmatchedOpen
  | fuel + 1, o, inGroup => do
    let found ← alternativeList fuel o inGroup
    if inGroup && (← peek) matches .endOfPattern then throw .unmatchedOpen
    return Node.choice found

def alternativeList : Nat → Options → Bool → Parser (List Node)
  | 0, _, _ => throw .unmatchedOpen
  | fuel + 1, o, inGroup => do
    let first ← branch fuel o inGroup
    match ← peek with
    | .alternative => do
      advance o
      return first :: (← alternativeList fuel o inGroup)
    | _ => return [first]

/-- A row that begins with another one keeps it apart, later ones run on. -/
def branch : Nat → Options → Bool → Parser Node
  | 0, _, _ => throw .unmatchedOpen
  | fuel + 1, o, inGroup => do
    let first ← item fuel o inGroup
    if branchEnds inGroup (← peek) then return first
    return Node.row (first :: (← laterParts fuel o inGroup))

def laterParts : Nat → Options → Bool → Parser (List Node)
  | 0, _, _ => throw .unmatchedOpen
  | fuel + 1, o, inGroup => do
    let next ← item fuel o inGroup
    if branchEnds inGroup (← peek) then return next.parts
    return next.parts ++ (← laterParts fuel o inGroup)

/-- One part of a branch with the repetitions after it. Options of their own hold up to the end of
the group, later alternatives included. -/
def item : Nat → Options → Bool → Parser Node
  | 0, _, _ => throw .unmatchedOpen
  | fuel + 1, o, inGroup => do
    let single (n : Node) : Parser Node := do
      advance o
      repeats o (fuel + 1) false n
    match ← peek with
    | .endOfPattern | .alternative => return .empty
    | .closeGroup => if inGroup then return .empty else throw .unmatchedClose
    | .char _ | .codes _ => text fuel o []
    | .byte v _ => do
      advance o
      let more ← bytes o (Utf8.span (.ofNat v) - 1)
      let text := UInt8.ofNat v :: more
      (Bracket.checkBytes text : Except Diagnostic Unit)
      repeats o (fuel + 1) false (.literal text o.ignoreCase)
    | .any => single (.any o.dotAll)
    | .anchor a => single (.anchor a)
    | .keep => single .keep
    | .word negated => single (.word negated)
    | .kind codes negated => single (.set (CharSet.complIf negated (.ofCodes codes)))
    | .property negated => do
      let (codes, rest) ←
        (Bracket.propertyName (← get).rest : Except Diagnostic (CodeSet × List Char))
      skipTo rest
      single (.set (CharSet.complIf negated (.ofCodes codes)))
    | .backref refs found => do single (← backref o refs found)
    | .repetition .. => throw .repeatNothing
    | .openClass => do
      let (node, rest) ←
        (Bracket.read o.ignoreCase (← get).rest : Except Diagnostic (Node × List Char))
      skipTo rest
      match node with
      | .literal start _ => do
        advance o
        text fuel o start
      | _ => single node
    | .openGroup => do
      let (kind, rest) ← (opening o (← get).rest : Except Diagnostic (Opening × List Char))
      skipTo rest
      match kind with
      | .isolated o' => do
        advance o'
        return .grouped (← alternatives fuel o' inGroup)
      | .grouping => do
        let body ← inside fuel o
        advance o
        repeats o (fuel + 1) true body
      | .options o' => do single (.grouped (← inside fuel o'))
      | .atomic => do single (.atomic (← inside fuel o))
      | .ahead negated => do single (.ahead negated (← inside fuel o))
      | .behind negated => do single (.behind negated (← inside fuel o))
      | .capture name => do
        let n ← openGroup name
        let body ← inside fuel o
        closeGroup n
        single (.capture n body)

def text : Nat → Options → Bytes → Parser Node
  | 0, _, _ => throw .unmatchedOpen
  | fuel + 1, o, start => do
    let text ← run o ((← get).rest.length + 1) start
    repeats o (fuel + 1) false (.literal text o.ignoreCase)

/-- The alternatives up to a closing parenthesis. -/
def inside : Nat → Options → Parser Node
  | 0, _ => throw .unmatchedOpen
  | fuel + 1, o => do
    advance o
    alternatives fuel o true

end

end Parser

def Options.standard : Options :=
  ⟨false, false, false⟩

/-- Reads a pattern: its parts and the number of its groups. A reference to a group that does not
exist shows only when all else is in order. -/
def parse (cs : List Char) : Except Diagnostic (Node × Nat) := do
  let start : Cursor := ⟨.endOfPattern, cs, ⟨0, [], []⟩⟩
  let all : Parser Node := do
    Parser.advance .standard
    Parser.alternatives (8 * cs.length + 16) .standard false
  let (node, s) ← StateT.run all start
  let node := node.joinStrings
  if node.referenced.all (· ≤ s.groups.count) then return (node, s.groups.count)
  else throw .invalidBackref

end RegexHost.Pattern

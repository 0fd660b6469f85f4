import RegexHost.Text.PropertyList
import RegexHost.Text.Script

/-! The named kinds of characters. -/
namespace RegexHost.Pattern.CharKind

def digit : CodeSet :=
  .ofCategory (· = .nd)

def hexDigit : CodeSet :=
  [(0x30, 0x39), (0x41, 0x46), (0x61, 0x66)]

def space : CodeSet :=
  Property.blank

def word : CodeSet :=
  .union Property.alphabetic (.ofCategory fun c => c.major = .mark || c = .nd || c = .pc)

/-- What counts as a word character where a text is looked at. Raised digits and fractions of Latin
1 do, though they are in no set of word characters. -/
def wordInText : CodeSet :=
  .union word [(0xB2, 0xB3), (0xB9, 0xB9), (0xBC, 0xBE)]

def alnum : CodeSet :=
  .union Property.alphabetic digit

def blankSet : CodeSet :=
  .insert 9 9 (.ofCategory (· = .zs))

def control : CodeSet :=
  .ofCategory (· = .cc)

def punctuation : CodeSet :=
  .ofCategory fun c => c.major = .punctuation

/-- What leaves a mark: no blank, no control, and assigned. -/
def graph : CodeSet :=
  .inter (.compl space) (.ofCategory fun c => c ≠ .cc && c ≠ .cn && c ≠ .cs)

def print : CodeSet :=
  .union graph (.ofCategory (· = .zs))

def ascii : CodeSet :=
  [(0, 0x7F)]

def posix : List (String × CodeSet) :=
  [("alnum", alnum), ("alpha", Property.alphabetic), ("blank", blankSet), ("cntrl", control),
   ("digit", digit), ("graph", graph), ("lower", Property.lowercase), ("print", print),
   ("punct", punctuation), ("space", space), ("upper", Property.uppercase), ("xdigit", hexDigit),
   ("ascii", ascii), ("word", word)]

def categoryNames : List (String × String × Category) :=
  [("cc", "control", .cc), ("cf", "format", .cf), ("cn", "unassigned", .cn),
   ("co", "privateuse", .co), ("cs", "surrogate", .cs), ("ll", "lowercaseletter", .ll),
   ("lm", "modifierletter", .lm), ("lo", "otherletter", .lo), ("lt", "titlecaseletter", .lt),
   ("lu", "uppercaseletter", .lu), ("mc", "spacingmark", .mc), ("me", "enclosingmark", .me),
   ("mn", "nonspacingmark", .mn), ("nd", "decimalnumber", .nd), ("nl", "letternumber", .nl),
   ("no", "othernumber", .no), ("pc", "connectorpunctuation", .pc), ("pd", "dashpunctuation", .pd),
   ("pe", "closepunctuation", .pe), ("pf", "finalpunctuation", .pf),
   ("pi", "initialpunctuation", .pi), ("po", "otherpunctuation", .po),
   ("ps", "openpunctuation", .ps), ("sc", "currencysymbol", .sc), ("sk", "modifiersymbol", .sk),
   ("sm", "mathsymbol", .sm), ("so", "othersymbol", .so), ("zl", "lineseparator", .zl),
   ("zp", "paragraphseparator", .zp), ("zs", "spaceseparator", .zs)]

def majorNames : List (String × String × Category.Major) :=
  [("c", "other", .other), ("l", "letter", .letter), ("m", "mark", .mark), ("n", "number", .number),
   ("p", "punctuation", .punctuation), ("s", "symbol", .symbol), ("z", "separator", .separator),
   ("m", "combiningmark", .mark), ("p", "punct", .punctuation)]

def cased : CodeSet :=
  .ofCategory fun c => c = .lu || c = .ll || c = .lt

def derived : List (String × String × CodeSet) :=
  [("alphabetic", "alphabetic", Property.alphabetic),
   ("lowercase", "lowercase", Property.lowercase), ("uppercase", "uppercase", Property.uppercase),
   ("wspace", "whitespace", space), ("cased", "cased", Property.cased),
   ("ci", "caseignorable", Property.caseIgnorable),
   ("grext", "graphemeextend", Property.graphemeExtend),
   ("grbase", "graphemebase", PropertyList.graphemeBase), ("ids", "idstart", PropertyList.idStart),
   ("idc", "idcontinue", PropertyList.idContinue), ("xids", "xidstart", PropertyList.stableIdStart),
   ("xidc", "xidcontinue", PropertyList.stableIdContinue), ("math", "math", PropertyList.math),
   ("newline", "newline", [(0xA, 0xA)]), ("any", "any", [(0, CodeSet.lastCode)]),
   ("assigned", "assigned", .ofCategory (· ≠ .cn)), ("lc", "casedletter", cased),
   ("zzzz", "unknown", .ofCategory fun c => c = .cn || c = .co || c = .cs)]

/-- A name without the characters that do not count, in lower case. -/
def plainName (name : List Char) : List Char :=
  (name.filter fun c => c ≠ ' ' && c ≠ '-' && c ≠ '_').map Char.toLower

def named {α : Type} (key : String) (names : List (String × String × α)) : Option α :=
  (names.find? fun n => n.1 == key || n.2.1 == key).map (·.2.2)

def ofName? (name : List Char) : Option CodeSet :=
  let key := String.ofList (plainName name)
  (named key majorNames).map (fun m => .ofCategory (·.major = m)) <|>
    (named key categoryNames).map (fun c => .ofCategory (· = c)) <|>
    posix.lookup key <|> named key derived <|>
    (named key (Script.table ++ PropertyList.table)).map .ofText

end RegexHost.Pattern.CharKind

import RegexHost.Pattern.Code
import RegexHost.Pattern.Subject

/-! Running a program against a text: one thread at a time, with a stack of the choices left and of
what is to be undone on the way back to them. -/
namespace RegexHost.Pattern

/-- What a thread remembers. Ends of groups are kept one up; zero stands for none. -/
structure Memory where
  starts : Array Nat
  stops : Array Nat
  counts : Array Nat
  /-- Where the turns of loops began that must not take nothing. -/
  turns : Array Nat
  /-- Nothing is taken past this place. -/
  limit : Nat
  /-- How many characters a look-behind may go back still. -/
  left : Nat
  deriving Repr, Inhabited

inductive Frame
  | choice (pc pos left : Nat)
  | opened (group oldStart oldStop : Nat)
  | closed (group oldStop : Nat)
  | counted (counter old : Nat)
  | turn (check old : Nat)
  | mark (id pos : Nat)
  | limited (id limit : Nat)
  /-- The match will be said to begin here. -/
  | kept (pos : Nat)
  deriving Repr, Inhabited

inductive Step
  | go (pc pos : Nat) (mem : Memory) (stack : List Frame)
  | fail (mem : Memory) (stack : List Frame)
  | done
  deriving Inhabited

namespace Machine

@[inline] def undo (mem : Memory) : Frame → Memory
  | .opened n start stop =>
    { mem with starts := mem.starts.setIfInBounds n start, stops := mem.stops.setIfInBounds n stop }
  | .closed n stop => { mem with stops := mem.stops.setIfInBounds n stop }
  | .counted n old => { mem with counts := mem.counts.setIfInBounds n old }
  | .turn n old => { mem with turns := mem.turns.setIfInBounds n old }
  | _ => mem

/-- The stack without the choices since a mark, `kept` being the later frames that stay, and the
mark's place. -/
def cut (id : Nat) : List Frame → List Frame → Nat × List Frame
  | kept, [] => (0, kept.reverse)
  | kept, .mark i pos :: rest =>
    if i = id then (pos, kept.reverseAux rest) else cut id (.mark i pos :: kept) rest
  | kept, .choice .. :: rest | kept, .turn .. :: rest => cut id kept rest
  | kept, f :: rest => cut id (f :: kept) rest

/-- The stack below a mark, with all above it undone. -/
def undoTo (id : Nat) (mem : Memory) : List Frame → Memory × List Frame
  | [] => (mem, [])
  | .mark i pos :: rest => if i = id then (mem, rest) else undoTo id (undo mem (.mark i pos)) rest
  | f :: rest => undoTo id (undo mem f) rest

def savedLimit? (id : Nat) : List Frame → Option Nat
  | [] => none
  | .limited i limit :: rest => if i = id then some limit else savedLimit? id rest
  | _ :: rest => savedLimit? id rest

def forgetLimit (id : Nat) : List Frame → List Frame → List Frame
  | kept, [] => kept.reverse
  | kept, .limited i limit :: rest =>
    if i = id then kept.reverseAux rest else forgetLimit id (.limited i limit :: kept) rest
  | kept, f :: rest => forgetLimit id (f :: kept) rest

/-- Where the match will be said to begin, if that has been told. -/
def keptPlace? : List Frame → Option Nat
  | [] => none
  | .kept pos :: _ => some pos
  | _ :: rest => keptPlace? rest

/-- The place after a string, if it comes next. -/
def takeString (t : Subject) (limit : Nat) : Bytes → Nat → Option Nat
  | [], pos => some pos
  | b :: bs, pos => if pos < limit && t.byte pos = b then takeString t limit bs (pos + 1) else none

/-- The place after a character of a set. A negated set that tells longer characters apart takes one
that the limit cuts together with all the rest. -/
@[inline] def takeSet (t : Subject) (limit : Nat) (s : CharSet) (pos : Nat) : Option Nat :=
  if limit ≤ pos then none
  else if s.tellsWide then
    if t.span pos = 1 then if s.holdsByte (t.byte pos).toNat then some (pos + 1) else none
    else if limit < t.after pos then if s.negated then some t.size else none
    else if s.wide.contains (t.code pos) != s.negated then some (t.after pos) else none
  else if s.holdsByte (t.byte pos).toNat then some (if s.negated then t.after pos else pos + 1)
  else none

def isWord (t : Subject) (pos : Nat) : Bool :=
  CharKind.wordInText.contains (t.code pos)

@[inline] def takeWord (t : Subject) (limit : Nat) (negated : Bool) (pos : Nat) : Option Nat :=
  if pos < limit && isWord t pos != negated then some (t.after pos) else none

@[inline] def takeAny (t : Subject) (limit : Nat) (newlines : Bool) (pos : Nat) : Option Nat :=
  if pos < limit && t.after pos ≤ limit && (newlines || !t.isNewline pos) then some (t.after pos)
  else none

/-- Takes characters as long as there are some, leaving a choice before each. Tells whether the
limit was what ended it. -/
def takeRun (t : Subject) (limit : Nat) (newlines : Bool) (next : Option UInt8) (pc : Nat) :
    Nat → Nat → List Frame → Bool × Nat × List Frame
  | 0, pos, stack => (true, pos, stack)
  | fuel + 1, pos, stack =>
    if limit ≤ pos then (true, pos, stack)
    else
      let stack := if next.all (t.byte pos = ·) then .choice pc pos 0 :: stack else stack
      match takeAny t limit newlines pos with
      | some pos => takeRun t limit newlines next pc fuel pos stack
      | none => (false, pos, stack)

/-- What a character counts as where case does not, as bytes. It is read as far as `stop`. -/
def foldedAt (t : Subject) (stop pos : Nat) : Bytes :=
  let b := (t.byte pos).toNat
  if b < 0x80 then [.ofNat (if 0x41 ≤ b && b ≤ 0x5A then b + 0x20 else b)]
  else
    let code := Utf8.value (t.slice pos (max (pos + 1) (min stop (t.after pos))))
    let folded := CaseFold.folded code
    if folded = [code] then t.slice pos (t.after pos) else folded.flatMap Utf8.encodeCode

/-- The place after what differs from the text between `i` and `j` in case only. -/
def takeFolded (t : Subject) (j stop : Nat) : Nat → Nat → Nat → Option Nat
  | 0, _, _ => none
  | fuel + 1, i, pos =>
    if j ≤ i then some pos
    else if foldedAt t j i = foldedAt t stop pos then
      takeFolded t j stop fuel (t.after i) (t.after pos)
    else none

def group? (mem : Memory) (n : Nat) : Option (Nat × Nat) :=
  match mem.starts.getD n 0, mem.stops.getD n 0 with
  | i, j + 1 => some (i - 1, j)
  | _, 0 => none

/-- The place after a copy of a group's text. The copy must have room even where it is not the
same. -/
def takeReference (t : Subject) (mem : Memory) (fold : Bool) (pos : Nat) : List Nat → Option Nat
  | [] => none
  | n :: ns =>
    match group? mem n with
    | none => takeReference t mem fold pos ns
    | some (i, j) =>
      let length := j - i
      if length = 0 then some pos
      else if mem.limit < pos + length then none
      else
        let found := if fold then takeFolded t j (pos + length) (length + 1) i pos
          else takeString t mem.limit (t.slice i j) pos
        match found with
        | some next => some next
        | none => takeReference t mem fold pos ns

def holds (t : Subject) (limit pos : Nat) : Anchor → Bool
  | .lineStart => pos = 0 || pos ≠ t.size && t.isNewline (t.before pos)
  | .lineEnd => pos = t.size || t.isNewline pos
  | .textStart => pos = 0 && t.beginText
  | .textEnd => pos = t.size
  | .lastLineEnd => pos = t.size || t.isNewline pos && pos + 1 = t.size
  | .searchStart => pos = t.start && t.beginPosition
  | .wordEdge => edge
  | .noWordEdge => !edge
where
  edge : Bool :=
    if pos = 0 then pos < limit && isWord t pos
    else if pos = t.size then isWord t (t.before pos)
    else isWord t pos != isWord t (t.before pos)

/-- Whether the turn of a loop set one of the groups, and the group was not set before or not
empty. -/
def setsGroup (check : Nat) (groups : List Nat) : List Frame → Bool
  | [] => false
  | .turn c _ :: rest => c ≠ check && setsGroup check groups rest
  | .opened n start stop :: rest =>
    groups.contains n && (stop = 0 || start ≠ stop) || setsGroup check groups rest
  | _ :: rest => setsGroup check groups rest

@[inline] def take (pc : Nat) (mem : Memory) (stack : List Frame) : Option Nat → Step
  | some next => .go (pc + 1) next mem stack
  | none => .fail mem stack

@[inline] def step (p : Program) (t : Subject) (pc pos : Nat) (mem : Memory)
    (stack : List Frame) : Step :=
  match p.ops.getD pc .fail with
  | .string bytes => take pc mem stack (takeString t mem.limit bytes pos)
  | .set s => take pc mem stack (takeSet t mem.limit s pos)
  | .word negated => take pc mem stack (takeWord t mem.limit negated pos)
  | .any newlines => take pc mem stack (takeAny t mem.limit newlines pos)
  | .anyRun newlines next =>
    match takeRun t mem.limit newlines next (pc + 1) (t.size + 1) pos stack with
    | (true, pos, stack) => .go (pc + 1) pos mem stack
    | (false, _, stack) => .fail mem stack
  | .backref groups fold => take pc mem stack (takeReference t mem fold pos groups)
  | .anchor a => if holds t mem.limit pos a then .go (pc + 1) pos mem stack else .fail mem stack
  | .keep => .go (pc + 1) pos mem (.kept pos :: stack)
  | .jump target => .go target pos mem stack
  | .push other => .go (pc + 1) pos mem (.choice other pos 0 :: stack)
  | .pushOrJump byte other =>
    if pos < mem.limit && t.byte pos = byte then .go (pc + 1) pos mem (.choice other pos 0 :: stack)
    else .go other pos mem stack
  | .pushIfNext byte other =>
    if pos < mem.limit && t.byte pos = byte then .go (pc + 1) pos mem (.choice other pos 0 :: stack)
    else .go (pc + 1) pos mem stack
  | .openGroup n undone =>
    if undone then
      let stack := .opened n (mem.starts.getD n 0) (mem.stops.getD n 0) :: stack
      let starts := mem.starts.setIfInBounds n (pos + 1)
      .go (pc + 1) pos { mem with starts, stops := mem.stops.setIfInBounds n 0 } stack
    else .go (pc + 1) pos { mem with starts := mem.starts.setIfInBounds n (pos + 1) } stack
  | .closeGroup n undone =>
    let stack := if undone then .closed n (mem.stops.getD n 0) :: stack else stack
    .go (pc + 1) pos { mem with stops := mem.stops.setIfInBounds n (pos + 1) } stack
  | .beginTurns counter b after =>
    let stack := .counted counter (mem.counts.getD counter 0) :: stack
    let mem := { mem with counts := mem.counts.setIfInBounds counter 0 }
    if 0 < b.lower then .go (pc + 1) pos mem stack
    else if b.greedy then .go (pc + 1) pos mem (.choice after pos 0 :: stack)
    else .go after pos mem (.choice (pc + 1) pos 0 :: stack)
  | .endTurn counter b body =>
    let old := mem.counts.getD counter 0
    let n := old + 1
    let mem := { mem with counts := mem.counts.setIfInBounds counter n }
    let counted := Frame.counted counter old
    if b.upper.any (· ≤ n) then .go (pc + 1) pos mem (counted :: stack)
    else if n < b.lower then .go body pos mem (counted :: stack)
    else if b.greedy then .go body pos mem (counted :: .choice (pc + 1) pos 0 :: stack)
    else .go (pc + 1) pos mem (.choice body pos 0 :: counted :: stack)
  | .beginCheck check =>
    let stack := .turn check (mem.turns.getD check 0) :: stack
    .go (pc + 1) pos { mem with turns := mem.turns.setIfInBounds check pos } stack
  | .endCheck check groups =>
    let useful := mem.turns.getD check 0 ≠ pos || !groups.isEmpty && setsGroup check groups stack
    .go (if useful then pc + 1 else pc + 2) pos mem stack
  | .mark id => .go (pc + 1) pos mem (.mark id pos :: stack)
  | .cut id goBack =>
    let (start, stack) := cut id [] stack
    .go (pc + 1) (if goBack then start else pos) mem stack
  | .undoTo id =>
    let (mem, stack) := undoTo id mem stack
    .go (pc + 1) pos mem stack
  | .drop => .go (pc + 1) pos mem (stack.drop 1)
  | .fail => .fail mem stack
  | .saveLimit id => .go (pc + 1) pos mem (.limited id mem.limit :: stack)
  | .limitHere => .go (pc + 1) pos { mem with limit := pos } stack
  | .restoreLimit id forget =>
    let limit := (savedLimit? id stack).getD mem.limit
    .go (pc + 1) pos { mem with limit } (if forget then forgetLimit id [] stack else stack)
  | .stepBack least more =>
    match t.back least pos, more with
    | none, _ => .fail mem stack
    | some start, some 0 => .go (pc + 1) start mem stack
    | some start, _ =>
      .go (pc + 2) start mem (.choice (pc + 1) start (more.getD (pos + 1)) :: stack)
  | .stepMore =>
    match t.back 1 pos with
    | none => .fail mem stack
    | some start =>
      let left := mem.left - 1
      .go (pc + 1) start mem (if left = 0 then stack else .choice pc start left :: stack)
  | .atLimit => if pos = mem.limit then .go (pc + 1) pos mem stack else .fail mem stack
  | .accept => .done

/-- Undoes all above the last choice. -/
def unwind (mem : Memory) : List Frame → Memory × List Frame
  | [] => (mem, [])
  | f :: rest =>
    match f with
    | .choice .. => (mem, f :: rest)
    | f => unwind (undo mem f) rest

inductive Outcome
  | found (mem : Memory) (start stop : Nat)
  | none
  | overLimit
  deriving Inhabited

/-- Runs a thread until it accepts or no choice is left. `retries` failures are allowed; the fuel
bounds the steps. -/
def run (p : Program) (t : Subject) (start : Nat) :
    Nat → Nat → Nat → Nat → Memory → List Frame → Outcome
  | 0, _, _, _, _, _ => .overLimit
  | fuel + 1, retries, pc, pos, mem, stack =>
    match step p t pc pos mem stack with
    | .go pc pos mem stack => run p t start fuel retries pc pos mem stack
    | .done => .found mem ((keptPlace? stack).getD start) pos
    | .fail mem stack =>
      if retries = 0 then .overLimit
      else match unwind mem stack with
        | (mem, .choice pc pos left :: stack) =>
          run p t start fuel (retries - 1) pc pos
            (if left = 0 then mem else { mem with left }) stack
        | _ => .none

def retryLimit : Nat := 10000000

/-- Steps of one attempt, more than that many failures leave room for. -/
def stepLimit : Nat := 1000000000000

def attempt (p : Program) (t : Subject) (pos : Nat) : Outcome :=
  run p t pos stepLimit retryLimit 0 pos
    ⟨.replicate (p.groups + 1) 0, .replicate (p.groups + 1) 0, .replicate p.counters 0,
      .replicate p.checks 0, t.size, 0⟩ []

end RegexHost.Pattern.Machine

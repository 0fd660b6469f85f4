import RegexHost.Pattern.Machine

/-! Searching: the first place from which a pattern matches. The clue to the pattern tells which
places need no attempt. -/
namespace RegexHost.Pattern

/-- The ends of the match and of each group, in bytes. -/
abbrev Region := List (Option (Nat × Nat))

inductive SearchFault
  | retryLimit
  deriving DecidableEq, Repr

def SearchFault.text : SearchFault → String
  | retryLimit => "retry-limit-in-match over"

abbrev Searched := Except SearchFault (Option Region)

namespace Search

/-- The first place from `pos` on, and before `stop`, where a target stands. -/
def targetFrom (t : Subject) (target : Target) (stop : Nat) : Nat → Nat → Option Nat
  | 0, _ => none
  | fuel + 1, pos =>
    if stop ≤ pos then none
    else match target with
      | .nothing => some pos
      | .string bytes =>
        if (Machine.takeString t t.size bytes pos).isSome then some pos
        else targetFrom t target stop fuel (pos + 1)
      | .oneOf bytes =>
        if bytes.contains (t.byte pos).toNat then some pos
        else targetFrom t target stop fuel (t.after pos)

/-- The first place from `pos` on that is `least` bytes or more away, character by character. -/
def advance (t : Subject) (goal : Nat) : Nat → Nat → Nat
  | 0, pos => pos
  | fuel + 1, pos => if pos < goal then advance t goal fuel (t.after pos) else pos

/-- The same, where a clue may ask for the start of a line. -/
def clueFrom (t : Subject) (c : Clue) (stop : Nat) : Nat → Nat → Option Nat
  | 0, _ => none
  | fuel + 1, pos =>
    match targetFrom t c.target stop (t.size + 1) pos with
    | none => none
    | some found =>
      if c.atLineStart && found ≠ 0 && !t.isNewline (t.before found) then
        clueFrom t c stop fuel (t.after found)
      else some found

/-- Between which places a match can begin that begins at `start` or later: next to the first
target. -/
def window (t : Subject) (c : Clue) (start stop : Nat) : Option (Nat × Nat) :=
  let least := c.place.least
  if 0 < least && t.size - start ≤ least then none
  else
    match clueFrom t c stop (t.size + 1) (advance t (start + least) (t.size + 1) start) with
    | none => none
    | some found =>
      let low := match c.place.most with
        | none => start
        | some most =>
          if found < most then 0
          else
            let low := found - most
            if 0 < most && start < low then t.rightHead start low else low
      some (low, found - least)

/-- The places where a match may begin: from the first one up to the second. -/
structure Range where
  first : Nat
  stop : Nat
  deriving DecidableEq, Repr

/-- The range of matches that end in the last part of the text. `early` and `late` are the places
where that part begins and ends. -/
def endingIn (t : Subject) (length : Extent) (early late : Nat) (r : Range) : Option Range :=
  if late < length.least then none
  else if r.first < r.stop then
    let first := match length.most with
      | none => r.first
      | some most =>
        if most < early - r.first then
          let first := early - most
          if first < t.size then t.rightHead 0 first else first
        else r.first
    let stop := if late - (r.stop - 1) < length.least then late - length.least + 1 else r.stop
    if stop < first then none else some ⟨first, stop⟩
  else
    let stop := match length.most with
      | none => r.stop
      | some most => if most < early - r.stop then early - most else r.stop
    let first := if late - r.first < length.least then t.headFrom 0 (late - length.least)
      else r.first
    if first < stop then none else some ⟨first, stop⟩

/-- What a range comes to when matches are fixed to an end of the text or to where the search
begins. -/
def narrowed (t : Subject) (c : Clue) (r : Range) : Option Range :=
  let left := c.edges.left
  let right := c.edges.right
  let here : Range := if r.first < r.stop then ⟨r.first, r.first + 1⟩ else ⟨r.first, r.first⟩
  if left.contains .searchStart then some here
  else if left.contains .textStart then
    if r.first < r.stop then if r.first = 0 then some ⟨0, 1⟩ else none
    else if r.stop = 0 then some ⟨0, 0⟩ else none
  else if right.contains .textEnd then endingIn t c.length t.size t.size r
  else if right.contains .lastLineEnd then
    let last := t.before t.size
    if t.isNewline last then
      if 0 < last && r.first ≤ last then endingIn t c.length last t.size r else some r
    else endingIn t c.length t.size t.size r
  else if left.contains .textRun && r.first < r.stop then some here
  else some r

end Search

namespace Program

open Search

variable (p : Program) (t : Subject)

/-- The start that was asked for is never put behind the end. -/
def region (mem : Memory) (start stop : Nat) : Region :=
  some (min start stop, stop) ::
    (List.range p.groups).map fun g =>
      match mem.starts.getD (g + 1) 0, mem.stops.getD (g + 1) 0 with
      | i, j + 1 => some (i - 1, j)
      | _, 0 => none

/-- An attempt at one place, and what is done if it fails. -/
@[specialize] def tryAt (pos : Nat) (otherwise : Unit → Searched) : Searched :=
  match Machine.attempt p t pos with
  | .found mem start stop => .ok (some (p.region mem start stop))
  | .overLimit => .error .retryLimit
  | .none => otherwise ()

/-- Tries the places from `pos` on, and the end of the range if it is met. -/
def tryEach (stop : Nat) : Nat → Nat → Searched
  | 0, _ => .ok none
  | fuel + 1, pos =>
    p.tryAt t pos fun _ =>
      let next := t.after pos
      if next < stop then tryEach stop fuel next
      else if next = stop then p.tryAt t next fun _ => .ok none
      else .ok none

/-- The next place after `pos` that follows a line end. -/
def nextLine (stop : Nat) : Nat → Nat → Nat
  | 0, pos => pos
  | fuel + 1, pos =>
    let next := t.after pos
    if t.isNewline pos || stop ≤ next then next else nextLine stop fuel next

/-- Tries one place in each line. -/
def tryLines (stop : Nat) : Nat → Nat → Searched
  | 0, _ => .ok none
  | fuel + 1, pos =>
    p.tryAt t pos fun _ =>
      let next := nextLine t stop (t.size + 1) pos
      if next < stop then tryLines stop fuel next else .ok none

/-- Tries the places of a window, `otherwise` being told where it ends. -/
def tryWindow (high : Nat) (otherwise : Nat → Searched) : Nat → Nat → Searched
  | 0, pos => otherwise pos
  | fuel + 1, pos =>
    if high < pos then otherwise pos
    else p.tryAt t pos fun _ => tryWindow high otherwise fuel (t.after pos)

def tryWindows (stop targetStop : Nat) : Nat → Nat → Searched
  | 0, _ => .ok none
  | fuel + 1, pos =>
    match window t p.clue pos targetStop with
    | none => .ok none
    | some (low, high) =>
      p.tryWindow t high (fun next => if next < stop then tryWindows stop targetStop fuel next
        else .ok none) (t.size + 1) (max pos low)

/-- Where targets are looked for: as far past the range as they may stand. -/
def targetStop (stop : Nat) : Nat :=
  match p.clue.place.most with
  | none => t.size
  | some most => min t.size (stop + most)

/-- Tries a range of places, the first of which comes before its end. -/
def tryRange (r : Range) : Searched :=
  let all := p.tryEach t r.stop (t.size + 1) r.first
  let left := p.clue.edges.left
  let right := p.clue.edges.right
  if p.clue.target = .nothing then all
  else if t.size - r.first < p.clue.threshold then .ok none
  else if p.clue.place.most.isSome then
    p.tryWindows t r.stop (p.targetStop t r.stop) (t.size + 1) r.first
  else if (window t p.clue r.first t.size).isNone then .ok none
  else if left.contains .lineRun && !left.contains .behind && !right.contains .notAhead then
    p.tryLines t r.stop (t.size + 1) r.first
  else all

/-- Tries the places from the first one back to the end of the range. -/
def tryBack (r : Range) : Nat → Nat → Searched
  | 0, _ => .ok none
  | fuel + 1, pos =>
    p.tryAt t pos fun _ =>
      if pos = 0 || t.before pos < r.stop then .ok none else tryBack r fuel (t.before pos)

/-- Searches text from a byte offset on. Without text, a clue that asks for some rules out a
match. -/
def searchText (start : Nat) : Searched :=
  if t.size < start then .ok none
  else if t.size = 0 then
    if p.clue.threshold = 0 then p.tryAt t 0 fun _ => .ok none else .ok none
  else
    match narrowed t p.clue ⟨start, t.size⟩ with
    | none => .ok none
    | some r =>
      if r.first < r.stop then p.tryRange t r
      else if p.clue.target = .nothing then p.tryBack t r (t.size + 1) r.first
      else .ok none

def search (bytes : Bytes) (start : Nat) (beginPosition beginText : Bool) : Searched :=
  p.searchText (.ofBytes bytes start beginPosition beginText) start

end RegexHost.Pattern.Program

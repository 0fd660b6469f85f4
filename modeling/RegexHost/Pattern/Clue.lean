import RegexHost.Pattern.Extent

/-! What a match cannot do without, so that a search passes over places where none can begin: a
string or one of some bytes at a known distance, and positions at either end. -/
namespace RegexHost.Pattern

inductive Edge
  | textStart | searchStart | lineStart
  | textEnd | lastLineEnd | lineEnd
  | notAhead | behind
  /-- The match begins with any number of characters, line ends excluded or not. -/
  | lineRun | textRun
  deriving DecidableEq, Repr

structure Edges where
  left : List Edge
  right : List Edge
  deriving DecidableEq, Repr, Inhabited

namespace Edges

def none : Edges :=
  ⟨[], []⟩

def isRight : Edge → Bool
  | .textEnd | .lastLineEnd | .lineEnd | .notAhead => true
  | _ => false

def of (e : Edge) : Edges :=
  if isRight e then ⟨[], [e]⟩ else ⟨[e], []⟩

def both (s t : List Edge) : List Edge :=
  s ++ t.filter fun e => !s.contains e

/-- The edges of two parts in a row. An empty part lets the other one's edge through. -/
def add (a b : Edges) (aMost bMost : Option Nat) : Edges where
  left := if aMost = some 0 then both a.left b.left else a.left
  right := both b.right (if bMost = some 0 then a.right else a.right.filter (· = .notAhead))

def common (a b : Edges) : Edges :=
  ⟨a.left.filter b.left.contains, a.right.filter b.right.contains⟩

end Edges

def byteWeight (b : Nat) : Nat :=
  if b = 0 then 5
  else if b = 9 || b = 10 || b = 13 then 10
  else if b < 0x20 then 1
  else if b = 0x20 then 12
  else if b = 0x22 then 7
  else if b < 0x29 then 4
  else if b < 0x30 then 5
  else if b < 0x3A then 6
  else if b < 0x41 then 5
  else if b = 0x45 || b = 0x65 then 7
  else if b = 0x5B || 0x5D ≤ b && b ≤ 0x60 then 5
  else if b < 0x7B then 6
  else if b < 0x7F then 5
  else if b = 0x7F then 1
  else 4

/-- What a known distance is worth: a thousand, shared among the places. -/
def distanceWorth (e : Extent) : Nat :=
  match e.most with
  | Option.none => 0
  | some most =>
    let d := most - e.least
    if d < 100 then (2000 + (d + 1)) / (2 * (d + 1)) else 1

/-- Whether the second of two worths at their distances is the greater one. -/
def secondBetter (a b : Extent) (worthA worthB : Nat) : Bool :=
  if worthB = 0 then false
  else if worthA = 0 then true
  else
    let va := worthA * distanceWorth a
    let vb := worthB * distanceWorth b
    if va < vb then true else if vb < va then false else b.least < a.least

/-- A string at a distance from the start. -/
structure Fragment where
  place : Extent
  edges : Edges
  /-- Whether the string is all there is up to the end of the part. -/
  reaches : Bool
  bytes : Bytes
  deriving DecidableEq, Repr, Inhabited

namespace Fragment

def absent : Fragment :=
  ⟨.exactly 0, .none, false, []⟩

def noneAt (place : Extent) : Fragment :=
  { absent with place }

/-- No more of a string is kept. -/
def limit : Nat := 24

/-- As many whole characters as there is room for. -/
def fitting : Nat → List Bytes → Bytes
  | _, [] => []
  | room, cell :: cells =>
    if cell.length ≤ room then cell ++ fitting (room - cell.length) cells else []

def extend (w : Fragment) (bytes : Bytes) : Bytes × Bool :=
  let more := fitting (limit - w.bytes.length) (Utf8.cells bytes)
  (w.bytes ++ more, more.length = bytes.length)

def add (w v : Fragment) : Fragment :=
  let (bytes, whole) := w.extend v.bytes
  let reaches := whole && v.reaches
  let edges : Edges :=
    ⟨w.edges.left, Edges.both v.edges.right (w.edges.right.filter (· = .notAhead))⟩
  { w with bytes, reaches, edges := { edges with right := if reaches then edges.right else [] } }

def commonStart : List Bytes → List Bytes → Bytes
  | a :: as, b :: bs => if a = b then a ++ commonStart as bs else []
  | _, _ => []

/-- What two branches begin with alike. -/
def common (w v : Fragment) : Fragment :=
  if w.bytes = [] ∨ v.bytes = [] ∨ w.place ≠ v.place then absent
  else
    let bytes := commonStart (Utf8.cells w.bytes) (Utf8.cells v.bytes)
    let reaches :=
      w.reaches && v.reaches && bytes.length = v.bytes.length && bytes.length = w.bytes.length
    let edges := w.edges.common v.edges
    { w with bytes, reaches, edges := { edges with right := if reaches then edges.right else [] } }

def choose (now other : Fragment) : Fragment :=
  match now.bytes, other.bytes with
  | _, [] => now
  | [], _ => other
  | a :: as, b :: bs =>
    let short := as.length ≤ 1 && bs.length ≤ 1
    let worthNow := if short then byteWeight b.toNat + (if as = [] then 0 else 5) else as.length + 1
    let worthOther := if short then byteWeight a.toNat + (if bs = [] then 0 else 5)
      else bs.length + 1
    if secondBetter now.place other.place (2 * worthNow) (2 * worthOther) then other else now

end Fragment

/-- Bytes of which one stands at a distance from the start. -/
structure ByteSet where
  place : Extent
  edges : Edges
  bytes : List Nat
  deriving DecidableEq, Repr, Inhabited

namespace ByteSet

def absent : ByteSet :=
  ⟨.exactly 0, .none, []⟩

def weight (m : ByteSet) : Nat :=
  m.bytes.foldr (fun b n => byteWeight b + n) 0

def choose (now other : ByteSet) : ByteSet :=
  if other.bytes = [] then now
  else if now.bytes = [] then other
  else if secondBetter now.place other.place (32768 / now.weight) (32768 / other.weight) then other
  else now

def either (m n : ByteSet) : ByteSet :=
  if m.bytes = [] then m
  else if n.bytes = [] || m.place.most.any (· < n.place.least) then absent
  else ⟨m.place.either n.place, m.edges.common n.edges,
    m.bytes ++ n.bytes.filter fun b => !m.bytes.contains b⟩

end ByteSet

structure Known where
  length : Extent
  edges : Edges
  start : Fragment
  middle : Fragment
  /-- A string that a look-ahead asks for. -/
  seen : Fragment
  bytes : ByteSet
  deriving Repr, Inhabited

namespace Known

def nothing (place : Extent) : Known :=
  ⟨.exactly 0, .none, .noneAt place, .absent, .noneAt place, { ByteSet.absent with place }⟩

def withLength (length : Extent) (k : Known) : Known :=
  { k with length }

def add (a b : Known) : Known :=
  let edges := a.edges.add b.edges a.length.most b.length.most
  let aEmpty : Bool := a.length.most = some 0
  let bStart := if b.start.bytes ≠ [] ∧ aEmpty then
      { b.start with edges := edges.add b.start.edges a.length.most b.length.most }
    else b.start
  let bBytes := if b.bytes.bytes ≠ [] ∧ aEmpty ∧ b.bytes.place.most = some 0 then
      { b.bytes with edges :=
        { b.bytes.edges with left := Edges.both b.bytes.edges.left edges.left } }
    else b.bytes
  let stays : Bool := b.length.most = some 0
  let start := { a.start with reaches := a.start.reaches && stays }
  let middle := { a.middle with reaches := a.middle.reaches && stays }
  let (start, middle, bStart) :=
    if bStart.bytes = [] then (start, middle, bStart)
    else if a.start.reaches then (start.add bStart, middle, .absent)
    else if a.middle.reaches then (start, middle.add bStart, .absent)
    else (start, middle, bStart)
  let middle := (middle.choose bStart).choose b.middle
  let (start, middle, seen) :=
    if a.seen.bytes ≠ [] then
      if stays then (start, middle, a.seen)
      else if a.seen.place.most = some 0 then (start.choose a.seen, middle, a.seen)
      else (start, middle.choose a.seen, a.seen)
    else (start, middle, if b.seen.bytes ≠ [] then b.seen else a.seen)
  ⟨a.length.add b.length, edges, start, middle, seen, a.bytes.choose bBytes⟩

def either (a b : Known) : Known :=
  ⟨a.length.either b.length, a.edges.common b.edges, a.start.common b.start,
    a.middle.common b.middle, a.seen.common b.seen, a.bytes.either b.bytes⟩

/-- The string at the start, as often as it stands there for sure. -/
def startTimes (unit : Fragment) (times : Nat) : Nat → Nat → Fragment → Fragment
  | 0, _, w => w
  | fuel + 1, i, w =>
    if times < i then w
    else if Fragment.limit ≤ w.bytes.length then { w with reaches := w.reaches && i = times }
    else
      let next := w.add unit
      if next.bytes.length < w.bytes.length + unit.bytes.length then next
      else startTimes unit times fuel (i + 1) next

/-- A repetition of what is known, which stands at `place`. -/
def repeated (place : Extent) (b : Bounds) (body : Node) (k : Known) : Known :=
  let known :=
    if 0 < b.lower then
      let start :=
        if k.start.bytes ≠ [] ∧ k.start.reaches then startTimes k.start b.lower b.lower 2 k.start
        else k.start
      let fixed : Bool := b.upper = some b.lower
      { k with
        start := { start with reaches := start.reaches && fixed }
        middle := { k.middle with reaches := k.middle.reaches && fixed && b.lower ≤ 1 } }
    else nothing place
  let run := match body with
    | .any newlines =>
      if place.most = some 0 && b.isOpen then Edges.of (if newlines then .textRun else .lineRun)
      else .none
    | _ => .none
  { known with
    length := k.length.repeated b
    edges := ⟨Edges.both known.edges.left run.left, known.edges.right⟩ }

end Known

/-- What a part joins: nothing, the parts of its row before it, or the branches before it. -/
inductive Before
  | nothing
  | parts (k : Known)
  | branches (k : Known)

def Before.join : Before → Known → Known
  | nothing, k => k
  | parts a, k => a.add k
  | branches a, k => a.either k

def Anchor.edge? : Anchor → Option Edge
  | .textStart => some .textStart
  | .searchStart => some .searchStart
  | .lineStart => some .lineStart
  | .textEnd => some .textEnd
  | .lastLineEnd => some .lastLineEnd
  | .lineEnd => some .lineEnd
  | .wordEdge | .noWordEdge => none

def Edge.isRun : Edge → Bool
  | .lineRun | .textRun => true
  | _ => false

/-- What is known of a node that stands at `place`, and of what it joins. -/
def Node.known (table : GroupTable) (refs : List Nat) (place : Extent)
    (before : Before) : Node → Known
  | literal bytes _ =>
    let k := Known.nothing place
    let (start, whole) := k.start.extend bytes
    before.join { k with
      length := .exactly bytes.length
      start := { k.start with bytes := start, reaches := whole }
      bytes := { k.bytes with bytes := (bytes.take 1).map (·.toNat) } }
  | set s =>
    let k := Known.nothing place
    before.join <|
      if s.tellsWide || s.negated then k.withLength ⟨1, some maxCharBytes⟩
      else
        { k with
          length := .exactly 1
          bytes := { k.bytes with bytes :=
            (List.range (CharSet.lastByte + 1)).filter s.bytes.contains } }
  | word _ | any _ => before.join ((Known.nothing place).withLength ⟨1, some maxCharBytes⟩)
  | backref groups fold inside =>
    before.join ((Known.nothing place).withLength ((backref groups fold inside).bytes table))
  | anchor a => before.join { Known.nothing place with edges := a.edge?.elim .none .of }
  | keep | fail => before.join (.nothing place)
  | ahead false body =>
    let k := Known.nothing place
    let inner := body.known table refs place .nothing
    let seen := if inner.start.bytes ≠ [] then inner.start
      else if inner.middle.bytes ≠ [] then inner.middle else k.seen
    before.join { k with
      seen := { seen with reaches := false }
      bytes := if inner.bytes.bytes ≠ [] then inner.bytes else k.bytes }
  | ahead true _ => before.join { Known.nothing place with edges := .of .notAhead }
  | behind negated _ =>
    before.join { Known.nothing place with edges := if negated then .none else .of .behind }
  | quantified b body =>
    before.join <|
      if b.upper = some 0 then Known.nothing place
      else (body.known table refs place .nothing).repeated place b body
  | capture n body =>
    let k := body.known table refs place .nothing
    before.join <|
      if refs.contains n then
        { k with edges := { k.edges with left := k.edges.left.filter (!·.isRun) } } else k
  | atomic body | grouped body => before.join (body.known table refs place .nothing)
  | seq a b =>
    let k := a.known table refs place .nothing
    match before with
    | .parts done => b.known table refs (place.add k.length) (.parts (done.add k))
    | _ => before.join
        (b.known table refs (place.add k.length) (.parts ((Known.nothing place).add k)))
  | alt a b =>
    let k := a.known table refs place .nothing
    match before with
    | .branches done => b.known table refs place (.branches (done.either k))
    | _ => before.join (b.known table refs place (.branches k))

/-- What a search looks for before it tries a place. -/
inductive Target
  | nothing
  | string (bytes : Bytes)
  | oneOf (bytes : List Nat)
  deriving DecidableEq, Repr, Inhabited

structure Clue where
  edges : Edges
  length : Extent
  target : Target
  /-- Where the target stands, counted from the start of a match. -/
  place : Extent
  /-- Whether the target stands at the start of a line. -/
  atLineStart : Bool
  deriving Repr, Inhabited

namespace Clue

/-- A search with nothing to look for needs no more than this. -/
def threshold (c : Clue) : Nat :=
  match c.target with
  | .nothing => 0
  | .string bytes => c.place.least + bytes.length
  | .oneOf _ => c.place.least + 1

def ofKnown (k : Known) : Clue :=
  let kept : List Edge := [.textStart, .searchStart, .lineRun, .textRun, .behind]
  let left := k.edges.left.filter fun e => kept.contains e &&
    !(e = .textRun && k.edges.left.contains .behind)
  let right := k.edges.right.filter fun e => e = .textEnd || e = .lastLineEnd || e = .notAhead
  let word := k.start.choose k.middle
  let mapBetter := k.bytes.bytes ≠ [] &&
    secondBetter word.place k.bytes.place (60 * word.bytes.length) (200 / k.bytes.weight)
  let clue : Clue := ⟨⟨left, right⟩, k.length, .nothing, .exactly 0, false⟩
  if word.bytes ≠ [] ∧ !mapBetter then
    { clue with
      target := .string word.bytes, place := word.place
      atLineStart := word.edges.left.contains .lineStart }
  else if k.bytes.bytes ≠ [] then
    { clue with
      target := .oneOf k.bytes.bytes, place := k.bytes.place
      atLineStart := k.bytes.edges.left.contains .lineStart }
  else clue

/-- The clue to a tuned pattern that refers to some groups. -/
def ofNode (node : Node) (refs : List Nat) : Clue :=
  ofKnown (node.known node.captures refs (.exactly 0) .nothing)

end RegexHost.Pattern.Clue

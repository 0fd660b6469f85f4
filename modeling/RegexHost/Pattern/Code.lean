import RegexHost.Pattern.Clue
import RegexHost.Pattern.Parser
import RegexHost.Pattern.Tuning

/-! Patterns as instructions of a backtracking machine. -/
namespace RegexHost.Pattern

inductive Op (α : Type)
  | string (bytes : Bytes)
  | set (s : CharSet)
  | word (negated : Bool)
  | any (newlines : Bool)
  /-- Any number of characters, with a choice at each place or at each one where `next` comes. -/
  | anyRun (newlines : Bool) (next : Option UInt8)
  | backref (groups : List Nat) (fold : Bool)
  | anchor (a : Anchor)
  | keep
  | jump (target : α)
  /-- Goes on, and on failure to the other place. -/
  | push (other : α)
  /-- The same where a byte comes next. Jumps elsewhere. -/
  | pushOrJump (byte : UInt8) (other : α)
  /-- Goes on, and where a byte comes next has another place to go to on failure. -/
  | pushIfNext (byte : UInt8) (other : α)
  /-- The begin of a group. Without `undone` it stays in force when what follows fails. -/
  | openGroup (group : Nat) (undone : Bool)
  | closeGroup (group : Nat) (undone : Bool)
  | beginTurns (counter : Nat) (b : Bounds) (after : α)
  | endTurn (counter : Nat) (b : Bounds) (body : α)
  | beginCheck (check : Nat)
  /-- Leaves a loop whose turn took nothing, unless it set one of the groups. -/
  | endCheck (check : Nat) (groups : List Nat)
  | mark (id : Nat)
  /-- Forgets the choices made since a mark, with or without going back to its position. -/
  | cut (id : Nat) (goBack : Bool)
  /-- Undoes all since a mark. -/
  | undoTo (id : Nat)
  | drop
  | fail
  /-- Keeps the place that nothing is taken past. -/
  | saveLimit (id : Nat)
  | limitHere
  | restoreLimit (id : Nat) (forget : Bool)
  /-- Goes back some characters, with a choice of going back `more`. -/
  | stepBack (least : Nat) (more : Option Nat)
  | stepMore
  | atLimit
  | accept
  deriving DecidableEq, Repr, Inhabited

/-- Instructions whose addresses count from the instruction itself. -/
abbrev Ops := List (Op Int)

def Op.mapAddress {α β : Type} (f : α → β) : Op α → Op β
  | string bytes => string bytes
  | set s => set s
  | word negated => word negated
  | any newlines => any newlines
  | anyRun newlines next => anyRun newlines next
  | backref groups fold => backref groups fold
  | anchor a => anchor a
  | keep => keep
  | jump target => jump (f target)
  | push other => push (f other)
  | pushOrJump byte other => pushOrJump byte (f other)
  | pushIfNext byte other => pushIfNext byte (f other)
  | openGroup n undone => openGroup n undone
  | closeGroup n undone => closeGroup n undone
  | beginTurns counter b after => beginTurns counter b (f after)
  | endTurn counter b body => endTurn counter b (f body)
  | beginCheck check => beginCheck check
  | endCheck check groups => endCheck check groups
  | mark id => mark id
  | cut id goBack => cut id goBack
  | undoTo id => undoTo id
  | drop => drop
  | fail => fail
  | saveLimit id => saveLimit id
  | limitHere => limitHere
  | restoreLimit id forget => restoreLimit id forget
  | stepBack least more => stepBack least more
  | stepMore => stepMore
  | atLimit => atLimit
  | accept => accept

/-- The same instructions with places in the row as addresses. -/
def Ops.place (pc : Nat) : Ops → List (Op Nat)
  | [] => []
  | op :: ops => op.mapAddress (fun offset => ((pc : Int) + offset).toNat) :: Ops.place (pc + 1) ops

/-- How many counters, checks and marks are in use. -/
structure Supply where
  counters : Nat
  checks : Nat
  marks : Nat
  deriving Repr

abbrev Coding := StateM Supply

namespace Coding

def counter : Coding Nat :=
  modifyGet fun s => (s.counters, { s with counters := s.counters + 1 })

def check : Coding Nat :=
  modifyGet fun s => (s.checks, { s with checks := s.checks + 1 })

def mark : Coding Nat :=
  modifyGet fun s => (s.marks, { s with marks := s.marks + 1 })

/-- A repetition whose instructions number no more than this is written out. -/
def expansionLimit : Nat := 10

/-- The instructions of a string: one for each run of characters of one width. -/
def string (bytes : Bytes) : Ops :=
  ((Utf8.cells bytes).splitBy fun a b => a.length == b.length).map fun run => .string run.flatten

def plain : Node → Ops
  | .literal bytes _ => string bytes
  | .set chars => [.set chars]
  | .word negated => [.word negated]
  | .any newlines => [.any newlines]
  | _ => []

/-- The body of a repetition that gives nothing back and whose turns leave no choices. -/
def simpleLoop? : Node → Option (Bounds × Ops)
  | .quantified b body =>
    if b.isOpen && b.lower ≤ 1 && body.isReal then some (b, plain body) else none
  | _ => none

def copies (n : Nat) (ops : Ops) : Ops :=
  (List.replicate n ops).flatten

/-- Optional turns, each within the one before. -/
def optionalTurns (ops : Ops) : Nat → Ops
  | 0 => []
  | n + 1 =>
    let rest := ops ++ optionalTurns ops n
    .push (rest.length + 1) :: rest

end Coding

namespace Node

/-- The byte that every match begins with, if a string begins it. -/
def headByte? (node : Node) : Option UInt8 :=
  match node.head? with
  | some (literal (b :: _) _) => some b
  | _ => none

def mayBeEmpty (table : GroupTable) (b : Bounds) (body : Node) : Bool :=
  b.upper ≠ some 0 && (body.bytes table).least = 0

/-- The byte that tells whether a greedy repetition takes another turn. -/
def turnByte? (table : GroupTable) (b : Bounds) (body : Node) : Option UInt8 :=
  if b.greedy && !mayBeEmpty table b body then
    match body with
    | quantified b' body' => turnByte? table b' body'
    | _ => body.headByte?
  else none

/-- Whether a turn sets a group outside all look-arounds. -/
def holdsGroup : Node → Bool
  | capture .. => true
  | quantified b body => b.upper ≠ some 0 && body.holdsGroup
  | atomic body | grouped body => body.holdsGroup
  | seq a b | alt a b => a.holdsGroup || b.holdsGroup
  | _ => false

/-- The groups set by a loop's own turns. -/
def turnGroups (table : GroupTable) : Node → List Nat
  | capture n body => n :: body.turnGroups table
  | quantified b body => if mayBeEmpty table b body then [] else body.turnGroups table
  | atomic body | grouped body | ahead true body | behind true body => body.turnGroups table
  | seq a b | alt a b => a.turnGroups table ++ b.turnGroups table
  | _ => []

end Node

/-- What the instructions of a part depend on besides itself. -/
structure Surroundings where
  table : GroupTable
  refs : List Nat
  /-- The groups that references name, as often as they do. -/
  uses : List Nat
  /-- Whether groups here must be undone on failure. -/
  undone : Bool
  /-- The byte that the next part of the row begins with. -/
  next : Option UInt8
  /-- Whether a repetition around this one looks at its first byte. -/
  taken : Bool

namespace Surroundings

def inner (s : Surroundings) : Surroundings :=
  { s with next := none, taken := false }

/-- A part that may be left by failure after its groups are set. -/
def loose (s : Surroundings) : Surroundings :=
  { s.inner with undone := true }

def isReferenced (s : Surroundings) (group : Nat) : Bool :=
  s.refs.contains group

/-- The groups whose change makes an empty turn count: those that are referred to outside the
loop. -/
def checkedGroups (s : Surroundings) (b : Bounds) (body : Node) : List Nat :=
  if body.holdsGroup then
    let own := (Node.quantified b body).referenced
    (body.turnGroups s.table).filter fun n => own.count n < s.uses.count n
  else []

/-- The number of characters that a look-behind goes back. -/
def reach (s : Surroundings) (body : Node) : Extent :=
  match body.chars s.table with
  | .ok span => span.extent
  | .error _ => .exactly 0

end Surroundings

namespace Coding

/-- An unbounded repetition that is written as a loop. -/
def loop (b : Bounds) (body checked : Ops) (head next : Option UInt8) : Ops :=
  let after : Int := checked.length + 2
  let again : Ops :=
    if b.greedy then
      let choice : Op Int := match head, next with
        | some byte, _ => .pushOrJump byte after
        | none, some byte => .pushIfNext byte after
        | none, none => .push after
      choice :: checked ++ [.jump (-(checked.length + 1))]
    else .jump (checked.length + 1) :: checked ++ [.push (-checked.length)]
  if b.lower = 1 ∧ expansionLimit < body.length then .jump 2 :: again
  else copies b.lower body ++ again

/-- A repetition of `node`, given its instructions, with and without the check for empty turns. -/
def repetition (b : Bounds) (node : Node) (body checked : Ops) (head next : Option UInt8)
    (counter : Nat) : Ops :=
  if body = [] then []
  else match b.upper with
    | none =>
      if b.lower ≤ 1 ∨ body.length * b.lower ≤ expansionLimit then
        match node, b.greedy with
        | .any newlines, true => copies b.lower body ++ [.anyRun newlines next]
        | _, _ => loop b body checked head next
      else turns
    | some 0 => []
    | some n =>
      if b.greedy ∧ (n = 1 ∨ (body.length + 1) * n ≤ expansionLimit) then
        copies b.lower body ++ optionalTurns body (n - b.lower)
      else if !b.greedy ∧ n = 1 ∧ b.lower = 0 then .push 2 :: .jump (body.length + 1) :: body
      else turns
where
  turns : Ops :=
    .beginTurns counter b (checked.length + 2) :: checked ++ [.endTurn counter b (-checked.length)]

/-- Goes back to what a look-behind ends with and takes it again: a first check that costs
little. -/
def lead (body : Node) : Ops :=
  match body.tail? with
  | some (some (.literal bytes fold)) =>
    .stepBack (Utf8.cells bytes).length (some 0) :: plain (.literal bytes fold)
  | some (some char) => .stepBack 1 (some 0) :: plain char
  | _ => []

/-- A look-behind, given its body's instructions. A body of no fixed width must end where it looks
from. -/
def lookBehind (negated : Bool) (node : Node) (body : Ops) (reach : Extent) : Coding Ops := do
  let id ← mark
  if reach.isFixed then
    let ops := .mark id :: .stepBack reach.least (some 0) :: body
    if negated then
      let ops := ops ++ [.undoTo id, .drop, .fail]
      return .push (ops.length + 1) :: ops
    else return ops ++ [.cut id false]
  else
    let back : Ops :=
      .stepBack reach.least (reach.most.map (· - reach.least)) :: .stepMore :: body ++ [.atLimit]
    if negated then
      let ops := lead node ++ back ++ [.undoTo id, .restoreLimit id false, .drop, .fail]
      return .saveLimit id :: .limitHere :: .mark id :: .push (ops.length + 1) :: ops ++
        [.restoreLimit id false, .drop, .drop]
    else
      return lead node ++ [.saveLimit id, .limitHere, .mark id, .push 2, .jump 3,
        .restoreLimit id false, .fail] ++ back ++ [.cut id false, .restoreLimit id true]

end Coding

def Node.code (s : Surroundings) : Node → Coding Ops
  | node@(.literal ..) | node@(.set _) | node@(.word _) | node@(.any _) => return Coding.plain node
  | .backref groups fold _ => return [.backref groups fold]
  | .anchor a => return [.anchor a]
  | .keep => return [.keep]
  | .fail => return [.fail]
  | .capture n body => do
    let referenced := s.isReferenced n
    let ops ← body.code { s with taken := false }
    return .openGroup n (s.undone || referenced) :: ops ++ [.closeGroup n referenced]
  | .grouped body => body.code s.inner
  | .atomic body => do
    let ops ← body.code s.inner
    match Coding.simpleLoop? body with
    | some (b, turn) =>
      return Coding.copies b.lower turn ++ .push (turn.length + 3) :: turn ++
        [.drop, .jump (-(turn.length + 2))]
    | none =>
      let id ← Coding.mark
      return .mark id :: ops ++ [.cut id false]
  | .ahead false body => do
    let id ← Coding.mark
    return .mark id :: (← body.code s.inner) ++ [.cut id true]
  | .ahead true body => do
    let id ← Coding.mark
    let ops := .mark id :: (← body.code s.loose) ++ [.undoTo id, .drop, .fail]
    return .push (ops.length + 1) :: ops
  | .behind negated body => do
    let ops ← body.code (if negated then s.loose else s.inner)
    Coding.lookBehind negated body ops (s.reach body)
  | .seq a b => do
    let first := match b with
      | .seq c _ => c
      | c => c
    let next := first.headByte?.filter (· ≠ 0)
    let inRow := match a with
      | .seq .. => s.inner
      | _ => { s.inner with next }
    return (← a.code inRow) ++ (← b.code s.inner)
  | .alt a b => do
    let first ← a.code s.loose
    let second ← b.code s.loose
    return .push (first.length + 2) :: first ++ .jump (second.length + 1) :: second
  | .quantified b body => do
    let head := Node.turnByte? s.table b body
    let inside := if b.upper = some b.lower then s.inner else s.loose
    let ops ← body.code { inside with taken := head.isSome }
    let head := if s.taken then none else head
    let counter ← Coding.counter
    if Node.mayBeEmpty s.table b body then
      let check ← Coding.check
      let checked := .beginCheck check :: ops ++ [.endCheck check (s.checkedGroups b body)]
      return Coding.repetition b body ops checked head s.next counter
    else return Coding.repetition b body ops ops head s.next counter

structure Program where
  ops : Array (Op Nat)
  groups : Nat
  counters : Nat
  checks : Nat
  clue : Clue
  deriving Repr, Inhabited

def Program.ofNode (node : Node) (refs : List Nat) (groups : Nat) : Program :=
  let all : Surroundings := ⟨node.captures, refs, node.referenced, false, none, false⟩
  let (ops, supply) := (node.code all).run ⟨0, 0, 0⟩
  ⟨(Ops.place 0 (ops ++ [.accept])).toArray, groups, supply.counters, supply.checks,
   Clue.ofNode node refs⟩

def compile (cs : List Char) : Except Diagnostic Program := do
  let (node, groups) ← parse cs
  return Program.ofNode (← tuned node) node.referenced groups

end RegexHost.Pattern

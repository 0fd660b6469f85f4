import RegexHost.Text.CaseFold

/-! Sets of characters that one position of a text can hold. A byte that stands alone is told by its
value, a character of several bytes by its code. -/
namespace RegexHost.Pattern

structure CharSet where
  /-- Values of single bytes. -/
  bytes : CodeSet
  /-- Codes of longer characters. -/
  wide : CodeSet
  negated : Bool
  deriving DecidableEq, Repr, Inhabited

namespace CharSet

def firstWide : Nat := 0x80

def lastByte : Nat := 0xFF

def empty : CharSet :=
  ⟨[], [], false⟩

def ofCodes (codes : CodeSet) : CharSet :=
  ⟨codes.inter [(0, firstWide - 1)], codes.inter [(firstWide, CodeSet.lastCode)], false⟩

def compl (s : CharSet) : CharSet :=
  { s with negated := !s.negated }

def complIf (negated : Bool) (s : CharSet) : CharSet :=
  if negated then s.compl else s

/-- The same set, told by what it holds. -/
def plain (s : CharSet) : CharSet :=
  if s.negated then
    ⟨s.bytes.compl.inter [(0, lastByte)], (s.wide.insert 0 (firstWide - 1)).compl, false⟩
  else s

/-- The union of sets that are told by what they hold. -/
def union (s t : CharSet) : CharSet :=
  ⟨s.bytes.union t.bytes, s.wide.union t.wide, false⟩

/-- The intersection of sets that are told by what they hold. -/
def inter (s t : CharSet) : CharSet :=
  ⟨s.bytes.inter t.bytes, s.wide.inter t.wide, false⟩

def insertByte (b : Nat) (s : CharSet) : CharSet :=
  { s with bytes := s.bytes.insert b b }

def insertWide (n : Nat) (s : CharSet) : CharSet :=
  { s with wide := s.wide.insert n n }

def insertCode (n : Nat) (s : CharSet) : CharSet :=
  if n < firstWide then s.insertByte n else s.insertWide n

/-- The codes of a set. A byte that is no character by itself has none. -/
def codes (s : CharSet) : CodeSet :=
  (s.bytes.inter [(0, firstWide - 1)]).union (s.wide.inter [(firstWide, CodeSet.lastCode)])

/-- Adds whatever differs in case only. A negated set loses it. -/
def close (s : CharSet) : CharSet :=
  let t := ofCodes (CaseFold.close s.codes)
  { s with bytes := s.bytes.union t.bytes, wide := s.wide.union t.wide }

def single? (s : CharSet) : Option Nat :=
  if s.negated then none
  else match s.bytes.union s.wide with
    | [(lo, hi)] => if lo = hi then some lo else none
    | _ => none

/-- Whether the set tells characters of several bytes apart. -/
def tellsWide (s : CharSet) : Bool :=
  !s.wide.isEmpty

end RegexHost.Pattern.CharSet

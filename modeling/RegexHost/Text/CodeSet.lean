import RegexHost.Text.Category
import RegexHost.Text.Pieces

/-! Sets of code points as ascending ranges that neither meet nor touch. -/
namespace RegexHost

/-- Closed ranges. -/
abbrev CodeSet := List (Nat × Nat)

namespace CodeSet

def lastCode : Nat := 0x10FFFF

def contains : CodeSet → Nat → Bool
  | [], _ => false
  | (lo, hi) :: rest, c => if c < lo then false else c ≤ hi || contains rest c

/-- Adds a range, swallowing those it meets or touches. -/
def insert (lo hi : Nat) : CodeSet → CodeSet
  | [] => [(lo, hi)]
  | (l, h) :: rest =>
    if hi + 1 < l then (lo, hi) :: (l, h) :: rest
    else if h + 1 < lo then (l, h) :: insert lo hi rest
    else insert (min lo l) (max hi h) rest

def union (s t : CodeSet) : CodeSet :=
  t.foldl (fun acc r => insert r.1 r.2 acc) s

def ofRanges (rs : List (Nat × Nat)) : CodeSet :=
  union [] rs

/-- The codes from `start` on that are in no range. -/
def gaps (start : Nat) : CodeSet → CodeSet
  | [] => if start ≤ lastCode then [(start, lastCode)] else []
  | (lo, hi) :: rest =>
    if start < lo then (start, lo - 1) :: gaps (hi + 1) rest else gaps (hi + 1) rest

def compl (s : CodeSet) : CodeSet :=
  gaps 0 s

def inter (s t : CodeSet) : CodeSet :=
  compl (union (compl s) (compl t))

/-- Reads ranges and single codes in hexadecimal, parted by blanks. -/
def ofText (text : String) : CodeSet :=
  ((pieces ' ' (text.toList.map unbroken)).filter (!·.isEmpty)).map fun range =>
    match pieces '-' range with
    | [lo, hi] => (number lo, number hi)
    | _ => (number range, number range)
where
  unbroken (c : Char) : Char :=
    if c = '\n' then ' ' else c
  number (digits : List Char) : Nat :=
    digits.foldl (fun n c => n * 16 + Category.hexValue c) 0

def ofCategory (p : Category → Bool) : CodeSet :=
  ofRanges (Category.rangesOf p)

end RegexHost.CodeSet

import RegexHost.Pattern.Diagnostic
import RegexHost.Pattern.Syntax

/-! Quantifiers: what can be repeated, and how a repetition of a repetition is written as one. -/
namespace RegexHost.Pattern

/-- The six repetitions with a sign of their own. -/
inductive Sign
  | optional | star | plus | lazyOptional | lazyStar | lazyPlus
  deriving DecidableEq, Repr

def Bounds.sign? (b : Bounds) : Option Sign :=
  match b.lower, b.upper, b.greedy with
  | 0, some 1, true => some .optional
  | 0, none, true => some .star
  | 1, none, true => some .plus
  | 0, some 1, false => some .lazyOptional
  | 0, none, false => some .lazyStar
  | 1, none, false => some .lazyPlus
  | _, _, _ => none

def Sign.bounds : Sign → Bounds
  | optional => ⟨0, some 1, true⟩
  | star => ⟨0, none, true⟩
  | plus => ⟨1, none, true⟩
  | lazyOptional => ⟨0, some 1, false⟩
  | lazyStar => ⟨0, none, false⟩
  | lazyPlus => ⟨1, none, false⟩

/-- What becomes of two signs, the inner one first. -/
inductive Reduction
  | inner
  | one (s : Sign)
  | two (inner outer : Sign)
  | asIs

def reduction : Sign → Sign → Reduction
  | .optional, .optional => .inner
  | .optional, .star | .optional, .plus => .one .star
  | .optional, .lazyOptional => .one .lazyOptional
  | .optional, .lazyStar => .one .lazyStar
  | .optional, .lazyPlus => .asIs
  | .star, .lazyOptional | .star, .lazyStar => .two .plus .lazyOptional
  | .star, _ => .inner
  | .plus, .optional | .plus, .star => .one .star
  | .plus, .plus | .plus, .lazyPlus => .inner
  | .plus, .lazyOptional => .asIs
  | .plus, .lazyStar => .two .plus .lazyOptional
  | .lazyOptional, .optional | .lazyOptional, .lazyOptional => .inner
  | .lazyOptional, _ => .one .lazyStar
  | .lazyStar, _ => .inner
  | .lazyPlus, .optional => .asIs
  | .lazyPlus, .star => .one .star
  | .lazyPlus, .plus => .one .plus
  | .lazyPlus, .lazyPlus => .inner
  | .lazyPlus, .lazyOptional | .lazyPlus, .lazyStar => .one .lazyStar

/-- The outer bounds around a plain star or plus: a greedy finite repetition needs no more turns
than its least number. -/
def Bounds.around (outer : Bounds) (inner : Sign) : Bounds :=
  match inner, outer.upper with
  | .star, some n | .plus, some n =>
    if 1 < n && outer.greedy then
      { outer with upper := some (if outer.lower = 0 then 1 else outer.lower) }
    else outer
  | _, _ => outer

def turnLimit : Nat := 2147483647

/-- Repeats a repetition. Two signs are reduced; two fixed numbers multiply. -/
def requantify (outer inner : Bounds) (body : Node) : Except Diagnostic Node :=
  match inner.sign?, outer.sign? with
  | some i, some o =>
    match reduction i o with
    | .inner => .ok (.quantified inner body)
    | .one s => .ok (.quantified s.bounds body)
    | .two i' o' => .ok (.quantified o'.bounds (.quantified i'.bounds body))
    | .asIs => .ok (.quantified outer (.quantified inner body))
  | _, _ =>
    if inner.upper = some inner.lower ∧ outer.upper = some outer.lower then
      let n := outer.lower * inner.lower
      if n ≤ turnLimit then .ok (.quantified ⟨n, some n, outer.greedy⟩ body)
      else .error .repeatTooBig
    else .ok (.quantified outer (.quantified inner body))

def quantify (outer : Bounds) : Node → Except Diagnostic Node
  | .quantified inner body =>
    match inner.sign?, outer.sign? with
    | some i, none => requantify (outer.around i) inner body
    | _, _ => requantify outer inner body
  | node => .ok (.quantified outer node)

/-- Positions cannot be repeated, nor a choice that offers one. -/
def repeatable : Node → Bool
  | .anchor _ | .ahead .. | .behind .. | .keep => false
  | .alt a b => repeatable a && repeatable b
  | _ => true

end RegexHost.Pattern

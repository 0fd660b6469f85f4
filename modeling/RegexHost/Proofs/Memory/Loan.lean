import Mathlib.Data.Multiset.AddSub
import RegexHost.Proofs.Engine.Calls

/-! Memory that libraries lend to their host. An account of what is owed goes along a record of
calls: a block is owed from the call that lends it to the call that returns it, and only what is
owed can be returned. -/
namespace RegexHost

inductive Loan
  | message (m : Block Bytes)
  | captures (b : Block (List Int32))
  deriving DecidableEq, Repr

namespace Transfer

variable {α : Type}

def lent? : Transfer α → Option (Block α)
  | lent b => some b
  | returned _ => none

def returned? : Transfer α → Option (Block α)
  | lent _ => none
  | returned b => some b

@[simp] theorem bind_returned?_map_lent (b : Option (Block α)) :
    (b.map lent).bind returned? = none := by
  cases b <;> rfl

end Transfer

namespace Call

def lends (c : Call) : List Loan :=
  (c.message?.bind Transfer.lent?).toList.map .message ++
    (c.captures?.bind Transfer.lent?).toList.map .captures

def returns (c : Call) : List Loan :=
  (c.message?.bind Transfer.returned?).toList.map .message ++
    (c.captures?.bind Transfer.returned?).toList.map .captures

/-- A library lends a message only where it makes no handle, or reports neither a match nor that
there is none; it lends captures only with a match. -/
def Lawful : Call → Prop
  | compile _ reply | createString _ reply => reply.handle.isSome → reply.message = none
  | search _ _ _ _ reply | searchString _ _ _ _ reply =>
    (reply.status = Native.matched ∨ reply.status = Native.noMatch → reply.message = none) ∧
      (reply.status ≠ Native.matched → reply.buffer = none)
  | freeCaptures _ | freeError _ | freeRegex _ | freeString _ => True

/-- Calls that return what a call has lent, block by block as it was lent, and lend nothing. -/
structure GivenBack (c : Call) (back : List Call) : Prop where
  returns : back.flatMap Call.returns = c.lends
  lends : back.flatMap Call.lends = []

end Call

/-- What is owed to each engine's library after one more call. Only what is owed can be returned. -/
def owedAfter (owed : Multiset (EngineId × Loan)) (c : EngineId × Call) :
    Option (Multiset (EngineId × Loan)) :=
  let back : Multiset (EngineId × Loan) := c.2.returns.map fun l => (c.1, l)
  if back ≤ owed then some (owed - back + c.2.lends.map fun l => (c.1, l)) else none

def owed (calls : List (EngineId × Call)) : Option (Multiset (EngineId × Loan)) :=
  calls.foldlM owedAfter 0

/-- All that was lent was returned, once and while it was lent, and nothing else was returned. -/
def Settled (calls : List (EngineId × Call)) : Prop :=
  owed calls = some 0

instance (calls : List (EngineId × Call)) : Decidable (Settled calls) :=
  inferInstanceAs (Decidable (owed calls = some 0))

variable {e : EngineId} {c : Call} {back : List Call} {calls more : List (EngineId × Call)}

@[simp] theorem settled_nil : Settled [] :=
  rfl

theorem Settled.append (hs : Settled calls) (hm : Settled more) : Settled (calls ++ more) := by
  unfold Settled owed at *
  rw [List.foldlM_append, hs]
  exact hm

theorem owedAfter_of_lends_eq_nil (hl : c.lends = []) (more : Multiset (EngineId × Loan)) :
    owedAfter ((c.returns.map fun l => (e, l) : List (EngineId × Loan)) + more) (e, c) =
      some more := by
  rw [owedAfter, if_pos (Multiset.le_add_right _ _), add_tsub_cancel_left, hl]
  exact congrArg some (add_zero more)

/-- Calls that only return leave nothing owed of what they return. -/
theorem foldlM_owedAfter_of_lends_eq_nil (hl : back.flatMap Call.lends = []) :
    (back.map fun c => (e, c)).foldlM owedAfter
      (((back.flatMap Call.returns).map fun l => (e, l) : List (EngineId × Loan)) :
        Multiset (EngineId × Loan)) = some 0 := by
  induction back with
  | nil => rfl
  | cons c back ih =>
    rw [List.flatMap_cons, List.append_eq_nil_iff] at hl
    rw [List.map_cons, List.foldlM_cons, List.flatMap_cons, List.map_append, ← Multiset.coe_add,
      owedAfter_of_lends_eq_nil hl.1]
    exact ih hl.2

/-- A call that returns nothing itself, and the calls that give back what it has lent. -/
theorem Call.GivenBack.settled (h : c.GivenBack back) (hc : c.returns = []) :
    Settled ((c :: back).map fun c => (e, c)) := by
  unfold Settled owed
  have hlend : owedAfter 0 (e, c) =
      some ((c.lends.map fun l => (e, l) : List (EngineId × Loan))) := by
    rw [owedAfter, if_pos (by simp [hc]), hc]
    exact congrArg some (zero_add _)
  rw [List.map_cons, List.foldlM_cons, hlend, ← h.returns]
  exact foldlM_owedAfter_of_lends_eq_nil h.lends

/-- Every answer of every engine is lawful. -/
structure Libraries.Lawful {σ : Type} (libs : Libraries σ) : Prop where
  compile : ∀ e pattern s, (Call.compile pattern ((libs.compile e pattern).run s).1).Lawful
  createString : ∀ e text s, (Call.createString text ((libs.createString e text).run s).1).Lawful
  search : ∀ e p text offset options s,
    (Call.search p text offset options ((libs.search e p text offset options).run s).1).Lawful
  searchString : ∀ e p t offset options s,
    (Call.searchString p t offset options ((libs.searchString e p t offset options).run s).1).Lawful

namespace Engine

theorem givenBack_madeBack {made : Made} (hl : made.handle.isSome → made.message = none) {c : Call}
    (hc : c.lends = made.message.toList.map .message) : c.GivenBack (madeBack made) := by
  obtain ⟨_ | a, message⟩ := made
  · cases message with
    | none => exact ⟨hc.symm, rfl⟩
    | some m => exact ⟨hc.symm, rfl⟩
  · obtain rfl : message = none := hl rfl
    exact ⟨hc.symm, rfl⟩

theorem givenBack_foundBack {found : Found} {c : Call}
    (hl : found.status = Native.matched ∨ found.status = Native.noMatch → found.message = none)
    (hb : found.status ≠ Native.matched → found.buffer = none)
    (hc : c.lends = found.message.toList.map .message ++ found.buffer.toList.map .captures) :
    c.GivenBack (foundBack found) := by
  unfold foundBack
  split_ifs with hm hn
  · rw [hl (.inl hm)] at hc
    cases hf : found.buffer with
    | none => exact ⟨by rw [hc, hf]; rfl, rfl⟩
    | some b => exact ⟨by rw [hc, hf]; rfl, rfl⟩
  · rw [hl (.inr hn), hb hm] at hc
    exact ⟨hc.symm, rfl⟩
  · rw [hb hm] at hc
    cases hf : found.message with
    | none => exact ⟨by rw [hc, hf]; rfl, rfl⟩
    | some m => exact ⟨by rw [hc, hf]; rfl, rfl⟩

end Engine
end RegexHost

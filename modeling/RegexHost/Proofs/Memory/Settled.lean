import RegexHost.Proofs.Memory.Exchange
import RegexHost.Proofs.Session.Invariant

/-! Nothing that a lawful library lends is lost, returned twice or read too late. Each action gives
back what it was lent, so the account of a session is settled after each of its steps. -/
namespace RegexHost

variable {σ α ρ : Type}

namespace Engine

theorem Exchanges.keeps_settled {e : Engine} {request : StateM σ ρ} {call : ρ → Call}
    {result : ρ → α} {x : Host σ α} (hx : e.Exchanges request call result x)
    (hc : ∀ reply, (call reply).returns = []) : Host.Keeps (fun h => Settled h.calls) x := by
  intro s hs
  obtain ⟨back, hrun, hback⟩ := hx s
  rw [hrun]
  exact hs.append (hback.settled (hc _))

end Engine

open Engine (outcome answer)

/-- What actions of engines, and of what is bound to them, do with what their libraries lend
them. -/
structure Libraries.Returned (libs : Libraries σ) : Prop where
  compile : ∀ (e : Engine) pattern,
    e.Exchanges (libs.compile e.id pattern) (.compile pattern) (outcome .mk .compile)
    (e.compile libs pattern)
  internText : ∀ (e : Engine) text,
    e.Exchanges (libs.createString e.id text) (.createString text)
      (outcome (fun h => ⟨h, text.length⟩) .native) (e.internText libs text)
  search : ∀ (e : Engine) (p : PatternHandle) (text : Bytes) offset options, offset ≤ text.length →
    e.Exchanges (libs.search e.id p.address text offset options)
      (.search p.address text offset options) answer (e.search libs p text offset options)
  searchText : ∀ (e : Engine) (p : PatternHandle) (t : TextHandle) offset options,
    offset ≤ t.length → e.Exchanges (libs.searchString e.id p.address t.address offset options)
      (.searchString p.address t.address offset options) answer
      (e.searchText libs p t offset options)
  make : ∀ (e : Engine) (pattern : String), let bytes := Utf8.encode pattern.toList
    e.Exchanges (libs.compile e.id bytes) (.compile bytes)
      (fun made => (outcome .mk .compile made).map (Regex.mk e)) (Regex.make libs e pattern)
  makeText : ∀ (e : Engine) (text : UnitText),
    e.Exchanges (libs.createString e.id text.bytes) (.createString text.bytes)
      (fun made => (outcome (fun h => ⟨h, text.bytes.length⟩) .native made).map
        (InternedText.mk e · text))
      (InternedText.make libs e text)
  inUnits : ∀ (r : Regex) (text : UnitText) offset options, offset ≤ text.length →
    let start := text.byteOffset offset
    r.engine.Exchanges (libs.search r.engine.id r.handle.address text.bytes start options)
      (.search r.handle.address text.bytes start options)
      (fun found => Regex.inUnits text (answer found))
      (r.search libs text offset options)
  interned : ∀ (r : Regex) (e : Engine) (text : UnitText) (t : InternedText) offset options s,
    ((InternedText.make libs e text).run s).1 = .ok t → r.engine.id = e.id → offset ≤ text.length →
    let start := text.byteOffset offset
    r.engine.Exchanges
      (libs.searchString r.engine.id r.handle.address t.handle.address start options)
      (.searchString r.handle.address t.handle.address start options)
      (fun found => Regex.inUnits text (answer found)) (r.searchInterned libs t offset options)
  findAll : ∀ (r : Regex) (text : UnitText) options turns s,
    ∃ searches, r.GivesBack options text searches s ((r.findAll libs text options turns).run s).2 ∧
      ∀ result, ((r.findAll libs text options turns).run s).1 = some result →
        result = Regex.gather text (searches.map fun x => x.2.1)

theorem Regex.make_eq (libs : Libraries σ) (e : Engine) (pattern : String) :
    Regex.make libs e pattern =
      Except.map (Regex.mk e) <$> e.compile libs (Utf8.encode pattern.toList) := by
  rw [make, map_eq_pure_bind]
  congr
  funext made
  cases made <;> rfl

theorem InternedText.make_eq (libs : Libraries σ) (e : Engine) (text : UnitText) :
    InternedText.make libs e text = Except.map (InternedText.mk e · text) <$>
      e.internText libs text.bytes := by
  rw [make, map_eq_pure_bind]
  congr
  funext made
  cases made <;> rfl

namespace Libraries.Lawful

variable {libs : Libraries σ} (hl : libs.Lawful)
include hl

theorem returned : libs.Returned where
  compile := Engine.exchanges_compile hl
  internText := Engine.exchanges_internText hl
  search e p _ _ options := Engine.exchanges_search hl e p options
  searchText e p _ _ options := Engine.exchanges_searchText hl e p options
  make e pattern := Regex.make_eq libs e pattern ▸ (Engine.exchanges_compile hl e _).map _
  makeText e text := InternedText.make_eq libs e text ▸ (Engine.exchanges_internText hl e _).map _
  inUnits r _ _ options := Regex.exchanges_search hl r options
  interned r e text t offset options s ht he ho := by
    obtain ⟨rfl, rfl, hb⟩ := InternedText.make_eq_ok ht
    exact Regex.exchanges_searchInterned hl r options he hb ho
  findAll r text options turns := Regex.findFrom_gives_back hl r options text turns 0

theorem keep_settled : libs.Keep fun h => Settled h.calls where
  search e p text offset options := by
    rcases Nat.lt_or_ge text.length offset with h | h
    · intro s hs
      rw [Engine.search_run_of_lt libs e s p options h]
      exact hs
    · exact (Engine.exchanges_search hl e p options h).keeps_settled fun _ => by
        simp [Call.returns, Call.message?, Call.captures?]
  searchText e p t offset options := by
    rcases Nat.lt_or_ge t.length offset with h | h
    · intro s hs
      rw [Engine.searchText_run_of_lt libs e s p options h]
      exact hs
    · exact (Engine.exchanges_searchText hl e p options h).keeps_settled fun _ => by
        simp [Call.returns, Call.message?, Call.captures?]

theorem invariant_settled : Session.Invariant libs fun _ h => Settled h.calls := by
  apply Session.Invariant.of_host hl.keep_settled
  case hc =>
    exact fun e pattern => (Engine.exchanges_compile hl e pattern).keeps_settled fun _ => by
      simp [Call.returns, Call.message?, Call.captures?]
  case ht =>
    exact fun e text => (Engine.exchanges_internText hl e text).keeps_settled fun _ => by
      simp [Call.returns, Call.message?, Call.captures?]
  case hr =>
    intro e p s hs
    have hfree : (Call.freeRegex p.address).GivenBack [] := ⟨rfl, rfl⟩
    exact hs.append (hfree.settled rfl)
  case hrt =>
    intro e t s hs
    have hfree : (Call.freeString t.address).GivenBack [] := ⟨rfl, rfl⟩
    exact hs.append (hfree.settled rfl)

end Libraries.Lawful

/-- What an action is lent it reads and then returns, all of it and only that. So after any steps of
a session nothing is owed, and nothing is once all is dropped. -/
theorem Session.run_settled {libs : Libraries σ} (hl : libs.Lawful) :
    libs.Returned ∧ ∀ extra engines steps libraries,
      Settled (((steps.mapM (step libs extra)).run.run ⟨engines, []⟩).run ⟨libraries, []⟩).2.calls ∧
      Settled ((run libs extra engines steps).run ⟨libraries, []⟩).2.calls := by
  refine ⟨hl.returned, fun extra engines steps libraries => ?_⟩
  have hi := hl.invariant_settled
  exact ⟨(hi.holds_steps (.start engines settled_nil) extra steps).holds,
    hi.holds_run extra engines steps settled_nil⟩

namespace Linked

open Native

theorem Replies.lawful {heap : Heap ρ} {work : Work (Option Region)} {ran : Found × Heap ρ}
    (h : Replies heap work ran) :
    (ran.1.status = Native.matched ∨ ran.1.status = Native.noMatch → ran.1.message = none) ∧
      (ran.1.status ≠ Native.matched → ran.1.buffer = none) := by
  cases h with
  | fault hf =>
    refine ⟨fun h => ?_, fun _ => rfl⟩
    rcases h with h | h <;> cases h
  | noMatch => exact ⟨fun _ => rfl, fun _ => rfl⟩
  | matched => exact ⟨fun _ => rfl, fun h => absurd rfl h⟩

/-- The engine that is part of the program keeps the rules, whatever engine is inside. -/
theorem lawful (core : Core ρ) : (libraries core).Lawful where
  compile e pattern heap := by
    change ((compile core pattern).run heap).1.handle.isSome →
      ((compile core pattern).run heap).1.message = none
    cases hw : compileWork core (.given pattern) with
    | returned regex => rw [compile_run_of_returned core heap hw]; exact fun _ => rfl
    | failed f => rw [compile_run_of_fault core heap (f := f) (by rw [hw]; rfl)]; nofun
    | crashed p => rw [compile_run_of_fault core heap (f := .ofPayload p) (by rw [hw]; rfl)]; nofun
  createString e text heap := by
    change ((createString text).run heap).1.handle.isSome →
      ((createString text).run heap).1.message = none
    cases ht : Utf8.fault? text with
    | none => rw [createString_run heap ht]; exact fun _ => rfl
    | some f => rw [createString_run_of_fault heap (textWork_of_fault ht)]; nofun
  search e p text offset options heap := (replies_search core heap p text offset options).lawful
  searchString e p t offset options heap :=
    (replies_searchString core heap p t offset options).lawful

end Linked

/-- An engine that refuses the empty pattern, finds one byte where a text begins and crashes
anywhere else. -/
def Native.Core.brittle : Native.Core Unit where
  compile cs := if cs = [] then .failed (.engine "empty") else .returned ()
  search _ _ offset _ _ := if offset = 0 then .returned (some [some (0, 1)])
    else .crashed (.text "late")

/-- A refused pattern, a search and a scan that crashes after its first match: two messages and two
buffers go to the host and back. -/
theorem Session.run_settled_brittle :
    let steps : List Step := [.regex 0 "q" "", .regex 0 "r" "a",
      .interned 0 "t" (.ofUnits [0x61, 0x62]),
      .findInterned "r" "t" 0 .standard, .findAll "r" (.ofUnits [0x61, 0x62]) .standard]
    let calls := ((run (Linked.libraries .brittle) 0 [⟨0, false⟩] steps).run ⟨.empty, []⟩).2.calls
    (calls.flatMap fun c => c.2.lends).length = 4 ∧
      (calls.flatMap fun c => c.2.returns).length = 4 ∧ Settled calls := by
  intro steps calls
  refine ⟨?_, ?_, ((run_settled (Linked.lawful .brittle)).2 0 [⟨0, false⟩] steps .empty).2⟩
  · decide +kernel
  · decide +kernel

end RegexHost

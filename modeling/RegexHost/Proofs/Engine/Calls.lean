import RegexHost.Engine.Facade
import Mathlib.Tactic

/-! What each action of an engine comes to: its result, and the native calls that it adds to the
record. -/
namespace RegexHost

variable {σ : Type}

/-- The state after calls to one engine, the libraries being in a new state. -/
def HostState.called (s : HostState σ) (engine : EngineId) (libraries : σ) (calls : List Call) :
    HostState σ :=
  ⟨libraries, s.calls ++ calls.map fun c => (engine, c)⟩

theorem HostState.called_called (s : HostState σ) (engine : EngineId) (l l' : σ)
    (cs cs' : List Call) :
    (s.called engine l cs).called engine l' cs' = s.called engine l' (cs ++ cs') := by
  simp [called]

theorem HostState.called_nil (s : HostState σ) (engine : EngineId) :
    s.called engine s.libraries [] = s := by
  simp [called]

section

variable {α : Type} {transfer? : Call → Option (Transfer (List α))} {s : HostState σ}

/-- The memory of a block, if there is one, still has what it was lent with. -/
def HostState.Holds (s : HostState σ) (transfer? : Call → Option (Transfer (List α)))
    (b : Option (Block (List α))) : Prop :=
  ∀ m ∈ b, heldAt transfer? m.address s.calls = some m.content

/-- Memory that the last call lent is still there. -/
theorem HostState.holds_called (s : HostState σ) (engine : EngineId) (libraries : σ) {c : Call}
    {b : Option (Block (List α))} (hc : transfer? c = b.map .lent) :
    (s.called engine libraries [c]).Holds transfer? b := by
  rintro m ⟨⟩
  rw [Option.map_some] at hc
  rw [called, List.map_singleton, heldAt, List.foldl_concat, hc, Option.elim_some, Transfer.leaves,
    if_pos rfl]

theorem HostState.Holds.read_run {m : Block (List α)} (h : s.Holds transfer? (some m)) :
    (Host.read transfer? m.address).run s = (m.content, s) := by
  have hm : heldAt transfer? m.address s.calls = some m.content := h m rfl
  change ((heldAt transfer? m.address s.calls).getD [], s) = _
  rw [hm, Option.getD_some]

end

namespace Engine

def messageOf : Option (Block Bytes) → String
  | none => unknownMessage
  | some m => messageText m.content

def matchOf : Option (Block (List Int32)) → Match
  | none => .empty
  | some b => .ofFlat b.content

/-- A refusal's message is given back, and nothing is when a handle was made. -/
def madeBack (made : Made) : List Call :=
  match made.handle with
  | some _ => []
  | none => made.message.toList.map .freeError

def foundBack (found : Found) : List Call :=
  if found.status = Native.matched then [.freeCaptures found.buffer]
  else if found.status = Native.noMatch then []
  else found.message.toList.map .freeError

def answer (found : Found) : Except Error (Option Match) :=
  if found.status = Native.matched then
    .ok (some (matchOf found.buffer))
  else if found.status = Native.noMatch then .ok none
  else .error (.native (messageOf found.message))

variable (libs : Libraries σ) (e : Engine) (s : HostState σ)

variable {s} in
theorem takeMessage_run {m : Option (Block Bytes)} (hm : s.Holds Call.message? m) :
    (e.takeMessage m).run s =
      (messageOf m, s.called e.id s.libraries (m.toList.map .freeError)) := by
  cases m with
  | none =>
    rw [Option.toList_none, List.map_nil, HostState.called_nil]
    rfl
  | some m =>
    rw [takeMessage, StateT.run_bind, hm.read_run]
    rfl

variable {s} in
theorem readMatch_run {b : Option (Block (List Int32))} (hb : s.Holds Call.captures? b) :
    (readMatch b).run s = (matchOf b, s) := by
  cases b with
  | none => rfl
  | some b =>
    rw [readMatch, StateT.run_bind, hb.read_run]
    rfl

variable {s} in
theorem collect_run {found : Found} (hb : s.Holds Call.captures? found.buffer)
    (hm : s.Holds Call.message? found.message) :
    (e.collect found).run s = (answer found, s.called e.id s.libraries (foundBack found)) := by
  unfold collect answer foundBack
  split_ifs with h1 h2
  · rw [StateT.run_bind, readMatch_run hb]
    rfl
  · rw [HostState.called_nil]
    rfl
  · rw [StateT.run_bind, takeMessage_run e hm]
    rfl

variable {s} in
/-- How the making of a handle ends, for patterns and for texts. -/
theorem made_run {α : Type} {made : Made} (hm : s.Holds Call.message? made.message) (ok : Nat → α)
    (refused : String → Error) :
    StateT.run (match made.handle with
      | some h => (return .ok (ok h) : Host σ (Except Error α))
      | none => return .error (refused (← e.takeMessage made.message))) s =
      (match made.handle with
        | some h => .ok (ok h)
        | none => .error (refused (messageOf made.message)),
      s.called e.id s.libraries (madeBack made)) := by
  unfold madeBack
  cases made.handle with
  | some h =>
    dsimp only
    rw [HostState.called_nil]
    rfl
  | none =>
    dsimp only
    rw [StateT.run_bind, takeMessage_run e hm]
    rfl

theorem compile_run (pattern : Bytes) :
    let ran := (libs.compile e.id pattern).run s.libraries
    (e.compile libs pattern).run s =
      (match ran.1.handle with
        | some h => .ok ⟨h⟩
        | none => .error (.compile (messageOf ran.1.message)),
      s.called e.id ran.2 (.compile pattern ran.1 :: madeBack ran.1)) := by
  intro ran
  have hm := made_run e (s.holds_called e.id ran.2 (c := .compile pattern ran.1) rfl)
    PatternHandle.mk .compile
  rw [HostState.called_called] at hm
  exact hm

theorem internText_run (text : Bytes) :
    let ran := (libs.createString e.id text).run s.libraries
    (e.internText libs text).run s =
      (match ran.1.handle with
        | some h => .ok ⟨h, text.length⟩
        | none => .error (.native (messageOf ran.1.message)),
      s.called e.id ran.2 (.createString text ran.1 :: madeBack ran.1)) := by
  intro ran
  have hm := made_run e (s.holds_called e.id ran.2 (c := .createString text ran.1) rfl)
    (fun h => TextHandle.mk h text.length) .native
  rw [HostState.called_called] at hm
  exact hm

theorem release_run (p : PatternHandle) :
    (e.release libs p).run s =
      ((), s.called e.id ((libs.freeRegex e.id p.address).run s.libraries).2
        [.freeRegex p.address]) :=
  rfl

theorem releaseText_run (t : TextHandle) :
    (e.releaseText libs t).run s =
      ((), s.called e.id ((libs.freeString e.id t.address).run s.libraries).2
        [.freeString t.address]) :=
  rfl

theorem checkOffset_eq_error {offset length : Nat} (h : length < offset) :
    checkOffset offset length = .error (.offsetOutOfBounds offset length) :=
  if_pos h

theorem checkOffset_eq_ok {offset length : Nat} (h : offset ≤ length) :
    checkOffset offset length = .ok () :=
  if_neg (Nat.not_lt.mpr h)

variable (p : PatternHandle) {offset : Nat} (options : SearchOptions)

theorem search_run_of_lt {text : Bytes} (h : text.length < offset) :
    (e.search libs p text offset options).run s =
      (.error (.offsetOutOfBounds offset text.length), s) := by
  rw [search, checkOffset_eq_error h]
  rfl

theorem search_run {text : Bytes} (h : offset ≤ text.length) :
    let ran := (libs.search e.id p.address text offset options).run s.libraries
    (e.search libs p text offset options).run s =
      (answer ran.1, s.called e.id ran.2
        (.search p.address text offset options ran.1 :: foundBack ran.1)) := by
  intro ran
  rw [search, checkOffset_eq_ok h]
  change (e.collect ran.1).run
    (s.called e.id ran.2 [.search p.address text offset options ran.1]) = _
  rw [collect_run e (s.holds_called e.id _ rfl) (s.holds_called e.id _ rfl),
    HostState.called_called]
  rfl

theorem searchText_run_of_lt {t : TextHandle} (h : t.length < offset) :
    (e.searchText libs p t offset options).run s =
      (.error (.offsetOutOfBounds offset t.length), s) := by
  rw [searchText, checkOffset_eq_error h]
  rfl

theorem searchText_run {t : TextHandle} (h : offset ≤ t.length) :
    let ran := (libs.searchString e.id p.address t.address offset options).run s.libraries
    (e.searchText libs p t offset options).run s =
      (answer ran.1, s.called e.id ran.2
        (.searchString p.address t.address offset options ran.1 :: foundBack ran.1)) := by
  intro ran
  rw [searchText, checkOffset_eq_ok h]
  change (e.collect ran.1).run
    (s.called e.id ran.2 [.searchString p.address t.address offset options ran.1]) = _
  rw [collect_run e (s.holds_called e.id _ rfl) (s.holds_called e.id _ rfl),
    HostState.called_called]
  rfl

end Engine
end RegexHost

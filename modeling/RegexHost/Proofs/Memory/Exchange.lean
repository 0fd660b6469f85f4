import RegexHost.Proofs.Memory.Loan
import RegexHost.Proofs.Search.Checks
import RegexHost.Proofs.Search.Scan

/-! Exchanges with lawful libraries. An action of an engine makes one call, reads what is lent, and
returns it before it ends. -/
namespace RegexHost

variable {σ α β ρ : Type}

namespace Engine

/-- The action makes one request of the engine's library. Its result is what `result` finds in the
reply as it was lent, and by its end all that was lent is returned. -/
def Exchanges (e : Engine) (request : StateM σ ρ) (call : ρ → Call) (result : ρ → α)
    (x : Host σ α) : Prop :=
  ∀ s, let ran := request.run s.libraries
    ∃ back, x.run s = (result ran.1, s.called e.id ran.2 (call ran.1 :: back)) ∧
      (call ran.1).GivenBack back

/-- What the making of a handle comes to. -/
def outcome (ok : Nat → α) (refused : String → Error) (made : Made) : Except Error α :=
  match made.handle with
  | some h => .ok (ok h)
  | none => .error (refused (messageOf made.message))

theorem Exchanges.map {e : Engine} {request : StateM σ ρ} {call : ρ → Call} {result : ρ → α}
    {x : Host σ α} (hx : e.Exchanges request call result x) (f : α → β) :
    e.Exchanges request call (fun r => f (result r)) (f <$> x) := by
  intro s
  obtain ⟨back, hrun, hback⟩ := hx s
  refine ⟨back, ?_, hback⟩
  rw [StateT.run_map, hrun]
  rfl

variable {libs : Libraries σ} (hl : libs.Lawful) (e : Engine)
include hl

theorem exchanges_compile (pattern : Bytes) :
    e.Exchanges (libs.compile e.id pattern) (.compile pattern) (outcome PatternHandle.mk .compile)
      (e.compile libs pattern) :=
  fun s => ⟨_, compile_run libs e s pattern,
    givenBack_madeBack (hl.compile e.id pattern s.libraries)
    (by rw [Call.lends, Call.message?, Call.captures?]; cases Made.message _ <;> rfl)⟩

theorem exchanges_internText (text : Bytes) :
    e.Exchanges (libs.createString e.id text) (.createString text)
      (outcome (fun h => ⟨h, text.length⟩) .native) (e.internText libs text) :=
  fun s => ⟨_, internText_run libs e s text,
    givenBack_madeBack (hl.createString e.id text s.libraries)
    (by rw [Call.lends, Call.message?, Call.captures?]; cases Made.message _ <;> rfl)⟩

variable (p : PatternHandle) {offset : Nat} (options : SearchOptions)

theorem exchanges_search {text : Bytes} (h : offset ≤ text.length) :
    e.Exchanges (libs.search e.id p.address text offset options)
      (.search p.address text offset options) answer (e.search libs p text offset options) := by
  intro s
  have hlaw := hl.search e.id p.address text offset options s.libraries
  refine ⟨_, search_run libs e s p options h, givenBack_foundBack hlaw.1 hlaw.2 ?_⟩
  rw [Call.lends, Call.message?, Call.captures?]
  cases Found.message _ <;> cases Found.buffer _ <;> rfl

theorem exchanges_searchText {t : TextHandle} (h : offset ≤ t.length) :
    e.Exchanges (libs.searchString e.id p.address t.address offset options)
      (.searchString p.address t.address offset options) answer
        (e.searchText libs p t offset options) := by
  intro s
  have hlaw := hl.searchString e.id p.address t.address offset options s.libraries
  refine ⟨_, searchText_run libs e s p options h, givenBack_foundBack hlaw.1 hlaw.2 ?_⟩
  rw [Call.lends, Call.message?, Call.captures?]
  cases Found.message _ <;> cases Found.buffer _ <;> rfl

end Engine

open Engine (Exchanges answer foundBack outcome)

/-- What the replies to the searches of a scan come to, one after the other. -/
def Regex.gather (text : UnitText) : List Found → Except Error (List Match)
  | [] => .ok []
  | reply :: rest =>
    match inUnits text (answer reply) with
    | .error f => .error f
    | .ok none => .ok []
    | .ok (some m) =>
      match m.whole?.bind Capture.range? with
      | none => .ok []
      | some _ => (gather text rest).map (m :: ·)

namespace Regex

variable {libs : Libraries σ} (hl : libs.Lawful) (r : Regex) (options : SearchOptions)
include hl

theorem exchanges_search {text : UnitText} {offset : Nat} (h : offset ≤ text.length) :
    r.engine.Exchanges
      (libs.search r.engine.id r.handle.address text.bytes (text.byteOffset offset) options)
      (.search r.handle.address text.bytes (text.byteOffset offset) options)
      (fun found => inUnits text (answer found)) (r.search libs text offset options) := by
  rw [search_eq libs r options text h]
  exact (Engine.exchanges_search hl r.engine r.handle options (byteOffset_le h).1).map _

theorem exchanges_searchInterned {t : InternedText} (ht : r.engine.id = t.engine.id)
    (hb : t.handle.length = t.text.bytes.length) {offset : Nat} (h : offset ≤ t.text.length) :
    r.engine.Exchanges
      (libs.searchString r.engine.id r.handle.address t.handle.address
        (t.text.byteOffset offset) options)
      (.searchString r.handle.address t.handle.address (t.text.byteOffset offset) options)
      (fun found => inUnits t.text (answer found)) (r.searchInterned libs t offset options) := by
  rw [searchInterned_eq libs r options t ht h]
  exact (Engine.exchanges_searchText hl r.engine r.handle options (hb ▸ (byteOffset_le h).1)).map _

/-- Some searches in a row, where each one begins, what is replied and what is called then: each
gives back what it was lent before the next one begins. -/
structure GivesBack (text : UnitText) (searches : List (Nat × Found × List Call))
    (s s' : HostState σ) : Prop where
  calls : s'.calls = s.calls ++ searches.flatMap fun x =>
    (Call.search r.handle.address text.bytes x.1 options x.2.1 :: x.2.2).map fun c =>
      (r.engine.id, c)
  back : ∀ x ∈ searches, (Call.search r.handle.address text.bytes x.1 options x.2.1).GivenBack x.2.2

omit hl in
theorem givesBack_nil (text : UnitText) (s : HostState σ) : r.GivesBack options text [] s s :=
  ⟨(List.append_nil _).symm, nofun⟩

omit hl in
theorem GivesBack.cons {r : Regex} {options : SearchOptions} {text : UnitText} {b : Nat}
    {found : Found} {back : List Call} {searches : List (Nat × Found × List Call)}
    {s s' : HostState σ} {libraries : σ}
    (hg : r.GivesBack options text searches
      (s.called r.engine.id libraries
        (.search r.handle.address text.bytes b options found :: back)) s')
    (hb : (Call.search r.handle.address text.bytes b options found).GivenBack back) :
    r.GivesBack options text ((b, found, back) :: searches) s s' where
  calls := by
    rw [hg.calls, HostState.called, List.flatMap_cons, List.append_assoc]
  back := List.forall_mem_cons.mpr ⟨hb, hg.back⟩

/-- The result of a scan is gathered from the replies. -/
theorem findFrom_gives_back (text : UnitText) (turns offset : Nat) (s : HostState σ) :
    ∃ searches, r.GivesBack options text searches s
        ((r.findFrom libs text options turns offset).run s).2 ∧
      ∀ result, ((r.findFrom libs text options turns offset).run s).1 = some result →
        result = gather text (searches.map fun x => x.2.1) := by
  induction turns generalizing offset s with
  | zero =>
    refine ⟨[], r.givesBack_nil options text s, fun result hr => ?_⟩
    change (if text.length < offset then some (.ok []) else none) = some result at hr
    split_ifs at hr
    exact (Option.some.inj hr).symm
  | succ turns ih =>
    rcases Nat.lt_or_ge text.length offset with h | h
    · rw [findFrom, if_pos h]
      exact ⟨[], r.givesBack_nil options text s, fun result hr => (Option.some.inj hr).symm⟩
    · obtain ⟨back, hrun, hback⟩ := exchanges_search hl r options h s
      rw [findFrom_run libs r options h, hrun]
      generalize (libs.search r.engine.id r.handle.address text.bytes _ options).run s.libraries =
        ran at hback ⊢
      obtain ⟨found, libraries⟩ := ran
      dsimp only at hback ⊢
      have hone := (r.givesBack_nil options text (s.called r.engine.id libraries _)).cons hback
      rcases hin : inUnits text (answer found) with f | _ | m
      · refine ⟨_, hone, fun result hr => ?_⟩
        rw [List.map_singleton, gather, hin]
        exact (Option.some.inj hr).symm
      · refine ⟨_, hone, fun result hr => ?_⟩
        rw [List.map_singleton, gather, hin]
        exact (Option.some.inj hr).symm
      · rw [turn]
        cases hw : m.whole?.bind Capture.range? with
        | none =>
          refine ⟨_, hone, fun result hr => ?_⟩
          rw [List.map_singleton, gather, hin]
          simp only [hw]
          exact (Option.some.inj hr).symm
        | some range =>
          obtain ⟨searches, hg, hresult⟩ :=
            ih (nextOffset text range.1 range.2) (s.called r.engine.id libraries _)
          refine ⟨_, hg.cons hback, fun result hr => ?_⟩
          obtain ⟨rest, hrest, rfl⟩ := Option.map_eq_some_iff.mp hr
          rw [List.map_cons, gather, hin]
          simp only [hw]
          rw [← hresult rest hrest]

end Regex
end RegexHost

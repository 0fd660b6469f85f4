import RegexHost.Proofs.Engine.Calls
import RegexHost.Proofs.Ownership.Ledger

/-! What each action of an engine or a wrapper does with handles: it makes one, passes some or frees
one. -/
namespace RegexHost

open Session (Item)

variable {σ α β : Type}

namespace Host

/-- The action makes a handle of the engine, which what it returns has, or it fails and makes
none. -/
def Makes (e : EngineId) (x : Host σ (Except Error α)) (owner : α → Item) : Prop :=
  ∀ s, (∃ a h, (x.run s).1 = .ok a ∧ (owner a).handle? e = some h ∧
      uses (x.run s).2.calls = uses s.calls ++ [.made h]) ∨
    ∃ f, (x.run s).1 = .error f ∧ uses (x.run s).2.calls = uses s.calls

/-- All that the action does with handles is to pass some of `hs`. -/
def Passes (x : Host σ α) (hs : List Handle) : Prop :=
  ∀ s, ∃ ps ⊆ hs, uses (x.run s).2.calls = uses s.calls ++ ps.map .passed

def Frees (x : Host σ α) (hs : List Handle) : Prop :=
  ∀ s, uses (x.run s).2.calls = uses s.calls ++ hs.map .freed

/-- What makes a wrapper makes what is inside. -/
theorem Makes.bind {e : EngineId} {x : Host σ (Except Error α)} {owner : α → Item}
    (hx : Makes e x owner) {g : Except Error α → Host σ (Except Error β)} {f : α → β}
    {owner' : β → Item} (hok : ∀ a, g (.ok a) = pure (.ok (f a)))
    (herror : ∀ e, g (.error e) = pure (.error e))
    (ho : ∀ a, (owner' (f a)).handle? e = (owner a).handle? e) : Makes e (x >>= g) owner' := by
  intro s
  have hrun : (x >>= g).run s = (g (x.run s).1).run (x.run s).2 := rfl
  rcases hx s with ⟨a, h, ha, hh, hu⟩ | ⟨f', hf, hu⟩
  · rw [hrun, ha, hok]
    exact .inl ⟨f a, h, rfl, (ho a).trans hh, hu⟩
  · rw [hrun, hf, herror]
    exact .inr ⟨f', rfl, hu⟩

namespace Passes

variable {x : Host σ α} {hs : List Handle}

theorem pure (a : α) : Passes (Pure.pure a : Host σ α) hs :=
  fun s => ⟨[], List.nil_subset hs, (List.append_nil (uses s.calls)).symm⟩

theorem bind (hx : Passes x hs) {f : α → Host σ β} (hf : ∀ a, Passes (f a) hs) :
    Passes (x >>= f) hs := by
  intro s
  obtain ⟨ps, hps, hu⟩ := hx s
  obtain ⟨qs, hqs, hv⟩ := hf (x.run s).1 (x.run s).2
  refine ⟨ps ++ qs, List.append_subset.mpr ⟨hps, hqs⟩, ?_⟩
  rw [StateT.run_bind, List.map_append, ← List.append_assoc, ← hu]
  exact hv

end Passes

/-- The action does not ask a wrapper for a handle that is not there. -/
structure Asks (x : Host σ (Option α)) (hs : List Handle) : Prop where
  answers : ∀ s, (x.run s).1.isSome
  passes : Passes x hs

theorem Passes.asks {x : Host σ α} {hs : List Handle} (hx : Passes x hs) :
    Asks (do return some (← x)) hs :=
  ⟨fun _ => rfl, hx.bind fun _ => .pure _⟩

theorem Asks.pure (a : α) (hs : List Handle) : Asks (Pure.pure (some a) : Host σ (Option α)) hs :=
  ⟨fun _ => rfl, .pure _⟩

end Host

open Host (Makes Passes Frees Asks)

theorem uses_called (s : HostState σ) (e : EngineId) (libraries : σ) (calls : List Call) :
    uses (s.called e libraries calls).calls = uses s.calls ++ calls.flatMap (Call.uses e) := by
  rw [HostState.called, uses_append, uses, uses, List.flatMap_map]

namespace Engine

variable (libs : Libraries σ) (e : Engine)

theorem uses_madeBack (made : Made) : (madeBack made).flatMap (Call.uses e.id) = [] := by
  unfold madeBack
  cases made.handle with
  | some h => rfl
  | none => cases made.message <;> rfl

theorem uses_foundBack (found : Found) : (foundBack found).flatMap (Call.uses e.id) = [] := by
  unfold foundBack
  split_ifs
  · rfl
  · rfl
  · cases found.message <;> rfl

theorem makes_compile (pattern : Bytes) : Makes e.id (e.compile libs pattern) .pattern := by
  intro s
  rw [compile_run, uses_called, List.flatMap_cons, uses_madeBack, List.append_nil]
  cases hm : ((libs.compile e.id pattern).run s.libraries).1.handle with
  | some a => exact .inl ⟨⟨a⟩, ⟨e.id, .pattern, a⟩, rfl, rfl, by rw [Call.uses, hm]; rfl⟩
  | none => exact .inr ⟨_, rfl, by rw [Call.uses, hm]; exact List.append_nil _⟩

theorem makes_internText (text : Bytes) : Makes e.id (e.internText libs text) .text := by
  intro s
  rw [internText_run, uses_called, List.flatMap_cons, uses_madeBack, List.append_nil]
  cases hm : ((libs.createString e.id text).run s.libraries).1.handle with
  | some a => exact .inl ⟨⟨a, text.length⟩, ⟨e.id, .text, a⟩, rfl, rfl, by rw [Call.uses, hm]; rfl⟩
  | none => exact .inr ⟨_, rfl, by rw [Call.uses, hm]; exact List.append_nil _⟩

theorem frees_release (p : PatternHandle) :
    Frees (e.release libs p) [⟨e.id, .pattern, p.address⟩] := by
  intro s
  rw [release_run, uses_called]
  rfl

theorem frees_releaseText (t : TextHandle) :
    Frees (e.releaseText libs t) [⟨e.id, .text, t.address⟩] := by
  intro s
  rw [releaseText_run, uses_called]
  rfl

variable (p : PatternHandle) (offset : Nat) (options : SearchOptions)

theorem passes_search (text : Bytes) :
    Passes (e.search libs p text offset options) [⟨e.id, .pattern, p.address⟩] := by
  intro s
  rcases Nat.lt_or_ge text.length offset with h | h
  · rw [search_run_of_lt libs e s p options h]
    exact ⟨[], List.nil_subset _, (List.append_nil _).symm⟩
  · rw [search_run libs e s p options h, uses_called, List.flatMap_cons, uses_foundBack]
    exact ⟨_, List.Subset.refl _, rfl⟩

theorem passes_searchText (t : TextHandle) :
    Passes (e.searchText libs p t offset options)
      [⟨e.id, .pattern, p.address⟩, ⟨e.id, .text, t.address⟩] := by
  intro s
  rcases Nat.lt_or_ge t.length offset with h | h
  · rw [searchText_run_of_lt libs e s p options h]
    exact ⟨[], List.nil_subset _, (List.append_nil _).symm⟩
  · rw [searchText_run libs e s p options h, uses_called, List.flatMap_cons, uses_foundBack]
    exact ⟨_, List.Subset.refl _, rfl⟩

end Engine

namespace Regex

variable (libs : Libraries σ) (r : Regex) (options : SearchOptions)

theorem passes_search (text : UnitText) (offset : Nat) :
    Passes (r.search libs text offset options) [⟨r.engine.id, .pattern, r.handle.address⟩] := by
  unfold search
  cases startOf text offset with
  | error f => exact .pure _
  | ok start =>
    exact (Engine.passes_search libs r.engine r.handle start options text.bytes).bind fun _ =>
      .pure _

theorem passes_searchInterned {t : InternedText} (ht : r.engine.id = t.engine.id) (offset : Nat) :
    Passes (r.searchInterned libs t offset options)
      [⟨r.engine.id, .pattern, r.handle.address⟩, ⟨t.engine.id, .text, t.handle.address⟩] := by
  rw [searchInterned, if_neg (not_not.mpr ht), ← ht]
  cases startOf t.text offset with
  | error f => exact .pure _
  | ok start =>
    exact (Engine.passes_searchText libs r.engine r.handle start options t.handle).bind
      fun _ => .pure _

theorem passes_findFrom (text : UnitText) (turns offset : Nat) :
    Passes (r.findFrom libs text options turns offset)
      [⟨r.engine.id, .pattern, r.handle.address⟩] := by
  induction turns generalizing offset with
  | zero => exact .pure _
  | succ turns ih =>
    unfold findFrom
    split_ifs
    · exact .pure _
    · refine (passes_search libs r options text offset).bind fun found => ?_
      rcases found with f | _ | m
      · exact .pure _
      · exact .pure _
      · dsimp only
        cases m.whole?.bind Capture.range? with
        | none => exact .pure _
        | some range => exact (ih _).bind fun _ => .pure _

end Regex

namespace ScopedText

variable (libs : Libraries σ) (e : Engine)

theorem makes_make (text : UnitText) : Makes e.id (make libs e text) .interned := by
  have ht : Makes e.id (InternedText.make libs e text)
      fun t => .interned ⟨t.engine, some t.handle, t.text⟩ :=
    (Engine.makes_internText libs e _).bind (fun _ => rfl) (fun _ => rfl) fun _ => rfl
  exact ht.bind (fun _ => rfl) (fun _ => rfl) fun _ => rfl

end ScopedText

namespace ScopedRegex

variable (libs : Libraries σ) (e : Engine) (p : PatternHandle) (options : SearchOptions)

theorem makes_make (pattern : String) : Makes e.id (make libs e pattern) .regex := by
  have hr : Makes e.id (Regex.make libs e pattern) fun r => .regex ⟨r.engine, some r.handle⟩ :=
    (Engine.makes_compile libs e _).bind (fun _ => rfl) (fun _ => rfl) fun _ => rfl
  exact hr.bind (fun _ => rfl) (fun _ => rfl) fun _ => rfl

theorem asks_search (text : UnitText) (offset : Nat) :
    Asks (search libs ⟨e, some p⟩ text offset options) [⟨e.id, .pattern, p.address⟩] := by
  unfold search
  cases Regex.startOf text offset with
  | error f => exact .pure _ _
  | ok start => exact (Regex.passes_search libs ⟨e, p⟩ options text offset).asks

theorem asks_searchBytes (text : Bytes) (offset : Nat) :
    Asks (searchBytes libs ⟨e, some p⟩ text offset options) [⟨e.id, .pattern, p.address⟩] :=
  (Engine.passes_search libs e p offset options text).asks

theorem asks_findAll (text : UnitText) (turns : Nat) :
    Asks (findAll libs ⟨e, some p⟩ text options turns) [⟨e.id, .pattern, p.address⟩] :=
  (Regex.passes_findFrom libs ⟨e, p⟩ options text turns 0).asks

theorem asks_searchInterned (t : ScopedText) {u : TextHandle} (ht : t.handle = some u)
    (offset : Nat) :
    Asks (searchInterned libs ⟨e, some p⟩ t offset options)
      [⟨e.id, .pattern, p.address⟩, ⟨t.engine.id, .text, u.address⟩] := by
  unfold searchInterned
  split_ifs with he
  · exact .pure _ _
  · cases Regex.startOf t.text offset with
    | error f => exact .pure _ _
    | ok start =>
      rw [ScopedText.interned?, ht]
      exact (Regex.passes_searchInterned libs ⟨e, p⟩ options (t := ⟨t.engine, u, t.text⟩)
        (not_not.mp he) offset).asks

end ScopedRegex

/-- Wrappers release their handles, and raw handles are left. -/
theorem Session.frees_dropItem (libs : Libraries σ) (i : Item) (raw : EngineId) :
    Frees (dropItem libs i) (if i.isRaw then [] else (i.handle? raw).toList) := by
  cases i with
  | regex r =>
    obtain ⟨e, _ | p⟩ := r
    · exact fun s => (List.append_nil _).symm
    · exact Engine.frees_release libs e p
  | interned t =>
    obtain ⟨e, _ | u, text⟩ := t
    · exact fun s => (List.append_nil _).symm
    · exact Engine.frees_releaseText libs e u
  | pattern p => exact fun s => (List.append_nil _).symm
  | text t => exact fun s => (List.append_nil _).symm

end RegexHost

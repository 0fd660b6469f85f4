import RegexHost.Proofs.Engine.Linked
import RegexHost.Proofs.Search.Answers
import RegexHost.Proofs.Text.Place

/-! The checks of a search, from the outside in. Each layer refuses an offset past its own text
before any native call, and a search that the outer layer lets through is refused by none of the
inner ones. -/
namespace RegexHost

variable {σ : Type}

def Call.isSearch : Call → Bool
  | search .. | searchString .. => true
  | _ => false

/-- A search with a limit on its offset. Past the limit it is refused and makes no call. Up to the
limit it is not refused, and `search` is its one search call. -/
structure Engine.CheckedOnce (e : Engine) (offset limit : Nat) (search : Found → Call)
    (s : HostState σ) (result : Except Error (Option Match) × HostState σ) : Prop where
  refused_iff : ∀ o l, result.1 = .error (.offsetOutOfBounds o l) ↔
    limit < offset ∧ o = offset ∧ l = limit
  untouched : limit < offset → result.2 = s
  once : offset ≤ limit → ∃ reply more, result.2.calls = s.calls ++ (e.id, search reply) :: more ∧
    (search reply).isSearch = true ∧ ∀ c ∈ more, c.2.isSearch = false

namespace Engine

theorem isSearch_of_mem_foundBack {found : Found} {c : Call} (h : c ∈ foundBack found) :
    c.isSearch = false := by
  unfold foundBack at h
  split_ifs at h
  · rw [List.mem_singleton.mp h]
    rfl
  · cases h
  · obtain ⟨m, -, rfl⟩ := List.mem_map.mp h
    rfl

theorem answer_ne_offsetOutOfBounds (found : Found) (o l : Nat) :
    answer found ≠ .error (.offsetOutOfBounds o l) := by
  unfold answer
  split_ifs <;> nofun

theorem answer_ne_engineMismatch (found : Found) : answer found ≠ .error .engineMismatch := by
  unfold answer
  split_ifs <;> nofun

theorem checkedOnce_of_lt (e : Engine) {offset limit : Nat} (h : limit < offset)
    (search : Found → Call) (s : HostState σ) :
    e.CheckedOnce offset limit search s (.error (.offsetOutOfBounds offset limit), s) where
  refused_iff o l := by
    constructor
    · rintro ⟨⟩
      exact ⟨h, rfl, rfl⟩
    · rintro ⟨-, rfl, rfl⟩
      rfl
  untouched _ := rfl
  once ho := absurd ho (Nat.not_le.mpr h)

theorem checkedOnce_of_le (e : Engine) {offset limit : Nat} (h : offset ≤ limit)
    {search : Found → Call} {found : Found} (hs : (search found).isSearch = true) (s : HostState σ)
    (libraries : σ) {result : Except Error (Option Match)}
    (hr : ∀ o l, result ≠ .error (.offsetOutOfBounds o l)) :
    e.CheckedOnce offset limit search s
      (result, s.called e.id libraries (search found :: foundBack found)) where
  refused_iff o l := iff_of_false (hr o l) fun hl => absurd hl.1 (Nat.not_lt.mpr h)
  untouched hl := absurd hl (Nat.not_lt.mpr h)
  once _ := by
    refine ⟨found, (foundBack found).map fun c => (e.id, c), rfl, hs, ?_⟩
    intro c hc
    obtain ⟨c', hc', rfl⟩ := List.mem_map.mp hc
    exact isSearch_of_mem_foundBack hc'

variable (libs : Libraries σ) (e : Engine) (p : PatternHandle) (offset : Nat)
  (options : SearchOptions) (s : HostState σ)

theorem checkedOnce_search (text : Bytes) :
    e.CheckedOnce offset text.length (.search p.address text offset options) s
      ((e.search libs p text offset options).run s) := by
  rcases Nat.lt_or_ge text.length offset with h | h
  · rw [search_run_of_lt libs e s p options h]
    exact checkedOnce_of_lt e h _ s
  · rw [search_run libs e s p options h]
    exact checkedOnce_of_le e h rfl s _ (answer_ne_offsetOutOfBounds _)

theorem checkedOnce_searchText (t : TextHandle) :
    e.CheckedOnce offset t.length (.searchString p.address t.address offset options) s
      ((e.searchText libs p t offset options).run s) := by
  rcases Nat.lt_or_ge t.length offset with h | h
  · rw [searchText_run_of_lt libs e s p options h]
    exact checkedOnce_of_lt e h _ s
  · rw [searchText_run libs e s p options h]
    exact checkedOnce_of_le e h rfl s _ (answer_ne_offsetOutOfBounds _)

end Engine

namespace Regex

theorem inUnits_eq_error_iff (text : UnitText) (result : Except Error (Option Match)) (f : Error) :
    inUnits text result = .error f ↔ result = .error f := by
  cases result <;> simp [inUnits, Except.map]

variable (libs : Libraries σ) (r : Regex) {offset : Nat} (options : SearchOptions) (s : HostState σ)

theorem startOf_of_lt {text : UnitText} (h : text.length < offset) :
    startOf text offset = .error (.offsetOutOfBounds offset text.length) := by
  rw [startOf, Engine.checkOffset_eq_error h]
  rfl

theorem search_run_of_lt {text : UnitText} (h : text.length < offset) :
    (r.search libs text offset options).run s =
      (.error (.offsetOutOfBounds offset text.length), s) := by
  rw [search, startOf_of_lt h]
  rfl

theorem searchInterned_run_of_lt {t : InternedText} (ht : r.engine.id = t.engine.id)
    (h : t.text.length < offset) :
    (r.searchInterned libs t offset options).run s =
      (.error (.offsetOutOfBounds offset t.text.length), s) := by
  rw [searchInterned, if_neg (not_not.mpr ht), startOf_of_lt h]
  rfl

theorem searchInterned_run_of_ne {t : InternedText} (ht : r.engine.id ≠ t.engine.id)
    (offset : Nat) :
    (r.searchInterned libs t offset options).run s = (.error .engineMismatch, s) := by
  rw [searchInterned, if_pos ht]
  rfl

/-- Where a search in bytes begins is in the text and between two characters, for any position in
units. -/
theorem byteOffset_le {text : UnitText} (h : offset ≤ text.length) :
    text.byteOffset offset ≤ text.bytes.length ∧
      Utf8.isBoundary text.bytes (text.byteOffset offset) = true := by
  obtain ⟨j, -, hj⟩ := UnitText.Place.exists_byteOffset text h
  exact ⟨hj.le_bytes, hj.isBoundary⟩

/-- The outer check passes, so the inner one does, and its one search call is the call of the
whole. -/
theorem checkedOnce_inUnits {e : Engine} {limit b innerLimit : Nat} {search : Found → Call}
    {text : UnitText} {inner : Except Error (Option Match) × HostState σ} (ho : offset ≤ limit)
    (hb : b ≤ innerLimit) (h : e.CheckedOnce b innerLimit search s inner) :
    e.CheckedOnce offset limit search s (inUnits text inner.1, inner.2) where
  refused_iff o l := by
    rw [inUnits_eq_error_iff, h.refused_iff]
    exact iff_of_false (fun hl => absurd hl.1 (Nat.not_lt.mpr hb)) fun hl =>
      absurd hl.1 (Nat.not_lt.mpr ho)
  untouched hl := absurd hl (Nat.not_lt.mpr ho)
  once _ := h.once hb

theorem checkedOnce_search (text : UnitText) (offset : Nat) :
    r.engine.CheckedOnce offset text.length
      (.search r.handle.address text.bytes (text.byteOffset offset) options) s
      ((r.search libs text offset options).run s) := by
  rcases Nat.lt_or_ge text.length offset with h | h
  · rw [search_run_of_lt libs r options s h]
    exact Engine.checkedOnce_of_lt r.engine h _ s
  · rw [search_eq libs r options text h]
    exact checkedOnce_inUnits s h (byteOffset_le h).1
      (Engine.checkedOnce_search libs r.engine r.handle _ options s _)

theorem checkedOnce_searchInterned {t : InternedText} (ht : r.engine.id = t.engine.id)
    (hl : t.handle.length = t.text.bytes.length) (offset : Nat) :
    r.engine.CheckedOnce offset t.text.length
      (.searchString r.handle.address t.handle.address (t.text.byteOffset offset) options) s
      ((r.searchInterned libs t offset options).run s) := by
  rcases Nat.lt_or_ge t.text.length offset with h | h
  · rw [searchInterned_run_of_lt libs r options s ht h]
    exact Engine.checkedOnce_of_lt r.engine h _ s
  · rw [searchInterned_eq libs r options t ht h]
    exact checkedOnce_inUnits s h (hl ▸ (byteOffset_le h).1)
      (Engine.checkedOnce_searchText libs r.engine r.handle _ options s _)

theorem searchInterned_eq_engineMismatch_iff (t : InternedText) (offset : Nat)
    (hl : t.handle.length = t.text.bytes.length) :
    ((r.searchInterned libs t offset options).run s).1 = .error .engineMismatch ↔
      r.engine.id ≠ t.engine.id := by
  by_cases ht : r.engine.id = t.engine.id
  · refine iff_of_false ?_ (not_not.mpr ht)
    rcases Nat.lt_or_ge t.text.length offset with h | h
    · rw [searchInterned_run_of_lt libs r options s ht h]
      nofun
    · rw [searchInterned_eq libs r options t ht h, StateT.run_map]
      change inUnits t.text _ ≠ _
      rw [ne_eq, inUnits_eq_error_iff,
        Engine.searchText_run libs r.engine s r.handle options (hl ▸ (byteOffset_le h).1)]
      exact Engine.answer_ne_engineMismatch _
  · rw [searchInterned_run_of_ne libs r options s ht]
    exact iff_of_true rfl ht

end Regex

theorem InternedText.make_eq_ok {libs : Libraries σ} {e : Engine} {text : UnitText}
    {s : HostState σ} {t : InternedText} (h : ((InternedText.make libs e text).run s).1 = .ok t) :
    t.engine = e ∧ t.text = text ∧ t.handle.length = t.text.bytes.length := by
  rw [make, StateT.run_bind, Engine.internText_run] at h
  cases hm : ((libs.createString e.id text.bytes).run s.libraries).1.handle with
  | none =>
    simp only [hm] at h
    cases h
  | some a =>
    simp only [hm] at h
    cases h
    exact ⟨rfl, rfl, rfl⟩

/-- Every search over any libraries, from any state. -/
structure Regex.SearchesChecked (libs : Libraries σ) (options : SearchOptions) (offset : Nat)
    (s : HostState σ) : Prop where
  inBytes : ∀ (e : Engine) (p : PatternHandle) (text : Bytes),
    e.CheckedOnce offset text.length (.search p.address text offset options) s
      ((e.search libs p text offset options).run s)
  keptText : ∀ (e : Engine) (p : PatternHandle) (t : TextHandle),
    e.CheckedOnce offset t.length (.searchString p.address t.address offset options) s
      ((e.searchText libs p t offset options).run s)
  kept_length : ∀ (e : Engine) (text : Bytes) (t : TextHandle),
    ((e.internText libs text).run s).1 = .ok t → t.length = text.length
  inUnits : ∀ (r : Regex) (text : UnitText),
    r.engine.CheckedOnce offset text.length
      (.search r.handle.address text.bytes (text.byteOffset offset) options) s
      ((r.search libs text offset options).run s)
  interned : ∀ (r : Regex) (e : Engine) (text : UnitText) (t : InternedText) (s' : HostState σ),
    ((InternedText.make libs e text).run s').1 = .ok t →
    (((r.searchInterned libs t offset options).run s).1 = .error .engineMismatch ↔
      r.engine.id ≠ e.id) ∧
    (r.engine.id ≠ e.id → ((r.searchInterned libs t offset options).run s).2 = s) ∧
    (r.engine.id = e.id → r.engine.CheckedOnce offset text.length
      (.searchString r.handle.address t.handle.address (text.byteOffset offset) options) s
      ((r.searchInterned libs t offset options).run s))
  start : ∀ text : UnitText, offset ≤ text.length → text.byteOffset offset ≤ text.bytes.length ∧
    Utf8.isBoundary text.bytes (text.byteOffset offset) = true

/-- Every search of the linked engine, whatever engine is inside, for live handles and text of a
size that can be reported. -/
structure Linked.SearchesPass {ρ : Type} (core : Native.Core ρ)
    (options : SearchOptions) (e : Engine) (s : HostState (Heap ρ)) : Prop where
  inBytes : ∀ (p : PatternHandle) (regex : ρ) (text : Bytes) (offset : Nat),
    s.libraries.patterns.lookup p.address = some regex → Utf8.fault? text = none →
    text.length ≤ Native.textLimit → offset ≤ text.length →
    Native.searchWork core (s.libraries.patterns.lookup p.address) (.given text) offset
        options.beginPosition options.beginString =
      core.search regex text offset options.beginPosition options.beginString ∧
    ((e.search (libraries core) p text offset options).run s).1 =
      Native.learned (core.search regex text offset options.beginPosition options.beginString)
  keptText : ∀ (p : PatternHandle) (t : TextHandle) (regex : ρ) (text : Bytes) (offset : Nat),
    s.libraries.patterns.lookup p.address = some regex →
    s.libraries.texts.lookup t.address = some text →
    t.length = text.length → text.length ≤ Native.textLimit → offset ≤ t.length →
    Native.searchStringWork core (s.libraries.patterns.lookup p.address)
        (s.libraries.texts.lookup t.address) offset options.beginPosition options.beginString =
      core.search regex text offset options.beginPosition options.beginString ∧
    ((e.searchText (libraries core) p t offset options).run s).1 =
      Native.learned (core.search regex text offset options.beginPosition options.beginString)
  intern : ∀ text : Bytes, Utf8.fault? text = none →
    ∃ t, ((e.internText (libraries core) text).run s).1 = .ok t ∧ t.length = text.length ∧
      ((e.internText (libraries core) text).run s).2.libraries.texts.lookup t.address = some text

theorem Linked.searchesPass {ρ : Type} (core : Native.Core ρ) (options : SearchOptions) (e : Engine)
    (s : HostState (Heap ρ)) : SearchesPass core options e s where
  inBytes p regex text offset hp ht hsize ho := by
    have hw : Native.searchWork core (s.libraries.patterns.lookup p.address) (.given text) offset
        options.beginPosition options.beginString =
        core.search regex text offset options.beginPosition options.beginString := by
      rw [hp]
      exact Native.searchWork_eq core _ _ ht hsize ho
    refine ⟨hw, ?_⟩
    rw [Engine.search_run _ _ _ _ _ ho]
    exact (answer_search core s.libraries p.address text offset options).trans
      (congrArg Native.learned hw)
  keptText p t regex text offset hp ht hl hsize ho := by
    have hw : Native.searchStringWork core (s.libraries.patterns.lookup p.address)
        (s.libraries.texts.lookup t.address) offset options.beginPosition options.beginString =
        core.search regex text offset options.beginPosition options.beginString := by
      rw [hp, ht]
      exact Native.searchStringWork_eq core _ _ hsize (hl ▸ ho)
    refine ⟨hw, ?_⟩
    rw [Engine.searchText_run _ _ _ _ _ ho]
    exact (answer_searchString core s.libraries p.address t.address offset options).trans
      (congrArg Native.learned hw)
  intern text ht := by
    have hc : ((libraries core).createString e.id text).run s.libraries = _ :=
      createString_run s.libraries ht
    rw [Engine.internText_run, hc]
    exact ⟨⟨s.libraries.next, text.length⟩, rfl, rfl, List.lookup_cons_self⟩

theorem outer_checks_suffice (libs : Libraries σ) (options : SearchOptions) (offset : Nat)
    (s : HostState σ) {ρ : Type} (core : Native.Core ρ) (e : Engine)
    (s' : HostState (Linked.Heap ρ)) :
    Regex.SearchesChecked libs options offset s ∧ Linked.SearchesPass core options e s' := by
  refine ⟨?_, Linked.searchesPass core options e s'⟩
  constructor
  · exact fun e p text => Engine.checkedOnce_search libs e p offset options s text
  · exact fun e p t => Engine.checkedOnce_searchText libs e p offset options s t
  · intro e text t ht
    rw [Engine.internText_run] at ht
    split at ht <;> cases ht
    rfl
  · exact fun r text => Regex.checkedOnce_search libs r options s text offset
  · intro r e text t s' ht
    obtain ⟨rfl, rfl, hl⟩ := InternedText.make_eq_ok ht
    refine ⟨Regex.searchInterned_eq_engineMismatch_iff libs r options s t offset hl, ?_, ?_⟩
    · intro hne
      rw [Regex.searchInterned_run_of_ne libs r options s hne]
    · exact fun he => Regex.checkedOnce_searchInterned libs r options s he hl offset
  · exact fun text ho => Regex.byteOffset_le ho

/-- An engine that finds the empty match where a search begins. -/
def Native.Core.standing : Native.Core Unit where
  compile _ := .returned ()
  search _ _ offset _ _ := .returned (some [some (offset, offset)])

/-- From inside a surrogate pair the search begins behind it, and no check stops it. -/
theorem outer_checks_suffice_inside_pair :
    let text := UnitText.ofUnits [0xD83D, 0xDEA7, 0x61]
    Utf8.isBoundary text.bytes (text.byteOffset 1) = true ∧
      ((Engine.search (Linked.libraries .standing) ⟨0, false⟩ ⟨1⟩ text.bytes
        (text.byteOffset 1) .standard).run ⟨⟨2, [(1, ())], []⟩, []⟩).1 =
          .ok (some (.ofFlat [4, 4])) := by
  intro text
  obtain ⟨hall, hlinked⟩ := outer_checks_suffice (Linked.libraries .standing) .standard 1
    ⟨⟨2, [(1, ())], []⟩, []⟩ .standing ⟨0, false⟩ ⟨⟨2, [(1, ())], []⟩, []⟩
  obtain ⟨hle, hboundary⟩ := hall.start text (by decide)
  have hutf8 : Utf8.fault? text.bytes = none := by decide +kernel
  have hsize : text.bytes.length ≤ Native.textLimit := by decide +kernel
  refine ⟨hboundary,
    (hlinked.inBytes ⟨1⟩ () text.bytes (text.byteOffset 1) rfl hutf8 hsize hle).2.trans ?_⟩
  rfl

end RegexHost

import RegexHost.Native.Inner
import RegexHost.Proofs.Search.Checks
import RegexHost.Proofs.Search.Stored

/-! The ways to search text with the linked engine: in bytes, in units, and where a copy of the text
is kept. All come to the same search by the engine inside, at any point of any session. -/
namespace RegexHost

variable {σ ρ : Type}

namespace Native.Inner

variable {inner : Inner ρ}

/-- Each anchor has bits of its own. -/
structure BitsApart (inner : Inner ρ) : Prop where
  position : inner.notBeginPosition ≠ 0
  string : inner.notBeginString ≠ 0
  apart : inner.notBeginPosition &&& inner.notBeginString = 0

theorem or_and_distrib (a b c : UInt32) : (a ||| b) &&& c = (a &&& c) ||| (b &&& c) := by
  apply UInt32.toBitVec_inj.mp
  ext i
  simp [Bool.and_or_distrib_right]

theorem BitsApart.anchorOptions_and (hb : inner.BitsApart) (beginPosition beginString : Bool) :
    (inner.anchorOptions beginPosition beginString &&& inner.notBeginPosition = 0 ↔
      beginPosition = true) ∧
      (inner.anchorOptions beginPosition beginString &&& inner.notBeginString = 0 ↔
        beginString = true) := by
  have hba : inner.notBeginString &&& inner.notBeginPosition = 0 := by
    rw [UInt32.and_comm]
    exact hb.apart
  cases beginPosition <;> cases beginString <;>
    simp [anchorOptions, or_and_distrib, hb.position, hb.string, hb.apart, hba]

end Native.Inner

theorem Linked.bitsApart_inner : Linked.inner.BitsApart :=
  ⟨by decide, by decide, by decide⟩

namespace ScopedRegex

variable (libs : Libraries σ) (e : Engine) (p : PatternHandle) (offset : Nat)
  (options : SearchOptions)

theorem search_eq_some (text : UnitText) :
    (ScopedRegex.mk e (some p)).search libs text offset options =
      some <$> (Regex.mk e p).search libs text offset options := by
  rw [ScopedRegex.search]
  cases hs : Regex.startOf text offset with
  | error f =>
    have hr : (Regex.mk e p).search libs text offset options = pure (.error f) := by
      rw [Regex.search, hs]
    rw [hr, map_pure]
  | ok start =>
    rw [map_eq_pure_bind]
    rfl

theorem searchBytes_eq_some (text : Bytes) :
    (ScopedRegex.mk e (some p)).searchBytes libs text offset options =
      some <$> (Regex.mk e p).searchBytes libs text offset options := by
  rw [map_eq_pure_bind]
  rfl

theorem searchInterned_eq_some (e' : Engine) (t : TextHandle) (text : UnitText) :
    (ScopedRegex.mk e (some p)).searchInterned libs ⟨e', some t, text⟩ offset options =
      some <$> (Regex.mk e p).searchInterned libs ⟨e', t, text⟩ offset options := by
  rw [ScopedRegex.searchInterned]
  split_ifs with he
  · rw [Regex.searchInterned, if_pos he, map_pure]
  · cases hs : Regex.startOf text offset with
    | error f =>
      have hr : (Regex.mk e p).searchInterned libs ⟨e', t, text⟩ offset options =
          pure (.error f) := by
        rw [Regex.searchInterned, if_neg he, hs]
      rw [hr, map_pure]
    | ok start =>
      rw [map_eq_pure_bind]
      rfl

end ScopedRegex

namespace Linked

open Native (Inner)
open Session (Item)

/-- What the engine inside says to one search, as it is heard outside. -/
def told (inner : Inner ρ) (program : ρ) (text : Bytes) (start : Nat) (options : SearchOptions) :
    Except Error (Option Match) :=
  Native.learned (inner.search program text start text.length
    (inner.anchorOptions options.beginPosition options.beginString))

/-- The same in units. -/
def toldInUnits (inner : Inner ρ) (program : ρ) (text : UnitText) (offset : Nat)
    (options : SearchOptions) : Except Error (Option Match) :=
  if text.length < offset then .error (.offsetOutOfBounds offset text.length)
  else Regex.inUnits text (told inner program text.bytes (text.byteOffset offset) options)

/-- All ways to search a text with one pattern. The text may have been kept earlier, or be kept
now. -/
structure PathsAgree (inner : Inner ρ) (held : Multiset Item) (h : HostState (Heap ρ))
    (r : ScopedRegex) (program : ρ) (text : UnitText) (offset : Nat) (options : SearchOptions) :
    Prop where
  inBytes : offset ≤ text.length →
    ((r.searchBytes (libraries inner.core) text.bytes (text.byteOffset offset) options).run h).1 =
      some (told inner program text.bytes (text.byteOffset offset) options)
  inUnits : ((r.search (libraries inner.core) text offset options).run h).1 =
    some (toldInUnits inner program text offset options)
  interned : ∀ t, .interned t ∈ held → t.text = text → r.engine.id = t.engine.id →
    ((r.searchInterned (libraries inner.core) t offset options).run h).1 =
      some (toldInUnits inner program text offset options)
  internedNow : ∃ t h', (ScopedText.make (libraries inner.core) r.engine text).run h = (.ok t, h') ∧
    ((r.searchInterned (libraries inner.core) t offset options).run h').1 =
      some (toldInUnits inner program text offset options)

section

variable {inner : Inner ρ} {h : HostState (Heap ρ)} {e : Engine} {p : PatternHandle} {program : ρ}
  (hp : h.libraries.patterns.lookup p.address = some program) {text : UnitText}
  (hsize : text.bytes.length ≤ Native.textLimit) {offset : Nat} (options : SearchOptions)
include hp hsize

theorem searchBytes_told (ho : offset ≤ text.length) :
    (((Regex.mk e p).searchBytes (libraries inner.core) text.bytes (text.byteOffset offset)
      options).run h).1 = told inner program text.bytes (text.byteOffset offset) options :=
  ((searchesPass inner.core options e h).inBytes p program text.bytes _ hp
    (Utf8.fault?_encode _) hsize (Regex.byteOffset_le ho).1).2

theorem search_told :
    (((Regex.mk e p).search (libraries inner.core) text offset options).run h).1 =
      toldInUnits inner program text offset options := by
  rcases Nat.lt_or_ge text.length offset with ho | ho
  · rw [Regex.search_run_of_lt _ _ options h ho, toldInUnits, if_pos ho]
  · rw [Regex.search_eq _ _ options text ho, StateT.run_map, toldInUnits,
      if_neg (Nat.not_lt.mpr ho)]
    exact congrArg (Regex.inUnits text) (searchBytes_told hp hsize options ho)

theorem searchInterned_told {e' : Engine} (he : e.id = e'.id) {t : TextHandle}
    (ht : Behind inner.core h (.interned ⟨e', some t, text⟩)) :
    (((Regex.mk e p).searchInterned (libraries inner.core) ⟨e', t, text⟩ offset options).run h).1 =
      toldInUnits inner program text offset options := by
  obtain ⟨hlength, hlookup⟩ := ht
  rcases Nat.lt_or_ge text.length offset with ho | ho
  · rw [Regex.searchInterned_run_of_lt _ _ options h (t := ⟨e', t, text⟩) he ho,
      toldInUnits, if_pos ho]
  · rw [Regex.searchInterned_eq _ _ options ⟨e', t, text⟩ he ho, StateT.run_map, toldInUnits,
      if_neg (Nat.not_lt.mpr ho)]
    exact congrArg (Regex.inUnits text)
      ((searchesPass inner.core options e h).keptText p t program text.bytes _ hp
      hlookup hlength hsize (hlength ▸ (Regex.byteOffset_le ho).1)).2

end

/-- UTF-8 text is always taken. -/
theorem makeText_run (core : Native.Core ρ) (e : Engine) (text : UnitText)
    (h : HostState (Heap ρ)) :
    let a := h.libraries.next
    (ScopedText.make (libraries core) e text).run h = (.ok ⟨e, some ⟨a, text.bytes.length⟩, text⟩,
      h.called e.id { h.libraries.skip 1 with texts := (a, text.bytes) :: h.libraries.texts }
        [.createString text.bytes ⟨some a, none⟩]) := by
  intro a
  have hc : ((libraries core).createString e.id text.bytes).run h.libraries = _ :=
    createString_run h.libraries (Utf8.fault?_encode _)
  rw [ScopedText.make, StateT.run_bind, InternedText.make, StateT.run_bind,
    Engine.internText_run, hc]
  rfl

theorem Stored.pathsAgree {inner : Inner ρ} {held : Multiset Item} {h : HostState (Heap ρ)}
    (hs : Stored inner.core held h) {r : ScopedRegex} (hr : .regex r ∈ held) :
    ∃ p program, r.handle = some p ∧ Compiled inner.core h p.address program ∧
      ∀ text offset options, text.bytes.length ≤ Native.textLimit →
        PathsAgree inner held h r program text offset options := by
  obtain ⟨e, _ | p⟩ := r
  · exact (hs.behind _ hr).elim
  obtain ⟨program, hc⟩ := hs.behind _ hr
  refine ⟨p, program, rfl, hc, fun text offset options hsize => ?_⟩
  constructor
  case inBytes =>
    intro ho
    rw [ScopedRegex.searchBytes_eq_some, StateT.run_map]
    exact congrArg some (searchBytes_told hc.lookup hsize options ho)
  case inUnits =>
    rw [ScopedRegex.search_eq_some, StateT.run_map]
    exact congrArg some (search_told hc.lookup hsize options)
  case interned =>
    rintro ⟨e', _ | t, _⟩ ht rfl he
    · exact (hs.behind _ ht).elim
    · rw [ScopedRegex.searchInterned_eq_some, StateT.run_map]
      exact congrArg some (searchInterned_told hc.lookup hsize options he (hs.behind _ ht))
  case internedNow =>
    refine ⟨_, _, makeText_run inner.core e text h, ?_⟩
    rw [ScopedRegex.searchInterned_eq_some, StateT.run_map]
    refine congrArg some (searchInterned_told ?_ hsize options rfl ⟨rfl, ?_⟩)
    · exact hc.lookup
    · exact List.lookup_cons_self

end Linked

open Linked (Compiled PathsAgree Heap) in
/-- Wherever a session stands, each pattern that it holds was compiled by the engine inside, and all
ways to search a text with it are one search of that engine, with the same bits for the same
anchors. -/
theorem Session.paths_agree {inner : Native.Inner ρ} (hb : inner.BitsApart) (extra : Nat)
    (engines : List Engine) (steps : List Step) :
    let ended := ((steps.mapM (step (Linked.libraries inner.core) extra)).run.run ⟨engines, []⟩).run
      ⟨Heap.empty, []⟩
    let s := ended.1.2
    let h := ended.2
    (∀ r, .regex r ∈ s.held →
      ∃ p program, r.handle = some p ∧ Compiled inner.core h p.address program ∧
      ∀ text offset options, text.bytes.length ≤ Native.textLimit →
        PathsAgree inner s.held h r program text offset options) ∧
    ∀ beginPosition beginString, let bits := inner.anchorOptions beginPosition beginString
      (bits &&& inner.notBeginPosition = 0 ↔ beginPosition = true) ∧
        (bits &&& inner.notBeginString = 0 ↔ beginString = true) := by
  intro ended s h
  have hk := (Linked.invariant_stored inner.core).holds_steps (h := ⟨Heap.empty, []⟩)
    (.start engines .nil) extra steps
  have hs : Linked.Stored inner.core s.held h := Multiset.zero_add s.held ▸ hk.holds
  exact ⟨fun r hr => hs.pathsAgree hr, hb.anchorOptions_and⟩

/-- `\A` is gone and `\G` is left. From inside a surrogate pair both its searches begin behind it,
and where its bit is set it matches nowhere. -/
theorem Session.paths_agree_anchored :
    let text := UnitText.ofUnits [0xD83D, 0xDEA7, 0x61]
    let libs := Linked.libraries Linked.core
    let steps : List Step := [.regex 0 "q" "\\A", .regex 0 "r" "\\G", .interned 0 "t" text,
      .findInterned "q" "t" 0 .standard, .drop "q"]
    let h := (((steps.mapM (step libs 0)).run.run ⟨[⟨0, false⟩], []⟩).run ⟨.empty, []⟩).2
    let r : ScopedRegex := ⟨⟨0, false⟩, some ⟨2⟩⟩
    let t : ScopedText := ⟨⟨0, false⟩, some ⟨3, 5⟩, text⟩
    ((r.search libs text 1 .standard).run h).1 = some (.ok (some ⟨[⟨2, 2⟩]⟩)) ∧
      ((r.searchInterned libs t 1 .standard).run h).1 = some (.ok (some ⟨[⟨2, 2⟩]⟩)) ∧
      ((r.searchInterned libs t 1 ⟨false, true⟩).run h).1 = some (.ok none) := by
  intro text libs steps h r t
  obtain ⟨hall, -⟩ := paths_agree Linked.bitsApart_inner 0 [⟨0, false⟩] steps
  have hr : .regex r ∈
      (((steps.mapM (step libs 0)).run.run ⟨[⟨0, false⟩], []⟩).run ⟨.empty, []⟩).1.2.held := by
    decide +kernel
  have ht : .interned t ∈
      (((steps.mapM (step libs 0)).run.run ⟨[⟨0, false⟩], []⟩).run ⟨.empty, []⟩).1.2.held := by
    decide +kernel
  obtain ⟨p, program, ⟨⟩, hc, hpaths⟩ := hall r hr
  have hsize : text.bytes.length ≤ Native.textLimit := by decide +kernel
  have htold (options : SearchOptions) :
      (h.libraries.patterns.lookup 2).map (Linked.toldInUnits Linked.inner · text 1 options) =
        some (Linked.toldInUnits Linked.inner program text 1 options) :=
    congrArg (Option.map _) hc.lookup
  refine ⟨(hpaths text 1 .standard hsize).inUnits.trans ((htold _).symm.trans ?_),
    ((hpaths text 1 .standard hsize).interned t ht rfl rfl).trans ((htold _).symm.trans ?_),
    ((hpaths text 1 ⟨false, true⟩ hsize).interned t ht rfl rfl).trans ((htold _).symm.trans ?_)⟩
  · decide +kernel
  · decide +kernel
  · decide +kernel

end RegexHost

import RegexHost.Proofs.Search.Captures
import RegexHost.Proofs.Search.Checks

/-! Regions on their way to the host: two ends for each group, written one after the other and read
two by two. In a text of a size that is searched no end is cut off, so what arrives tells the
region. -/
namespace RegexHost

open Native

/-- The groups that took part are in a text of this many bytes, with their ends in either order. -/
def Native.Within (length : Nat) (region : Region) : Prop :=
  ∀ start stop, some (start, stop) ∈ region → start ≤ length ∧ stop ≤ length

/-- A group and a capture that tells of it. -/
inductive Capture.Carries : Option (Nat × Nat) → Capture → Prop
  | absent : Carries none unmatched
  | matched {start stop : Nat} {c : Capture} (start_eq : c.start.toInt = start)
      (stop_eq : c.stop.toInt = stop) :
      Carries (some (start, stop)) c

/-- A match that has a capture for each group of a region, in its order, and no other. -/
structure Match.Carries (m : Match) (region : Region) : Prop where
  groups : List.Forall₂ Capture.Carries region m.captures
  ranges : m.captures.map Capture.range? = region

theorem Capture.Carries.range?_eq {group : Option (Nat × Nat)} {c : Capture} (h : Carries group c) :
    c.range? = group := by
  cases h with
  | absent => rfl
  | matched start_eq stop_eq => exact (range?_eq_some_iff c _ _).mpr ⟨start_eq, stop_eq⟩

theorem forall₂_carries_flatten {length : Nat} (hsize : length ≤ textLimit) {region : Region}
    (h : Within length region) :
    List.Forall₂ Capture.Carries region (Match.ofFlat (flatten region)).captures := by
  unfold textLimit at hsize
  induction region with
  | nil => exact .nil
  | cons group region ih =>
    have hrest := ih fun start stop hmem => h start stop (List.mem_cons_of_mem group hmem)
    cases group with
    | none => exact .cons .absent hrest
    | some ends =>
      obtain ⟨start, stop⟩ := ends
      obtain ⟨hstart, hstop⟩ := h start stop List.mem_cons_self
      exact .cons (.matched (Int32.toInt_ofNat_of_lt (by omega))
        (Int32.toInt_ofNat_of_lt (by omega))) hrest

theorem carries_ofFlat_flatten {length : Nat} (hsize : length ≤ textLimit) {region : Region}
    (h : Within length region) : (Match.ofFlat (flatten region)).Carries region where
  groups := forall₂_carries_flatten hsize h
  ranges := by
    have hgroups := forall₂_carries_flatten hsize h
    generalize (Match.ofFlat (flatten region)).captures = captures at hgroups ⊢
    clear h
    induction hgroups with
    | nil => rfl
    | cons hgroup _ ih => rw [List.map_cons, hgroup.range?_eq, ih]

namespace Linked

variable {ρ : Type} (core : Core ρ) (options : SearchOptions) (e : Engine) (s : HostState (Heap ρ))

/-- A text that is too large is refused, whatever a search of it would come to. -/
theorem checkedSearch_of_too_large (regex : ρ) {text : Bytes} (h : textLimit < text.length)
    (offset : Nat) (beginPosition beginString : Bool) :
    checkedSearch core regex text offset beginPosition beginString =
      .failed (.textTooLarge text.length) :=
  if_pos h

theorem searchWork_of_too_large (regex : ρ) {text : Bytes} (hutf8 : Utf8.fault? text = none)
    (h : textLimit < text.length) (offset : Nat) (beginPosition beginString : Bool) :
    searchWork core (some regex) (.given text) offset beginPosition beginString =
      .failed (.textTooLarge text.length) := by
  rw [searchWork, readText_given _ hutf8]
  exact checkedSearch_of_too_large core regex h offset beginPosition beginString

/-- How a search of a text that is too large ends, at any offset. -/
def tooLarge (text : Bytes) (offset : Nat) : Error :=
  if offset ≤ text.length then .native (heard (.textTooLarge text.length))
  else .offsetOutOfBounds offset text.length

theorem search_eq_tooLarge (p : PatternHandle) (regex : ρ) {text : Bytes} (offset : Nat)
    (hp : s.libraries.patterns.lookup p.address = some regex) (hutf8 : Utf8.fault? text = none)
    (hlarge : textLimit < text.length) :
    ((e.search (libraries core) p text offset options).run s).1 =
      .error (tooLarge text offset) := by
  unfold tooLarge
  split_ifs with ho
  · rw [Engine.search_run _ _ _ _ _ ho]
    refine (answer_search core s.libraries p.address text offset options).trans ?_
    rw [hp, searchWork_of_too_large core regex hutf8 hlarge]
    rfl
  · rw [Engine.search_run_of_lt _ _ _ _ _ (Nat.not_le.mp ho)]

theorem searchText_eq_tooLarge (p : PatternHandle) (regex : ρ) {text : Bytes} (t : TextHandle)
    (offset : Nat) (hp : s.libraries.patterns.lookup p.address = some regex)
    (ht : s.libraries.texts.lookup t.address = some text) (hlength : t.length = text.length)
    (hlarge : textLimit < text.length) :
    ((e.searchText (libraries core) p t offset options).run s).1 =
      .error (tooLarge text offset) := by
  unfold tooLarge
  rw [← hlength]
  split_ifs with ho
  · rw [Engine.searchText_run _ _ _ _ _ ho]
    refine (answer_searchString core s.libraries p.address t.address offset options).trans ?_
    rw [hp, ht, hlength]
    exact congrArg learned (checkedSearch_of_too_large core regex hlarge offset _ _)
  · rw [Engine.searchText_run_of_lt _ _ _ _ _ (Nat.not_le.mp ho)]

/-- What a search finds in a text of a size that is searched arrives as it was found, whether the
text is handed over or kept: a capture for each group in its order, which has the positions of the
group or tells that it took no part. A larger text is refused, whatever a search of it by the engine
inside would come to. -/
theorem search_carries_region (p : PatternHandle) (regex : ρ) (text : Bytes) (t : TextHandle)
    (offset : Nat) (hp : s.libraries.patterns.lookup p.address = some regex)
    (hutf8 : Utf8.fault? text = none) (ht : s.libraries.texts.lookup t.address = some text)
    (hlength : t.length = text.length) :
    let plain := ((e.search (libraries core) p text offset options).run s).1
    let kept := ((e.searchText (libraries core) p t offset options).run s).1
    (text.length ≤ textLimit → offset ≤ text.length → ∀ region, Within text.length region →
      core.search regex text offset options.beginPosition options.beginString =
        .returned (some region) →
        ∃ m : Match, plain = .ok (some m) ∧ kept = .ok (some m) ∧ m.Carries region) ∧
    (textLimit < text.length → plain = .error (tooLarge text offset) ∧
      kept = .error (tooLarge text offset)) := by
  intro plain kept
  constructor
  · intro hsize ho region hregion hfound
    have hpass := searchesPass core options e s
    have hplain := (hpass.inBytes p regex text offset hp hutf8 hsize ho).2
    have hkept := (hpass.keptText p t regex text offset hp ht hlength hsize (hlength ▸ ho)).2
    rw [hfound] at hplain hkept
    exact ⟨.ofFlat (flatten region), hplain, hkept, carries_ofFlat_flatten hsize hregion⟩
  · intro hlarge
    exact ⟨search_eq_tooLarge core options e s p regex offset hp hutf8 hlarge,
      searchText_eq_tooLarge core options e s p regex t offset hp ht hlength hlarge⟩

/-- An engine that finds this region in every text. -/
def finding (region : Region) : Core Unit where
  compile _ := .returned ()
  search _ _ _ _ _ := .returned (some region)

/-- A group that took no part between two that did, of which one ends before it begins. -/
theorem search_carries_region_inverted :
    let region : Region := [some (0, 3), none, some (2, 1)]
    let text : Bytes := [0x61, 0x62, 0x63]
    let heap : Heap Unit := ⟨3, [(1, ())], [(2, text)]⟩
    ∃ m : Match, ((Engine.search (libraries (finding region)) ⟨0, false⟩ ⟨1⟩ text 0 .standard).run
      ⟨heap, []⟩).1 = .ok (some m) ∧ m.Carries region ∧ m = ⟨[⟨0, 3⟩, .unmatched, ⟨2, 1⟩]⟩ := by
  intro region text heap
  obtain ⟨hsmall, -⟩ :=
    search_carries_region (finding region) .standard ⟨0, false⟩ ⟨heap, []⟩ ⟨1⟩ () text ⟨2, 3⟩ 0
      rfl (by decide +kernel) rfl rfl
  have hwithin : Within text.length region := by
    intro start stop hmem
    simp only [region, List.mem_cons, Option.some.injEq, Prod.mk.injEq, reduceCtorEq,
      List.not_mem_nil, or_false, false_or] at hmem
    rcases hmem with ⟨rfl, rfl⟩ | ⟨rfl, rfl⟩ <;> decide
  obtain ⟨m, hplain, -, hcarries⟩ := hsmall (by decide) (Nat.zero_le _) region hwithin rfl
  have hm : Except.ok (some m) = Except.ok (some (Match.ofFlat (flatten region))) :=
    hplain.symm.trans rfl
  cases hm
  exact ⟨_, hplain, hcarries, by decide⟩

end Linked

end RegexHost

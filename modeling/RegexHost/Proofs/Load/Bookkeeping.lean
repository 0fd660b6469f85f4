import RegexHost.Proofs.Load.Attempts
import RegexHost.Proofs.Load.Later

/-! The books of temporary directories over whole runs. A load adds a directory to both lists, when
it succeeds with a packaged library, or to none; no load follows a success, so there is never more
than one. -/
namespace RegexHost.Load

open Files

/-- A value was loaded from a package. -/
def FromPackage (calls : List Attempt) (h : List (Event Error Opened)) : Prop :=
  ∃ i o c, .ended i (.value o) ∈ h ∧ calls[i]? = some c ∧ c.packages = true

/-- The books are right: the directories that are there are those to be removed, which is one for a
value from a package and none without. -/
structure World.Booked (calls : List Attempt) (h : List (Event Error Opened))
    (w : World) : Prop where
  exact : w.live = w.pending
  one : FromPackage calls h → ∃ l, w.pending = [l] ∧ l ≠ [] ∧ w.files.node? l = some .directory
  none : ¬ FromPackage calls h → w.pending = []

variable {calls : List Attempt} {h : List (Event Error Opened)} {w : World}
  {r : Race World Error Opened}

theorem fromPackage_append_iff {e : Event Error Opened} (he : ∀ i o, e ≠ .ended i (.value o)) :
    FromPackage calls (h ++ [e]) ↔ FromPackage calls h := by
  constructor
  · rintro ⟨i, o, c, hmem, hc, hp⟩
    rcases List.mem_append.mp hmem with hmem | hmem
    · exact ⟨i, o, c, hmem, hc, hp⟩
    · exact absurd (List.mem_singleton.mp hmem).symm (he i o)
  · rintro ⟨i, o, c, hmem, hc, hp⟩
    exact ⟨i, o, c, List.mem_append_left _ hmem, hc, hp⟩

theorem World.Booked.congr {h' : List (Event Error Opened)} (hw : w.Booked calls h)
    (hh : FromPackage calls h' ↔ FromPackage calls h) : w.Booked calls h' :=
  ⟨hw.exact, fun hp => hw.one (hh.mp hp), fun hp => hw.none fun hp' => hp (hh.mpr hp')⟩

theorem not_fromPackage (hh : Event.values h = []) : ¬ FromPackage calls h := by
  rintro ⟨i, o, c, hmem, -, -⟩
  have hv : o ∈ Event.values h := List.mem_filterMap.mpr ⟨_, hmem, rfl⟩
  rw [hh] at hv
  cases hv

namespace Race

/-- One load, when there was no value before. -/
theorem booked_loading {i : Nat} {c : Attempt} (hw : w.Booked calls h) (hh : Event.values h = [])
    (hc : calls[i]? = some c) {result : Outcome Error Opened} {w' : World}
    (hl : c.Loads w (result, w')) : w'.Booked calls (h ++ [.ended i result]) := by
  have hpending := hw.none (not_fromPackage hh)
  have hlive := hw.exact.trans hpending
  cases hl with
  | @failed e _ hlive' hpending' =>
    have hl : c.Loads w (.failed e, w') := .failed hlive' hpending'
    have hempty := hl.live_of_failed hlive
    refine ⟨hempty.trans (hpending'.trans hpending).symm, fun hp => ?_,
      fun _ => hpending'.trans hpending⟩
    exact absurd ((fromPackage_append_iff (by nofun)).mp hp) (not_fromPackage hh)
  | @value o _ hp hlists =>
    refine ⟨?_, fun hp' => ?_, fun _ => hlists.pending.trans hpending⟩
    · rw [hlists.live, hlists.pending, hw.exact]
    · obtain ⟨j, o', c', hmem, hc', hp'⟩ := hp'
      rcases List.mem_append.mp hmem with hmem | hmem
      · exact absurd ⟨j, o', c', hmem, hc', hp'⟩ (not_fromPackage hh)
      · cases List.mem_singleton.mp hmem
        cases hc.symm.trans hc'
        cases hp.symm.trans hp'
  | @packaged o _ l hp hl hdir hlive' hpending' =>
    rw [hlive, List.nil_append] at hlive'
    rw [hpending, List.nil_append] at hpending'
    refine ⟨hlive'.trans hpending'.symm, fun _ => ⟨l, hpending', hl, hdir⟩, fun hn => ?_⟩
    exact absurd ⟨i, o, c, List.mem_append_right _ List.mem_cons_self, hc, hp⟩ hn

theorem Runs.exists_attempt (hl : r.Runs (calls.map Attempt.load)) {i : Nat}
    {load : Loader World Error Opened} {p : Point Error Opened}
    (hc : r.calls[i]? = some (load, p)) : ∃ c, calls[i]? = some c ∧ c.load = load := by
  have hlookup := hl i load p hc
  rw [List.getElem?_map] at hlookup
  exact Option.map_eq_some_iff.mp hlookup

theorem booked_step (hw : r.world.Booked calls h) (hr : r.Consistent h)
    (hl : r.Runs (calls.map Attempt.load))
    (i : Nat) : (r.step i).world.Booked calls (h ++ (r.event? i).toList) := by
  obtain ⟨hs, he, -⟩ | ⟨load, p, p', gate, world, hc, ha, hs, he⟩ := r.step_cases i
  · rw [hs, he, Option.toList_none, List.append_nil]
    exact hw
  have hm := Gate.moves_of_advance ha
  have hfits := hr.fits i load p hc
  obtain ⟨c, hci, rfl⟩ := hl.exists_attempt hc
  have hloads : c.Loads r.world (c.load r.gate r.world) := c.loads r.gate r.world
  rw [hs, he]
  cases hm with
  | loads hrun =>
    rw [hrun] at hloads
    exact booked_loading hw hfits.2.2.2 hci hloads
  | @fails result w' hrun hn =>
    rw [hrun] at hloads
    have hb := booked_loading hw hfits.2.2.2 hci hloads
    cases result <;> exact hb
  | hit | unlock => exact hw.congr (fromPackage_append_iff nofun)
  | start => exact hw.congr (fromPackage_append_iff nofun)
  | miss | lock | found | missing | write | publish =>
    exact (congrArg (World.Booked calls · r.world) (List.append_nil h)).mpr hw

theorem booked_run (hw : r.world.Booked calls h) (hr : r.Consistent h)
    (hl : r.Runs (calls.map Attempt.load))
    (schedule : List Nat) : (r.run schedule).world.Booked calls (h ++ r.events schedule) := by
  induction schedule generalizing r h with
  | nil =>
    rw [events, List.append_nil]
    exact hw
  | cons i schedule ih =>
    rw [events, ← List.append_assoc]
    exact ih (booked_step hw hr hl i) (hr.step i) (hl.step i)

/-- No turn of a call that fails in the end changes the value or the books. -/
theorem failed_step (hw : r.world.Booked calls h) (hr : r.Consistent h)
    (hl : r.Runs (calls.map Attempt.load)) {i : Nat} {later : List Nat} {e : Error}
    (he : .returned i (.failed e) ∈ h ++ r.events (i :: later)) :
    (r.step i).gate.value = r.gate.value ∧ (r.step i).world.SameLists r.world := by
  have hown := (hr.run (i :: later)).fault he nofun
  have hno (o : Opened) : .ended i (.value o) ∉ h ++ r.events (i :: later) := by
    intro hmem
    have ho : Event.ended i (.value o) ∈ Event.own i (h ++ r.events (i :: later)) :=
      Event.mem_own.mpr ⟨hmem, rfl⟩
    rw [hown] at ho
    simp at ho
  obtain ⟨hs, -, -⟩ | ⟨load, p, p', gate, world, hc, ha, hs, hevent⟩ := r.step_cases i
  · rw [hs]
    exact ⟨rfl, rfl, rfl⟩
  have hm := Gate.moves_of_advance ha
  have hfits := hr.fits i load p hc
  rw [hs]
  cases hm with
  | @loads o w' hrun =>
    refine absurd (List.mem_append_right h ?_) (hno o)
    rw [events, hevent]
    exact List.mem_append_left _ (List.mem_singleton_self _)
  | @write o =>
    refine absurd (List.mem_append_left _ ?_) (hno o)
    exact (Event.mem_own.mp (hfits.1 ▸ List.mem_cons_of_mem _ List.mem_cons_self)).1
  | @fails result w' hrun hn =>
    obtain ⟨c, -, rfl⟩ := hl.exists_attempt hc
    have hloads : c.Loads r.world (c.load r.gate r.world) := c.loads r.gate r.world
    have hpending := hw.none (not_fromPackage hfits.2.2.2)
    have hlive := hw.exact.trans hpending
    rw [hrun] at hloads
    cases hloads with
    | @failed e _ hlive' hpending' =>
      have hl : c.Loads r.world (.failed e, world) := .failed hlive' hpending'
      have hempty := hl.live_of_failed hlive
      exact ⟨rfl, hlive.trans hempty.symm, hpending'.symm⟩
    | value | packaged => exact absurd rfl (hn _)
  | _ => exact ⟨rfl, rfl, rfl⟩

end Race

/-- The exit hook removes what is in the books. -/
theorem World.Booked.cleanUp (hw : w.Booked calls h) :
    w.cleanUp.pending = [] ∧ w.cleanUp.live = [] ∧
      ∀ l ∈ w.pending, ∀ m, l <+: m → w.cleanUp.files.node? m = .none := by
  by_cases hp : FromPackage calls h
  · obtain ⟨l, hpending, hl, -⟩ := hw.one hp
    have hclean : w.cleanUp = { w.removeDirectory l with pending := [] } := by
      rw [World.cleanUp, hpending]
      rfl
    rw [hclean, hpending]
    refine ⟨rfl, ?_, fun l' hl' m hm => ?_⟩
    · change w.live.erase l = []
      rw [hw.exact, hpending, List.erase_cons_head]
    · cases List.mem_singleton.mp hl'
      exact (FileSystem.node?_removeTree w.files hl m).trans (if_pos hm)
  · have hpending := hw.none hp
    have hclean : w.cleanUp = { w with pending := [] } := by
      rw [World.cleanUp, hpending]
      rfl
    rw [hclean, hpending]
    exact ⟨rfl, hw.exact.trans hpending, nofun⟩

/-- The one load that returned a value. -/
theorem Event.exists_ended {o : Opened} (hh : Event.values h = [o]) :
    ∃ i, .ended i (.value o) ∈ h ∧ ∀ j o', .ended j (.value o') ∈ h → j = i := by
  obtain ⟨before, e, after, rfl, hbefore, he, hafter⟩ := List.filterMap_eq_cons_iff.mp hh
  rcases e with _ | ⟨i, b | _ | _⟩ | _ <;> cases he
  refine ⟨i, by simp, fun j o' hmem => ?_⟩
  rcases List.mem_append.mp hmem with hmem | hmem
  · cases hbefore _ hmem
  rcases List.mem_cons.mp hmem with heq | hmem
  · cases heq
    rfl
  · cases List.filterMap_eq_nil_iff.mp hafter _ hmem

namespace Race

theorem booked_start (files : FileSystem) : (Running.start files).world.Booked calls [] where
  exact := rfl
  one := by
    rintro ⟨_, _, _, hmem, -⟩
    cases hmem
  none _ := rfl

theorem standing (hw : r.world.Booked calls h) {l : Location} (hmem : l ∈ r.world.live) :
    r.world.files.node? l = some .directory := by
  rw [hw.exact] at hmem
  by_cases hp : FromPackage calls h
  · obtain ⟨l', hpending, -, hdir⟩ := hw.one hp
    rw [hpending] at hmem
    cases List.mem_singleton.mp hmem
    exact hdir
  · rw [hw.none hp] at hmem
    cases hmem

theorem loaded (hw : r.world.Booked calls h) (hr : r.Consistent h)
    (hl : r.Runs (calls.map Attempt.load)) {o : Opened} (hv : r.gate.value = some o) :
    ∃ i c, .ended i (.value o) ∈ h ∧ calls[i]? = some c ∧
      r.world.pending.length = if c.packages then 1 else 0 := by
  obtain ⟨i, hmem, hunique⟩ := Event.exists_ended (hr.values_eq hv)
  obtain ⟨load, p, hc, -⟩ := hr.exists_call (Event.mem_own.mpr ⟨hmem, rfl⟩)
  obtain ⟨c, hci, -⟩ := hl.exists_attempt hc
  refine ⟨i, c, hmem, hci, ?_⟩
  by_cases hp : c.packages = true
  · obtain ⟨l, hpending, -⟩ := hw.one ⟨i, o, c, hmem, hci, hp⟩
    rw [hpending, if_pos hp, List.length_singleton]
  · rw [hw.none, if_neg hp, List.length_nil]
    rintro ⟨j, o', c', hmem', hcj, hp'⟩
    cases hunique j o' hmem'
    cases hci.symm.trans hcj
    exact hp hp'

theorem pending_of_settled (hw : r.world.Booked calls h) (hg : r.gate.Settled h)
    (hv : r.gate.value = none) : r.world.pending = [] := by
  refine hw.none (not_fromPackage ?_)
  rw [hg.values, hv, Option.toList_none]

theorem unloaded (hw : r.world.Booked calls h) (hr : r.Consistent h) (hv : r.gate.value = none)
    (hs : r.gate.state ≠ .loading) : r.world.pending = [] := by
  obtain hg | ⟨i, load, p, hc, hat, hp⟩ := hr.settled_or
  · exact pending_of_settled hw hg hv
  · exact absurd (hp.state_of_attempting hat) hs

theorem began (hw : r.world.Booked calls h) (hr : r.Consistent h) {i : Nat}
    (he : r.event? i = some (.began i)) :
    r.gate = ⟨none, .notLoaded, some i⟩ ∧ r.world.pending = [] := by
  obtain ⟨-, hn, -⟩ | ⟨load, p, p', gate, world, hc, ha, -, he'⟩ := r.step_cases i
  · cases hn.symm.trans he
  cases (Gate.moves_of_advance ha).of?_eq_began (he'.symm.trans he)
  obtain ⟨-, hg, hv⟩ := hr.fits i load _ hc
  have hholder := (hr.inside_iff i load _ hc).mp rfl
  have hstate := hg.state
  rw [hv] at hstate
  refine ⟨?_, pending_of_settled hw hg hv⟩
  calc r.gate = ⟨r.gate.value, r.gate.state, r.gate.holder⟩ := rfl
    _ = _ := by rw [hv, hstate, hholder]; rfl

theorem failed (hw : r.world.Booked calls h) (hr : r.Consistent h) (hb : r.Barren)
    {i : Nat} {e : Error} (he : r.event? i = some (.returned i (.failed e))) :
    (r.step i).gate = .empty ∧ (r.step i).world.pending = [] := by
  obtain ⟨-, hn, -⟩ | ⟨load, p, p', gate, world, hc, ha, hs, he'⟩ := r.step_cases i
  · cases hn.symm.trans he
  have hm := Gate.moves_of_advance ha
  rw [he'] at he
  cases hm with
  | unlock =>
    cases he
    obtain ⟨hg, -⟩ := hr.fits i load _ hc
    have hv := hb i load _ hc nofun
    have hstate := hg.state
    have hpending := pending_of_settled hw hg hv
    rw [hv] at hstate
    rw [hs]
    refine ⟨?_, hpending⟩
    rw [hv, hstate]
    rfl
  | _ => cases he

/-- `h` is what happened up to `r`. -/
structure Bookkeeping (calls : List Attempt) (h : List (Event Error Opened))
    (r : Race World Error Opened) : Prop where
  exact : r.world.live = r.world.pending
  standing : ∀ l ∈ r.world.live, r.world.files.node? l = some .directory
  loaded : ∀ o, r.gate.value = some o → ∃ i c, .ended i (.value o) ∈ h ∧ calls[i]? = some c ∧
    r.world.pending.length = if c.packages then 1 else 0
  unloaded : r.gate.value = none → r.gate.state ≠ .loading → r.world.pending = []
  /-- A load finds the gate as it was first, and a call that fails in the end leaves it so: -/
  began : ∀ i, r.event? i = some (.began i) → r.gate = ⟨none, .notLoaded, some i⟩ ∧
    r.world.pending = []
  /-- none of its turns changes the value or the lists. -/
  between : ∀ i later e, .returned i (.failed e) ∈ h ++ r.events (i :: later) →
    (r.step i).gate.value = r.gate.value ∧ (r.step i).world.SameLists r.world
  failed : ∀ i e, r.event? i = some (.returned i (.failed e)) →
    (r.step i).gate = .empty ∧ (r.step i).world.pending = []
  /-- After a success no load begins, the world stays, and each call returns the same. -/
  kept : ∀ i o, .returned i (.value o) ∈ h → ∀ later,
    (r.run later).gate.value = some o ∧ (r.run later).world = r.world ∧
    (∀ j, .began j ∉ r.events later) ∧
    (∀ j result, .returned j result ∈ r.events later → result = .value o) ∧
    ∀ j load, (r.run later).calls[j]? = some (load, .reading) →
      ((r.run later).step j).calls[j]? = some (load, .returned (.value o))
  exit : r.world.cleanUp.pending = [] ∧ r.world.cleanUp.live = [] ∧
    ∀ l ∈ r.world.pending, ∀ m, l <+: m → r.world.cleanUp.files.node? m = none

theorem kept (hr : r.Consistent h) (ht : r.Truthful) (hb : r.Barren) {i : Nat} {o : Opened}
    (he : .returned i (.value o) ∈ h) (later : List Nat) :
    (r.run later).gate.value = some o ∧ (r.run later).world = r.world ∧
      (∀ j, .began j ∉ r.events later) ∧
      (∀ j result, .returned j result ∈ r.events later → result = .value o) ∧
      ∀ j load, (r.run later).calls[j]? = some (load, .reading) →
        ((r.run later).step j).calls[j]? = some (load, .returned (.value o)) := by
  have hv : r.gate.value = some o := (hr.fits_of_returned he).1 o rfl
  have hvalues : Event.values h ≠ [] := by
    rw [hr.values_eq hv]
    nofun
  refine ⟨value_run hv later, hr.world_run hv later, fun j => hr.not_mem_events hvalues later,
    ?_, ?_⟩
  · exact fun j result hret => hb.results_eq hr ht hv later hret
  · exact fun j load hc => returned_step (value_run hv later) hc

/-- The books are right at every moment, whatever the calls find and however they take turns. A
process that makes its calls one after the other is among these races. -/
theorem bookkeeping (files : FileSystem) (calls : List Attempt) (schedule : List Nat) :
    let r := start .empty (Running.start files).world (calls.map Attempt.load)
    Bookkeeping calls (r.events schedule) (r.run schedule) ∧
      let (results, p) := (Running.sequence calls).run (Running.start files)
      let alone := r.run (oneByOne 0 calls.length)
      alone.gate = p.gate ∧ alone.world = p.world ∧ alone.results = results.map some := by
  intro r
  refine ⟨?_, start_oneByOne files calls⟩
  have hr₀ := consistent_start (Running.start files).world (calls.map Attempt.load)
  have ht₀ := truthful_start .empty (Running.start files).world (calls.map Attempt.load)
  have hl₀ := runs_start .empty (Running.start files).world (calls.map Attempt.load)
  have hr := hr₀.run schedule
  have ht := ht₀.run schedule
  have hl := hl₀.run schedule
  have hb := (barren_start .empty (Running.start files).world (calls.map Attempt.load)).run
    hr₀ ht₀ schedule
  have hw := booked_run (booked_start files) hr₀ hl₀ schedule
  exact {
    exact := hw.exact
    standing := fun _ => standing hw
    loaded := fun _ => loaded hw hr hl
    unloaded := unloaded hw hr
    began := fun _ => began hw hr
    between := fun _ _ _ => failed_step hw hr hl
    failed := fun _ _ => failed hw hr hb
    kept := fun _ _ => kept hr ht hb
    exit := hw.cleanUp }

end Race
end RegexHost.Load

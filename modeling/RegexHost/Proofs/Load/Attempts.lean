import RegexHost.Load.Race
import RegexHost.Proofs.Load.Opening

/-! Calls for a library: how the load of one goes, and calls one after the other as a race in which
none waits. -/
namespace RegexHost.Load

open Files

/-- A call for a library. What each call finds may differ. -/
structure Attempt where
  surroundings : Surroundings
  refusals : Refusals
  loader : LibraryLoader
  request : Request

namespace Attempt

def load (c : Attempt) : Loader World Error Opened :=
  c.loader.load c.surroundings c.refusals c.request

/-- Whether the call asks for the packaged library. -/
def packages (c : Attempt) : Bool :=
  match c.request with
  | .packaged => true
  | .configured => c.loader.config.libraryPath.isNone
  | .explicit _ | .linked => false

/-- How a load goes: `w'` is what it leaves of the world. -/
inductive Loads (c : Attempt) (w : World) : Outcome Error Opened × World → Prop
  | failed {e : Error} {w' : World}
      (hlive : w'.live = w.live ∨ ∃ l, w'.live = (w.live ++ [l]).erase l)
      (hpending : w'.pending = w.pending) : Loads c w (.failed e, w')
  | value {o : Opened} {w' : World} (hp : c.packages = false) (hlists : w.SameLists w') :
    Loads c w (.value o, w')
  | packaged {o : Opened} {w' : World} {l : Location} (hp : c.packages = true) (hl : l ≠ [])
      (hdir : w'.files.node? l = some .directory) (hlive : w'.live = w.live ++ [l])
      (hpending : w'.pending = w.pending ++ [l]) : Loads c w (.value o, w')

/-- A load that fails leaves no directory where there was none. -/
theorem Loads.live_of_failed {c : Attempt} {w w' : World} {e : Error}
    (hl : c.Loads w (.failed e, w')) (hw : w.live = []) : w'.live = [] := by
  cases hl with
  | failed hlive => rcases hlive with he | ⟨l, he⟩ <;> simp [he, hw]

theorem load_run (c : Attempt) (g : Gate Opened) (w : World) :
    (c.load g).run w =
      match (c.loader.openFor c.surroundings c.refusals c.request).run.run w with
      | (.ok o, w') => (.value o, w')
      | (.error e, w') => (.failed e, w') := by
  rw [load, LibraryLoader.load, StateT.run_bind]
  rcases (c.loader.openFor c.surroundings c.refusals c.request).run.run w with ⟨_ | o, w'⟩ <;> rfl

theorem loads_of_packaged {c : Attempt} {g : Gate Opened} {w : World} (hp : c.packages = true)
    (hc : c.loader.openFor c.surroundings c.refusals c.request =
      openPackaged c.surroundings c.refusals c.loader.config c.loader.bundle) :
    c.Loads w ((c.load g).run w) := by
  rw [load_run, hc]
  have ho := opensPackaged c.surroundings c.refusals c.loader.config c.loader.bundle w
  generalize (openPackaged _ _ _ _).run.run w = x at ho ⊢
  cases ho with
  | refused hfiles hlists => exact .failed (.inl hlists.live) hlists.pending
  | removed hu hfiles hlive hpending => exact .failed (.inr ⟨_, hlive⟩) hpending
  | kept hu hlive hpending => exact .packaged hp hu.new.1 hu.new.2 hlive hpending

theorem loads_of_path {c : Attempt} {g : Gate Opened} {w : World} {path : String}
    (hp : c.packages = false)
    (hc : c.loader.openFor c.surroundings c.refusals c.request = openLibrary c.surroundings path) :
    c.Loads w ((c.load g).run w) := by
  obtain ⟨result, engines, hrun⟩ := openLibrary_run c.surroundings path w
  rw [load_run, hc, hrun]
  cases result with
  | error e => exact .failed (.inl rfl) rfl
  | ok o => exact .value hp ⟨rfl, rfl⟩

theorem loads (c : Attempt) (g : Gate Opened) (w : World) : c.Loads w ((c.load g).run w) := by
  obtain ⟨s, refusals, ⟨config, bundle⟩, request⟩ := c
  cases request with
  | packaged => exact loads_of_packaged rfl rfl
  | explicit path => exact loads_of_path rfl rfl
  | linked => exact .value rfl ⟨rfl, rfl⟩
  | configured =>
    cases hpath : config.libraryPath with
    | some path =>
      refine @loads_of_path _ g w path ?_ ?_
      · simp [packages, hpath]
      · simp [LibraryLoader.openFor, hpath]
    | none =>
      refine loads_of_packaged ?_ ?_
      · simp [packages, hpath]
      · simp [LibraryLoader.openFor, hpath]

end Attempt

namespace Running

/-- Each call returns before the next one begins. -/
def sequence (calls : List Attempt) : StateM Running (List (Outcome Error Opened)) :=
  calls.mapM fun c => Running.ensureLoaded c.surroundings c.loader c.request c.refusals

theorem sequence_cons (c : Attempt) (calls : List Attempt) (p : Running) :
    (sequence (c :: calls)).run p =
      let ((result, gate), world) := (p.gate.getOrLoad c.load).run p.world
      let (results, p') := (sequence calls).run ⟨gate, world⟩
      (result :: results, p') := by
  rw [sequence, List.mapM_cons]
  rfl

end Running

namespace Race

variable {ω ε α : Type} {load : Loader ω ε α} {i : Nat} {cs : List (Loader ω ε α × Point ε α)}
  {g : Gate α} {w : ω}

theorem step_set (hi : i < cs.length) (p : Point ε α) :
    step ⟨g, w, cs.set i (load, p)⟩ i =
      match g.advance i load w p with
      | some (p', g', w') => ⟨g', w', cs.set i (load, p')⟩
      | none => ⟨g, w, cs.set i (load, p)⟩ := by
  rw [step]
  dsimp only
  rw [List.getElem?_set_self hi]
  dsimp only
  rcases g.advance i load w p with _ | ⟨p', g', w'⟩
  · rfl
  · simp [List.set_set]

theorem run_getOrLoad (g : Gate α) (load : Loader ω ε α) (w : ω) :
    (g.getOrLoad load).run w =
      match g.value with
      | some a => ((.value a, g), w)
      | none =>
        match (load { g with state := .loading }).run w with
        | (.value a, w') => ((.value a, { g with value := some a, state := .loaded }), w')
        | (result, w') => ((result, { g with state := .notLoaded }), w') := by
  obtain ⟨_ | a, state, holder⟩ := g
  · rw [Gate.getOrLoad]
    dsimp only
    rw [StateT.run_bind]
    generalize (load ⟨none, .loading, holder⟩).run w = x
    obtain ⟨_ | _ | _, w'⟩ := x <;> rfl
  · rfl

theorem holder_getOrLoad (g : Gate α) (load : Loader ω ε α) (w : ω) :
    ((g.getOrLoad load).run w).1.2.holder = g.holder := by
  rw [run_getOrLoad]
  obtain ⟨_ | a, state, holder⟩ := g
  · dsimp only
    generalize (load ⟨none, .loading, holder⟩).run w = x
    obtain ⟨_ | _ | _, w'⟩ := x <;> rfl
  · rfl

/-- A call that has its turns with no other between them comes to the same as a call alone. -/
theorem run_alone (hload : ∀ g g', load g = load g') (hg : g.holder = none)
    (hc : cs[i]? = some (load, .reading)) :
    run ⟨g, w, cs⟩ (List.replicate 8 i) =
      let ((result, gate), world) := (g.getOrLoad load).run w
      ⟨gate, world, cs.set i (load, .returned result)⟩ := by
  obtain ⟨hi, hget⟩ := List.getElem?_eq_some_iff.mp hc
  have hset : cs = cs.set i (load, .reading) := by rw [← hget, List.set_getElem_self]
  obtain ⟨value, state, holder⟩ := g
  obtain rfl : holder = none := hg
  rw [hset, run_getOrLoad]
  cases value with
  | some a =>
    simp only [run, List.replicate, List.foldl_cons, List.foldl_nil, step_set hi,
      Gate.advance, List.set_set]
  | none =>
    dsimp only
    generalize hl : (load ⟨none, .loading, none⟩).run w = x
    obtain ⟨result, w'⟩ := x
    have hl' : load ⟨none, .loading, some i⟩ w = (result, w') := by
      rw [hload _ ⟨none, .loading, none⟩, ← hl, StateT.run]
    cases result <;>
      simp only [run, List.replicate, List.foldl_cons, List.foldl_nil, step_set hi, Gate.advance,
        hl', List.set_set, Option.isNone_none, if_pos, Option.getD_none]

theorem run_append (r : Race ω ε α) (schedule later : List Nat) :
    r.run (schedule ++ later) = (r.run schedule).run later :=
  List.foldl_append

/-- Eight turns for each call. -/
def oneByOne (first calls : Nat) : List Nat :=
  (List.range' first calls).flatMap (List.replicate 8)

/-- Calls one after the other are a race in which each has its turns before the next one. -/
theorem run_oneByOne (calls : List Attempt) {p : Running} (hg : p.gate.holder = none)
    (done : List (Loader World Error Opened × Point Error Opened)) :
    let (results, p') := (Running.sequence calls).run p
    results.length = calls.length ∧
      run ⟨p.gate, p.world, done ++ calls.map fun c => (c.load, .reading)⟩
        (oneByOne done.length calls.length) = ⟨p'.gate, p'.world,
          done ++ (calls.zip results).map fun c => (c.1.load, .returned c.2)⟩ := by
  induction calls generalizing p done with
  | nil => exact ⟨rfl, rfl⟩
  | cons c calls ih =>
    rcases hrun : (p.gate.getOrLoad c.load).run p.world with ⟨⟨result, gate⟩, world⟩
    have hgate : gate.holder = none := by
      have hkept := holder_getOrLoad p.gate c.load p.world
      rw [hrun] at hkept
      exact hkept.trans hg
    have hfirst :
        run ⟨p.gate, p.world, done ++ (c.load, .reading) :: calls.map fun c => (c.load, .reading)⟩
        (List.replicate 8 done.length) =
          ⟨gate, world,
           (done ++ [(c.load, .returned result)]) ++ calls.map fun c => (c.load, .reading)⟩ := by
      have hload : ∀ g g', c.load g = c.load g' := fun _ _ => rfl
      rw [run_alone (i := done.length) hload hg (by simp), hrun]
      simp
    have hrest := ih (p := ⟨gate, world⟩) hgate (done ++ [(c.load, .returned result)])
    rw [List.length_append, List.length_singleton] at hrest
    rw [Running.sequence_cons, hrun]
    dsimp only
    generalize (Running.sequence calls).run ⟨gate, world⟩ = x at hrest ⊢
    obtain ⟨results, p'⟩ := x
    obtain ⟨hlength, hrest⟩ := hrest
    refine ⟨congrArg (· + 1) hlength, ?_⟩
    rw [oneByOne, List.length_cons, List.range'_succ, List.flatMap_cons, ← oneByOne, run_append,
      List.map_cons, hfirst, hrest, List.append_assoc, List.singleton_append]
    rfl

theorem start_oneByOne (files : FileSystem) (calls : List Attempt) :
    let (results, p) := (Running.sequence calls).run (Running.start files)
    let r := (start .empty (Running.start files).world (calls.map Attempt.load)).run
      (oneByOne 0 calls.length)
    r.gate = p.gate ∧ r.world = p.world ∧ r.results = results.map some := by
  have hrun := run_oneByOne calls (p := Running.start files) rfl []
  have hstart : start .empty (Running.start files).world (calls.map Attempt.load) =
      ⟨(Running.start files).gate, (Running.start files).world,
       [] ++ calls.map fun c => (c.load, .reading)⟩ := by
    rw [start, List.map_map]
    rfl
  rw [List.length_nil, ← hstart] at hrun
  generalize (Running.sequence calls).run (Running.start files) = x at hrun ⊢
  obtain ⟨outcomes, p⟩ := x
  obtain ⟨hlength, hrun⟩ := hrun
  dsimp only
  rw [hrun]
  refine ⟨rfl, rfl, ?_⟩
  calc
    _ = (calls.zip outcomes).map fun c => some c.2 := by
      rw [results, List.nil_append, List.map_map]
      rfl
    _ = ((calls.zip outcomes).map Prod.snd).map some := by
      rw [List.map_map]
      rfl
    _ = outcomes.map some := by rw [List.map_snd_zip hlength.le]

end Race
end RegexHost.Load

import RegexHost.Proofs.Build.Attempt

/-! A build for several platforms: the entries before the first that fails are staged, that one
leaves what was staged before, and the later ones are not begun. -/
namespace RegexHost.Build

open Files FileSystem

variable {b : Builder} {env : Environment} {p : Platform} {ps : List Platform}
  {w w₁ w₂ w' wp : Workshop} {s : Entry} {log : List Entry} {e : Error} {l : Location}
  {path : String} {final : Except Error (List String) × Workshop}

/-- The bytes that were staged last at a place. -/
def lastAt (l : Location) : List Entry → Option Bytes
  | [] => none
  | s :: log => (lastAt l log).or (if s.location = l then some s.content else none)

theorem lastAt_append (l : Location) (log log' : List Entry) :
    lastAt l (log ++ log') = (lastAt l log').or (lastAt l log) := by
  induction log with
  | nil => exact Option.or_none.symm
  | cons s log ih => rw [List.cons_append, lastAt, ih, Option.or_assoc, lastAt]

namespace Builder

/-- The build for these platforms comes to an entry, in this workshop. -/
inductive Enters (b : Builder) (env : Environment) :
    List Platform → Workshop → Platform → Workshop → Prop
  | first {p : Platform} {ps : List Platform} {w : Workshop} : Enters b env (p :: ps) w p w
  | later {p q : Platform} {ps : List Platform} {w w' wq : Workshop} {path : String}
      (hbuild : (b.build env p).run.run w = (.ok path, w')) (henters : Enters b env ps w' q wq) :
    Enters b env (p :: ps) w q wq

/-- Entries are built and staged one after another. -/
inductive Progress (b : Builder) (env : Environment) : Workshop → List Entry → Workshop → Prop
  | start {w : Workshop} : Progress b env w [] w
  | entry {s : Entry} {log : List Entry} {w w₁ w₂ w' : Workshop}
      (hattempt : Attempt b env s.platform w none w₁) (hstages : b.Stages w₁ s w₂)
      (hrest : Progress b env w₂ log w') : Progress b env w (s :: log) w'

/-- How a build ends after these entries: with all that was asked for, or with the error of the next
one. -/
inductive Ends (b : Builder) (env : Environment) (ps : List Platform) (log : List Entry)
    (w : Workshop) : Except Error (List String) × Workshop → Prop
  | all (hps : ps = log.map (·.platform)) : Ends b env ps log w (.ok (ps.map b.staged), w)
  | fails {p : Platform} {later : List Platform} {e : Error} {w' : Workshop}
      (hps : ps = log.map (·.platform) ++ p :: later) (hattempt : Attempt b env p w (some e) w') :
    Ends b env ps log w (.error e, w')

/-- What a build leaves at a place that no run of cargo changes: the library staged there last, what
stood there, or a directory made for a library. -/
inductive Leaves (b : Builder) (log : List Entry) (l : Location) (old : Option Node) :
    Option Node → Prop
  | library {content : Bytes} (hlast : lastAt l log = some content) :
    Leaves b log l old (some (.file content))
  | kept (hlast : lastAt l log = none) : Leaves b log l old old
  | made {s : Entry} (hlast : lastAt l log = none) (hold : old = none) (hs : s ∈ log)
      (hfound : s.found.node? l = none)
      (hmade : (s.found.makeDirectories (Path.join b.outDir s.platform.name)).2.node? l =
        some .directory) :
    Leaves b log l old (some .directory)

theorem run_buildAll_cons (b : Builder) (env : Environment) (p : Platform) (ps : List Platform)
    (w : Workshop) :
    (b.buildAll env (p :: ps)).run.run w =
      match (b.build env p).run.run w with
      | (.error e, w') => (.error e, w')
      | (.ok path, w') =>
        match (b.buildAll env ps).run.run w' with
        | (.error e, w'') => (.error e, w'')
        | (.ok paths, w'') => (.ok (path :: paths), w'') := by
  rw [buildAll, List.mapM_cons, run_bind]
  rcases (b.build env p).run.run w with ⟨_ | path, w'⟩
  · rfl
  · dsimp only
    rw [run_bind, ← buildAll]
    rcases (b.buildAll env ps).run.run w' with ⟨_ | paths, w''⟩ <;> rfl

/-- A place that no run of cargo for an entry changes. -/
def Spared (b : Builder) (env : Environment) (ps : List Platform) (w : Workshop)
    (l : Location) : Prop :=
  ∀ p wp fault w', Enters b env ps w p wp → Attempt b env p wp fault w' →
    w'.files.node? l = wp.files.node? l

/-- The files that a platform's library is built as and staged as are never the same. -/
def Apart (b : Builder) (env : Environment) (ps : List Platform) (w : Workshop) : Prop :=
  ∀ p wp path w', Enters b env ps w p wp → (b.build env p).run.run wp = (.ok path, w') →
    w'.files.file? (b.built p) ≠ w'.files.file? (b.staged p)

theorem buildAll_cons_error (hbuild : (b.build env p).run.run w = (.ok path, w'))
    (h : ((b.buildAll env ps).run.run w').1 = .error e) :
    ((b.buildAll env (p :: ps)).run.run w).1 = .error e := by
  rw [run_buildAll_cons, hbuild]
  rcases hrun : (b.buildAll env ps).run.run w' with ⟨_ | paths, w''⟩ <;> rw [hrun] at h <;> cases h
  dsimp only
  rw [hrun]

theorem Enters.append (h : Enters b env ps w p wp) (qs : List Platform) :
    Enters b env (ps ++ qs) w p wp := by
  induction h with
  | first => exact .first
  | later hbuild _ ih => exact .later hbuild ih

/-- Cargo is run once for each of these entries. -/
theorem Progress.runs (h : Progress b env w log w') :
    ∃ rs, w'.runs = w.runs ++ rs ∧ List.Forall₂ b.RunFor (log.map (·.platform)) rs := by
  induction h with
  | start => exact ⟨[], (List.append_nil _).symm, .nil⟩
  | entry hattempt hstages _ ih =>
    obtain ⟨rs, hrs, hfor⟩ := ih
    obtain ⟨run, hrun, hrunFor⟩ | ⟨-, hne⟩ := hattempt.runs
    · refine ⟨run :: rs, ?_, .cons hrunFor hfor⟩
      rw [hrs, hstages.runs, hrun, List.append_assoc]
      rfl
    · exact absurd rfl hne

theorem Ends.cons (hbuild : (b.build env s.platform).run.run w = (.ok (b.staged s.platform), w₂))
    (h : b.Ends env ps log w' ((b.buildAll env ps).run.run w₂)) :
    b.Ends env (s.platform :: ps) (s :: log) w'
      ((b.buildAll env (s.platform :: ps)).run.run w) := by
  rw [run_buildAll_cons, hbuild]
  dsimp only
  generalize (b.buildAll env ps).run.run w₂ = final at h
  cases h with
  | all hps => exact .all (by rw [List.map_cons, ← hps])
  | fails hps hattempt => exact .fails (by rw [hps, List.map_cons, List.cons_append]) hattempt

/-- Cargo is run for a first part of the platforms, that ends with the entry that fails if not
before it. -/
theorem Ends.runs (h : b.Ends env ps log w' final) (hprogress : Progress b env w log w') :
    ∃ started rs, started <+: ps ∧ started.length ≤ log.length + 1 ∧ final.2.runs = w.runs ++ rs ∧
      List.Forall₂ b.RunFor started rs := by
  obtain ⟨rs, hrs, hfor⟩ := hprogress.runs
  cases h with
  | all hps => exact ⟨ps, rs, List.prefix_refl ps, by simp [hps], hrs, hps ▸ hfor⟩
  | fails hps hattempt =>
    next p later e w'' =>
    obtain ⟨run, hrun, hrunFor⟩ | ⟨hrun, -⟩ := hattempt.runs
    · have hstarted : log.map (·.platform) ++ [p] <+: ps := ⟨later, by simp [hps]⟩
      have hruns : w''.runs = w.runs ++ (rs ++ [run]) := by
        rw [hrun, hrs, List.append_assoc]
      exact ⟨_, _, hstarted, by simp, hruns, List.rel_append hfor (.cons hrunFor .nil)⟩
    · have hstarted : log.map (·.platform) <+: ps := ⟨p :: later, hps.symm⟩
      exact ⟨_, _, hstarted, by simp, hrun.trans hrs, hfor⟩

theorem Stages.leaves (h : b.Stages w s w') :
    Leaves b [s] l (w.files.node? l) (w'.files.node? l) := by
  by_cases hl : l = s.location
  · have hlast : lastAt l [s] = some s.content := by simp [lastAt, hl]
    rw [hl, h.node?_location, ← hl]
    exact .library hlast
  · have hlast : lastAt l [s] = none := by simp [lastAt, Ne.symm hl]
    rcases h.node?_of_ne hl with hsame | ⟨hnone, hdirectory, hmade⟩
    · rw [hsame]
      exact .kept hlast
    · have hold : w.files.node? l = none := h.found ▸ hnone
      rw [hdirectory]
      exact .made hlast hold (List.mem_singleton_self s) hnone hmade

theorem Leaves.trans {old node new : Option Node} {log' : List Entry} (h : Leaves b log l old node)
    (h' : Leaves b log' l node new) : Leaves b (log ++ log') l old new := by
  have happend := lastAt_append l log log'
  cases h' with
  | library hlast' =>
    rw [hlast', Option.some_or] at happend
    exact .library happend
  | kept hlast' =>
    rw [hlast', Option.none_or] at happend
    cases h with
    | library hlast => exact .library (happend.trans hlast)
    | kept hlast => exact .kept (happend.trans hlast)
    | made hlast hold hs hfound hmade =>
      exact .made (happend.trans hlast) hold (List.mem_append_left _ hs) hfound hmade
  | made hlast' hold' hs hfound hmade =>
    rw [hlast', Option.none_or] at happend
    -- what was made where nothing stood was not there after the first entries either
    cases h with
    | library => cases hold'
    | kept hlast =>
      exact .made (happend.trans hlast) hold' (List.mem_append_right _ hs) hfound hmade
    | made => cases hold'

section

variable (hfile : ∀ p : Platform, Path.IsName (p.libraryFile b.libraryName))
include hfile

/-- A build that an entry stops is stopped as a whole. -/
theorem Enters.buildAll_error (h : Enters b env ps w p wp)
    (hattempt : Attempt b env p wp (some e) w') : ((b.buildAll env ps).run.run w).1 = .error e := by
  induction h with
  | first => rw [run_buildAll_cons, hattempt.run_build (hfile _)]
  | later hbuild _ ih => exact buildAll_cons_error hbuild (ih hattempt)

theorem Attempt.run_build_stages (h : Attempt b env s.platform w none w₁)
    (hstages : b.Stages w₁ s w₂) :
    (b.build env s.platform).run.run w = (.ok (b.staged s.platform), w₂) :=
  (h.run_build (hfile _)).trans hstages.run

/-- After these entries the build comes to the next one. -/
theorem Progress.enters (h : Progress b env w log w') (p : Platform) (later : List Platform) :
    Enters b env (log.map (·.platform) ++ p :: later) w p w' := by
  induction h with
  | start => exact .first
  | entry hattempt hstages _ ih => exact .later (hattempt.run_build_stages hfile hstages) ih

theorem Ends.ok_of_attempts (h : b.Ends env ps log w' final) (hprogress : Progress b env w log w')
    (hall : ∀ p wp fault w', Enters b env ps w p wp → Attempt b env p wp fault w' → fault = none) :
    final.1 = .ok (ps.map b.staged) := by
  cases h with
  | all => rfl
  | fails hps hattempt =>
    subst hps
    cases hall _ _ _ _ (hprogress.enters hfile _ _) hattempt

theorem Progress.leaves (h : Progress b env w log w')
    (hspared : b.Spared env (log.map (·.platform)) w l) :
    Leaves b log l (w.files.node? l) (w'.files.node? l) := by
  induction h with
  | start => exact .kept rfl
  | entry hattempt hstages _ ih =>
    have hbuild := hattempt.run_build_stages hfile hstages
    have hrest := ih fun p wp fault w' henters => hspared p wp fault w' (.later hbuild henters)
    have hsame := hspared _ _ _ _ .first hattempt
    rw [← hsame]
    exact hstages.leaves.trans hrest

/-- The entry that fails leaves what was left before it. -/
theorem Ends.leaves (h : b.Ends env ps log w' final) (hprogress : Progress b env w log w')
    (hspared : b.Spared env ps w l) : final.2.files.node? l = w'.files.node? l ∧
      Leaves b log l (w.files.node? l) (final.2.files.node? l) := by
  cases h with
  | all hps => exact ⟨rfl, hprogress.leaves hfile (hps ▸ hspared)⟩
  | fails hps hattempt =>
    subst hps
    have hsame := hspared _ _ _ _ (hprogress.enters hfile _ _) hattempt
    have hbefore := hprogress.leaves hfile fun p wp fault w₁ henters =>
      hspared p wp fault w₁ (henters.append _)
    rw [hsame]
    exact ⟨rfl, hbefore⟩

theorem exists_progress (hio : ∀ f, ((b.buildAll env ps).run.run w).1 ≠ .error (.io f))
    (hapart : b.Apart env ps w) :
    ∃ log w', Progress b env w log w' ∧ b.Ends env ps log w' ((b.buildAll env ps).run.run w) := by
  -- one entry is built from any workshop, and the rest from the workshop that it leaves
  induction ps generalizing w with
  | nil => exact ⟨[], w, .start, .all rfl⟩
  | cons p ps ih =>
    have hcons := run_buildAll_cons b env p ps w
    obtain ⟨fault, w₁, hattempt⟩ := exists_attempt b env p w
    have hbuild := hattempt.run_build (hfile p)
    cases fault with
    | some e =>
      rw [hcons, hbuild]
      exact ⟨[], w, .start, .fails rfl hattempt⟩
    | none =>
      obtain ⟨w₂, hstage⟩ | ⟨f, w₂, hstage⟩ := stage_of_isFile (hfile p) hattempt.isFile
      · have hbuilt := hbuild.trans hstage
        have hne := hapart p w _ w₂ .first hbuilt
        have hio' : ∀ f, ((b.buildAll env ps).run.run w₂).1 ≠ .error (.io f) :=
          fun f hf => hio f (buildAll_cons_error hbuilt hf)
        have hapart' : b.Apart env ps w₂ := fun q wq path w' henters =>
          hapart q wq path w' (.later hbuilt henters)
        obtain ⟨s, rfl, hstages⟩ := exists_stages (hfile p) hstage hne
        obtain ⟨log, w', hprogress, hends⟩ := ih hio' hapart'
        exact ⟨s :: log, w', .entry hattempt hstages hprogress, hends.cons hbuilt⟩
      · have hfailed := hbuild.trans hstage
        rw [hfailed] at hcons
        exact absurd (congrArg Prod.fst hcons) (hio f)

end

/-- Where built and staged libraries are different files and no directory or copy fails, the
libraries are staged up to the first entry that fails, each with the bytes that cargo left for it.
No cargo is run for the entries after that one. Where cargo writes nothing, as in the directory that
is staged to, the entry that fails leaves everything as it was, and those before it only have left
libraries and the directories for them. -/
theorem buildAll_stages_prefix (b : Builder) (env : Environment) (ps : List Platform) (w : Workshop)
    (hlibrary : b.libraryName = Native.libraryName)
    (hio : ∀ f, ((b.buildAll env ps).run.run w).1 ≠ .error (.io f)) (hapart : b.Apart env ps w) :
    let final := (b.buildAll env ps).run.run w
    (final.1 = .ok (ps.map b.staged) ↔
      ∀ p wp fault w', Enters b env ps w p wp → Attempt b env p wp fault w' → fault = none) ∧
    ∃ log w', Progress b env w log w' ∧ b.Ends env ps log w' final ∧
      (∃ started rs, started <+: ps ∧ started.length ≤ log.length + 1 ∧
        final.2.runs = w.runs ++ rs ∧ List.Forall₂ b.RunFor started rs) ∧
      ∀ l, b.Spared env ps w l → final.2.files.node? l = w'.files.node? l ∧
        Leaves b log l (w.files.node? l) (final.2.files.node? l) := by
  intro final
  have hfile (p : Platform) : Path.IsName (p.libraryFile b.libraryName) :=
    hlibrary ▸ p.isName_libraryFile
  obtain ⟨log, w', hprogress, hends⟩ := exists_progress hfile hio hapart
  refine ⟨⟨?_, hends.ok_of_attempts hfile hprogress⟩, log, w', hprogress, hends,
    hends.runs hprogress, fun l => hends.leaves hfile hprogress⟩
  intro hok p wp fault w'' henters hattempt
  cases fault with
  | none => rfl
  | some e => cases hok.symm.trans (henters.buildAll_error hfile hattempt)

def linux : Platform :=
  ⟨.linux, .x86_64⟩

/-- Has an old library staged for one platform, and a cargo that can only build for another. -/
def halfway : Workshop where
  files := {
    home := []
    nodes := (workshop "/").files.nodes ++ [
      (["o"], .directory), (["o", "linux-x86_64"], .directory),
      (["o", "linux-x86_64", "libonig_bridge_native.so"], .file [9])] }
  programs := [
    (["cargo"], fun here i fs =>
      if i = (atRoot "/").command "/cargo" macOs then leaving (atRoot "/") macOs [2] here i fs
      else (.code 101, fs))]
  runs := []

def afterFirst : Workshop :=
  (((atRoot "/").build [] macOs).run.run halfway).2

theorem build_linux_afterFirst : (((atRoot "/").build [] linux).run.run afterFirst).1 =
    .error (.cargoFailed "x86_64-unknown-linux-gnu" (.code 101)) := by
  decide +kernel

theorem enters_halfway (h : Enters (atRoot "/") [] [macOs, linux, macOs] halfway p wp) :
    p = macOs ∧ wp = halfway ∨ p = linux ∧ wp = afterFirst := by
  cases h with
  | first => exact .inl ⟨rfl, rfl⟩
  | later hbuild h =>
    have hafter : afterFirst = _ := congrArg Prod.snd hbuild
    cases h with
    | first => exact .inr ⟨rfl, hafter.symm⟩
    | later hbuild' =>
      have hfails := build_linux_afterFirst
      rw [hafter, hbuild'] at hfails
      cases hfails

theorem spared_halfway :
    (atRoot "/").Spared [] [macOs, linux, macOs] halfway ["o", "linux-x86_64",
      "libonig_bridge_native.so"] := by
  intro p wp fault w' henters hattempt
  obtain ⟨cargo, status, hcargo, hrun⟩ | ⟨rfl, -⟩ := hattempt.ran_or_not
  · have hw' : w' = _ := (congrArg Prod.snd hrun).symm
    have hcargo' : "/cargo" = cargo := Except.ok.inj hcargo
    rw [hw', ← hcargo']
    obtain ⟨hp, hwp⟩ | ⟨hp, hwp⟩ := enters_halfway henters
    all_goals
      rw [hp, hwp]
      -- both sides are evaluated on their own: to compare them first takes far longer
      trans some (.file [9])
      · decide +kernel
      · decide +kernel
  · rfl

theorem apart_halfway : (atRoot "/").Apart [] [macOs, linux, macOs] halfway := by
  intro p wp path w' henters hbuild
  have hafter : w' = (((atRoot "/").build [] p).run.run wp).2 := (congrArg Prod.snd hbuild).symm
  obtain ⟨hp, hwp⟩ | ⟨hp, hwp⟩ := enters_halfway henters
  · rw [hafter, hp, hwp]
    decide +kernel
  · have hfails := build_linux_afterFirst
    rw [hp, hwp] at hbuild
    rw [hbuild] at hfails
    cases hfails

/-- The first library is staged, the second fails and leaves the old one, the third is not begun. -/
theorem buildAll_stages_prefix_halfway :
    let b := atRoot "/"
    let ps := [macOs, linux, macOs]
    let final := (b.buildAll [] ps).run.run halfway
    let old := ["o", "linux-x86_64", "libonig_bridge_native.so"]
    (final.1 = .error (.cargoFailed "x86_64-unknown-linux-gnu" (.code 101)) ∧
      final.2.runs.length = 2 ∧
      final.2.files.read "o/macos-aarch64/libonig_bridge_native.dylib" = .ok [2] ∧
      final.2.files.node? old = some (.file [9])) ∧
    ∃ log w', Progress b [] halfway log w' ∧ b.Ends [] ps log w' final ∧
      Leaves b log old (some (.file [9])) (final.2.files.node? old) := by
  intro b ps final old
  have hfinal : final.1 = .error (.cargoFailed "x86_64-unknown-linux-gnu" (.code 101)) ∧
      final.2.runs.length = 2 ∧
      final.2.files.read "o/macos-aarch64/libonig_bridge_native.dylib" = .ok [2] ∧
      final.2.files.node? old = some (.file [9]) := by
    decide +kernel
  have hio : ∀ f, final.1 ≠ .error (.io f) := by
    intro f
    rw [hfinal.1]
    nofun
  have hold : halfway.files.node? old = some (.file [9]) := by
    decide +kernel
  obtain ⟨-, log, w', hprogress, hends, -, hleaves⟩ :=
    buildAll_stages_prefix b [] ps halfway rfl hio apart_halfway
  obtain ⟨-, hlinux⟩ := hleaves old spared_halfway
  rw [hold] at hlinux
  exact ⟨hfinal, log, w', hprogress, hends, hlinux⟩

end Builder

end RegexHost.Build

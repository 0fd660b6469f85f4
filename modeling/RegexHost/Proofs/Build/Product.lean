import RegexHost.Proofs.Build.Stage

/-! Where cargo leaves a library, and where it is then looked for. Cargo runs in the workspace and
takes a relative target directory to be below it, while its builder looks for it from where it runs
itself. -/
namespace RegexHost

namespace Path

theorem isAbsolute_join_eq (p q : String) :
    isAbsolute (join p q) = (isAbsolute q || isAbsolute p) := by
  cases hq : isAbsolute q with
  | true => rw [join, if_pos hq, hq, Bool.true_or]
  | false =>
    rw [Bool.false_or]
    by_cases hp : p = ""
    · have hjoin : join "" q = q := by simp [join, hq]
      rw [hp, hjoin, hq]
      rfl
    · exact isAbsolute_join hp hq

end Path

namespace Files.FileSystem

variable {fs : FileSystem} {follow : Bool} {here l : Location} {xs : List String}
  {p : String} {node : Node}

/-- The files as a process in another directory sees them. -/
def seenFrom (fs : FileSystem) (here : Location) : FileSystem :=
  { fs with home := here }

theorem walk_seenFrom (fs : FileSystem) (here : Location) (follow : Bool) (links : Nat) :
    (fs.seenFrom here).walk follow links = fs.walk follow links :=
  have hnode (l : Location) : (fs.seenFrom here).node? l = fs.node? l := rfl
  walk_congr hnode follow links

/-- An absolute path leads everywhere to the same place. -/
theorem locate_seenFrom (hp : Path.isAbsolute p = true ∨ here = fs.home) (follow : Bool) :
    (fs.seenFrom here).locate follow p = fs.locate follow p := by
  rcases hp with hp | rfl
  · rw [locate, locate, walk_seenFrom, if_pos hp, if_pos hp]
  · rfl

/-- Where no link stands a path that does not go up leads to the place that it names. -/
theorem eq_of_walkBy_found {jump : Location → List String → Except FaultKind Place}
    (hlinks : ∀ l target, fs.node? l ≠ some (.link target)) (hxs : ".." ∉ xs)
    (h : fs.walkBy jump follow here xs = .ok (.found l node)) :
    l = here ++ xs.filter fun x => x ≠ "" ∧ x ≠ "." := by
  replace h := goes_of_walkBy h
  induction h with
  | ends hplace =>
    cases hplace
    simp
  | blank hx _ ih =>
    rw [List.filter_cons_of_neg (by simpa [or_iff_not_imp_left] using hx)]
    exact ih (List.not_mem_of_not_mem_cons hxs)
  | up => exact absurd List.mem_cons_self hxs
  | vacant _ _ _ hplace => cases hplace
  | directory hx _ _ ih =>
    rw [List.filter_cons_of_pos (by exact decide_eq_true (not_or.mp hx.notBlank)),
      ih (List.not_mem_of_not_mem_cons hxs), List.append_assoc]
    rfl
  | file hx _ hlast hplace =>
    cases hplace
    rw [List.filter_cons_of_pos (by exact decide_eq_true (not_or.mp hx.notBlank)), hlast]
    rfl
  | link _ hn _ _ => exact absurd hn (hlinks _ _)
  | along _ hn _ _ => exact absurd hn (hlinks _ _)

theorem eq_of_locate_found (hlinks : ∀ l target, fs.node? l ≠ some (.link target))
    (hp : ".." ∉ Path.steps p) (h : fs.locate follow p = .ok (.found l node)) :
    l = (if Path.isAbsolute p then [] else fs.home) ++ Path.names p := by
  obtain ⟨jump, hw⟩ := walk_succ_eq fs follow linkLimit
  have h := walk_of_locate h
  rw [hw] at h
  exact eq_of_walkBy_found hlinks hp h

end Files.FileSystem

namespace Build

open Files FileSystem

variable {b : Builder} {p : Platform} {env : Environment} {w w₁ : Workshop} {cargo : String}

/-- Where a build leaves the library for a platform: below the target directory that is set for it,
seen from where it runs. -/
def Invocation.product (i : Invocation) (profile : String) (p : Platform)
    (library : String) : String :=
  Path.join (Path.join
    (Path.join ((i.settings.lookup Builder.targetDirVariable).getD "target") p.triple)
    (profileDir profile)) (p.libraryFile library)

/-- A program that ran has found its directory, has done what it does there, and its run is
recorded. -/
theorem Invocation.run_eq_ok {i : Invocation} {here : Location} {status : ExitStatus}
    (hhere : w.enter i.directory = .ok here) (h : (i.run env).run w = (.ok status, w₁)) :
    w₁.runs = w.runs ++ [(here, i)] ∧ ∃ program, w.findProgram env here i.program = .ok program ∧
      program here i w.files = (status, w₁.files) := by
  unfold Invocation.run at h
  rw [StateT.run_bind, StateT.run_get, pure_bind] at h
  dsimp only at h
  split at h
  · cases h
  · next here' program hfound =>
    cases h
    rw [hhere] at hfound
    cases hnul : i.hasNul with
    | true =>
      rw [hnul] at hfound
      cases hfound
    | false =>
      rw [hnul] at hfound
      change (do return (here, ← w.findProgram env here i.program)) =
        Except.ok (here', program) at hfound
      cases hprogram : w.findProgram env here i.program with
      | error f =>
        rw [hprogram] at hfound
        cases hfound
      | ok program =>
        rw [hprogram] at hfound
        cases hfound
        exact ⟨rfl, program, rfl, rfl⟩

namespace Builder

theorem product_command (b : Builder) (cargo : String) (p : Platform) :
    (b.command cargo p).product b.profile p b.libraryName = b.built p := by
  rfl

theorem isAbsolute_triple (p : Platform) : Path.isAbsolute p.triple = false := by
  rcases p with ⟨_ | _ | _, _ | _⟩ <;> decide

/-- The path of a library is absolute if the target directory is. -/
theorem isAbsolute_built (hlibrary : b.libraryName = Native.libraryName) (p : Platform) :
    Path.isAbsolute (b.built p) =
      (Path.isAbsolute (profileDir b.profile) || Path.isAbsolute b.targetDir) := by
  rw [built, hlibrary, Path.isAbsolute_join_eq, Path.isAbsolute_join_eq, Path.isAbsolute_join_eq,
    p.isName_libraryFile.isAbsolute, isAbsolute_triple, Bool.false_or, Bool.false_or]

/-- The search for cargo changes nothing. -/
theorem run_findCargo (b : Builder) (env : Environment) (w : Workshop) :
    ((b.findCargo env).run.run w).2 = w := by
  unfold findCargo
  cases b.cargo.or (env.path? cargoVariable) with
  | some cargo => rfl
  | none =>
    dsimp only
    rw [run_bind, run_get]
    dsimp only
    split <;> rfl

/-- What a build makes of a run of cargo. -/
theorem run_build_of_ran {result : Except Fault ExitStatus}
    (hcargo : ((b.findCargo env).run.run w).1 = .ok cargo)
    (hrun : ((b.command cargo p).run env).run w = (result, w₁)) : (b.build env p).run.run w =
      match result with
      | .error f => (.error (.spawn p.triple f), w₁)
      | .ok status =>
        if status.isSuccess then (b.stage p).run.run w₁
        else (.error (.cargoFailed p.triple status), w₁) := by
  have hfound : (b.findCargo env).run.run w = (.ok cargo, w) :=
    Prod.ext hcargo (run_findCargo b env w)
  have hran : (liftM ((b.command cargo p).run env) : Building (Except Fault ExitStatus)).run.run w =
      (.ok result, w₁) := by
    change (Except.ok (((b.command cargo p).run env).run w).1,
      (((b.command cargo p).run env).run w).2) = _
    rw [hrun]
  unfold build
  rw [run_bind, hfound]
  dsimp only
  rw [run_bind, hran]
  rcases result with f | status
  · rfl
  · dsimp only
    split_ifs <;> rfl

/-- A build whose run of cargo succeeds stages what is there then. -/
theorem run_build {status : ExitStatus} (hcargo : ((b.findCargo env).run.run w).1 = .ok cargo)
    (hrun : ((b.command cargo p).run env).run w = (.ok status, w₁)) (hstatus : status.isSuccess) :
    (b.build env p).run.run w = (b.stage p).run.run w₁ := by
  rw [run_build_of_ran hcargo hrun]
  exact if_pos hstatus

/-- Only a library that is missing is told to be so. -/
theorem missingArtifact_iff (hfile : Path.IsName (p.libraryFile b.libraryName)) (w : Workshop) :
    ((b.stage p).run.run w).1 = .error (.missingArtifact (b.built p)) ↔
      w.files.isFile (b.built p) = false := by
  rw [run_stage hfile]
  cases w.files.isFile (b.built p) with
  | false => simp
  | true =>
    rw [if_pos rfl]
    constructor
    · intro h
      split at h
      · cases h
      · split at h <;> cases h
    · nofun

/-- Both paths lead to one place if the target directory is absolute or the builder runs in the
workspace. -/
theorem locate_product {here : Location} (cargo : String) (fs : FileSystem)
    (hlibrary : b.libraryName = Native.libraryName)
    (hsame : Path.isAbsolute b.targetDir = true ∨ here = fs.home) (follow : Bool) :
    (fs.seenFrom here).locate follow ((b.command cargo p).product b.profile p b.libraryName) =
      fs.locate follow (b.built p) := by
  rw [product_command]
  refine locate_seenFrom (hsame.imp_left fun habsolute => ?_) follow
  rw [isAbsolute_built hlibrary, habsolute, Bool.or_true]

/-- Without links there is no other way. -/
theorem file?_product_iff {here l : Location} (cargo : String) (fs : FileSystem)
    (hlibrary : b.libraryName = Native.libraryName)
    (hprofile : Path.isAbsolute (profileDir b.profile) = false)
    (hup : ".." ∉ Path.steps (b.built p)) (hlinks : ∀ l target, fs.node? l ≠ some (.link target))
    (hl : (fs.seenFrom here).file? ((b.command cargo p).product b.profile p b.libraryName) =
      some l) :
    fs.file? (b.built p) = some l ↔ Path.isAbsolute b.targetDir = true ∨ here = fs.home := by
  constructor
  · intro hbuilt
    rw [product_command] at hl
    obtain ⟨content, hl⟩ := file?_eq_some_iff.mp hl
    obtain ⟨content', hbuilt⟩ := file?_eq_some_iff.mp hbuilt
    have hseen : ∀ l target, (fs.seenFrom here).node? l ≠ some (.link target) := hlinks
    have hproduct := eq_of_locate_found hseen hup hl
    rw [eq_of_locate_found hlinks hup hbuilt, isAbsolute_built hlibrary, hprofile,
      Bool.false_or] at hproduct
    split_ifs at hproduct with habsolute
    · exact .inl habsolute
    · exact .inr (List.append_cancel_right hproduct).symm
  · intro hsame
    rw [FileSystem.file?, ← locate_product cargo fs hlibrary hsame]
    exact hl

/-- With an absolute target directory, or run from the workspace, a builder looks for a library
where cargo leaves it: it tells one that is missing, and stages what is there, not what stood
somewhere else. Otherwise it looks elsewhere: without links the file is never the one that cargo
leaves. -/
theorem build_stages_product (b : Builder) (env : Environment) (p : Platform) (w w₁ : Workshop)
    (cargo : String) (here : Location) (status : ExitStatus)
    (hlibrary : b.libraryName = Native.libraryName)
    (hcargo : ((b.findCargo env).run.run w).1 = .ok cargo) (hhere : w.enter b.workspace = .ok here)
    (hrun : ((b.command cargo p).run env).run w = (.ok status, w₁)) (hstatus : status.isSuccess)
    (hhome : w₁.files.home = w.files.home) :
    let product := (b.command cargo p).product b.profile p b.libraryName
    let seen := w₁.files.seenFrom here
    let built := (b.build env p).run.run w
    w₁.runs = w.runs ++ [(here, b.command cargo p)] ∧
    ((Path.isAbsolute b.targetDir = true ∨ here = w.files.home) →
      (∀ follow, seen.locate follow product = w₁.files.locate follow (b.built p)) ∧
      (built.1 = .error (.missingArtifact (b.built p)) ↔ seen.isFile product = false) ∧
      (∀ path, built.1 = .ok path →
        built.2.files.file? (b.built p) ≠ built.2.files.file? (b.staged p) →
        ∃ content, seen.read product = .ok content ∧ built.2.files.read path = .ok content)) ∧
    (Path.isAbsolute (profileDir b.profile) = false → ".." ∉ Path.steps (b.built p) →
      (∀ l target, w₁.files.node? l ≠ some (.link target)) → ∀ l, seen.file? product = some l →
        (w₁.files.file? (b.built p) = some l ↔
          Path.isAbsolute b.targetDir = true ∨ here = w.files.home)) := by
  intro product seen built
  have hfile : Path.IsName (p.libraryFile b.libraryName) := hlibrary ▸ p.isName_libraryFile
  have hbuilt : built = (b.stage p).run.run w₁ := run_build hcargo hrun hstatus
  have hran := Invocation.run_eq_ok (i := b.command cargo p) hhere hrun
  refine ⟨hran.1, fun hsame => ?_, fun hprofile hup hlinks l hl => ?_⟩
  · rw [← hhome] at hsame
    have hlocate (follow : Bool) : seen.locate follow product =
        w₁.files.locate follow (b.built p) :=
      locate_product cargo w₁.files hlibrary hsame follow
    refine ⟨hlocate, ?_, fun path hok hne => ?_⟩
    · have hisFile : seen.isFile product = w₁.files.isFile (b.built p) := by
        rw [FileSystem.isFile, FileSystem.isFile, FileSystem.file?, FileSystem.file?, hlocate]
      rw [hbuilt, missingArtifact_iff hfile, hisFile]
    · rw [hbuilt] at hok hne ⊢
      obtain ⟨content, l, rfl, hread, hwrite, hafter⟩ := stage_eq_ok hfile (Prod.ext hok rfl) hne
      refine ⟨content, ?_, ?_⟩
      · rw [← hread, FileSystem.read, FileSystem.read, hlocate]
      · rw [hafter, FileSystem.read, locate_of_written hwrite]
        rfl
  · rw [← hhome]
    exact file?_product_iff cargo w₁.files hlibrary hprofile hup hlinks hl

/-- A cargo that leaves these bytes as the library, where it is told to from where it runs. -/
def leaving (b : Builder) (p : Platform) (content : Bytes) : Program := fun here i fs =>
  match (fs.seenFrom here).write (i.product b.profile p b.libraryName) content with
  | .ok written => (.code 0, written.seenFrom fs.home)
  | .error _ => (.code 101, fs)

/-- A builder that runs at the root, with a relative target directory. -/
def atRoot (workspace : String) : Builder :=
  { Builder.ofWorkspace [] workspace with targetDir := "t", outDir := "o", cargo := some "/cargo" }

def macOs : Platform :=
  ⟨.macOs, .aarch64⟩

/-- Has an old library right where the builder looks, directories for one below `ws`, and a cargo
that leaves a new library. -/
def workshop (workspace : String) : Workshop where
  files := {
    home := []
    nodes := [
      (["cargo"], .file []), (["ws"], .directory), (["ws", "t"], .directory),
      (["ws", "t", "aarch64-apple-darwin"], .directory),
      (["ws", "t", "aarch64-apple-darwin", "release"], .directory),
      (["t"], .directory), (["t", "aarch64-apple-darwin"], .directory),
      (["t", "aarch64-apple-darwin", "release"], .directory),
      (["t", "aarch64-apple-darwin", "release", "libonig_bridge_native.dylib"], .file [1])] }
  programs := [(["cargo"], leaving (atRoot workspace) macOs [2])]
  runs := []

def afterCargo (workspace : String) : Workshop :=
  ((((atRoot workspace).command "/cargo" macOs).run []).run (workshop workspace)).2

theorem build_stages_product_new :
    (((atRoot "/").build [] macOs).run.run (workshop "/")).1 =
      .ok "o/macos-aarch64/libonig_bridge_native.dylib" ∧
      (((atRoot "/").build [] macOs).run.run (workshop "/")).2.files.read
        "o/macos-aarch64/libonig_bridge_native.dylib" = .ok [2] := by
  have hstatus : ((((atRoot "/").command "/cargo" macOs).run []).run (workshop "/")).1 =
      .ok (.code 0) := by
    decide +kernel
  have hrun : (((atRoot "/").command "/cargo" macOs).run []).run (workshop "/") =
      (.ok (.code 0), afterCargo "/") :=
    Prod.ext hstatus rfl
  have hok : (((atRoot "/").build [] macOs).run.run (workshop "/")).1 =
      .ok "o/macos-aarch64/libonig_bridge_native.dylib" := by
    decide +kernel
  have hne : (((atRoot "/").build [] macOs).run.run (workshop "/")).2.files.file?
      ((atRoot "/").built macOs) ≠
      (((atRoot "/").build [] macOs).run.run (workshop "/")).2.files.file?
        ((atRoot "/").staged macOs) := by
    decide +kernel
  have hnew : ((afterCargo "/").files.seenFrom []).read
      (((atRoot "/").command "/cargo" macOs).product "release" macOs Native.libraryName) =
        .ok [2] := by
    decide +kernel
  obtain ⟨-, hsame, -⟩ :=
    build_stages_product (atRoot "/") [] macOs (workshop "/") (afterCargo "/") "/cargo" []
    (.code 0) rfl (by decide +kernel) (by decide +kernel) hrun rfl (by decide +kernel)
  obtain ⟨-, -, hstaged⟩ := hsame (.inr rfl)
  obtain ⟨content, hproduct, hread⟩ := hstaged _ hok hne
  have hcontent : Except.ok content = Except.ok [2] := hproduct.symm.trans hnew
  exact ⟨hok, hread.trans hcontent⟩

/-- Run from elsewhere with a relative target directory, a builder stages what stood there
before. -/
theorem build_stages_old_library :
    let x := ((atRoot "ws").build [] macOs).run.run (workshop "ws")
    x.1 = .ok "o/macos-aarch64/libonig_bridge_native.dylib" ∧ x.2.runs.map (·.1) = [["ws"]] ∧
      ((afterCargo "ws").files.seenFrom ["ws"]).read
        (((atRoot "ws").command "/cargo" macOs).product "release" macOs Native.libraryName) =
          .ok [2] ∧
      x.2.files.read "o/macos-aarch64/libonig_bridge_native.dylib" = .ok [1] := by
  decide +kernel

end Builder

end Build

end RegexHost

import RegexHost.Proofs.Build.Product

/-! One entry of a build: what cargo comes to, and what is staged then. -/
namespace RegexHost.Build

open Files FileSystem

variable {b : Builder} {env : Environment} {p : Platform} {w w₁ w' : Workshop}
  {fault : Option Error} {e : Error} {l : Location}

/-- An entry that was built and staged: the files right after its own run of cargo, and the library
with the place it was copied to. -/
structure Entry where
  platform : Platform
  found : FileSystem
  location : Location
  content : Bytes

/-- Only a program that ran is recorded, and only it changes files. -/
theorem Invocation.run_cases {i : Invocation} {result : Except Fault ExitStatus}
    (h : (i.run env).run w = (result, w₁)) :
    (∃ f, result = .error f ∧ w₁ = w) ∨ ∃ here status, result = .ok status ∧
      w₁.runs = w.runs ++ [(here, i)] := by
  unfold Invocation.run at h
  rw [StateT.run_bind, StateT.run_get, pure_bind] at h
  dsimp only at h
  split at h
  · next f _ =>
    cases h
    exact .inl ⟨f, rfl, rfl⟩
  · next here program _ =>
    cases h
    exact .inr ⟨here, _, rfl, rfl⟩

namespace Builder

/-! Cargo's part of a build -/

/-- What a build comes to before it stages: the error that stops it, if any, and what it leaves. -/
inductive Attempt (b : Builder) (env : Environment) (p : Platform) (w : Workshop) :
    Option Error → Workshop → Prop
  | cargoNotFound (hcargo : ((b.findCargo env).run.run w).1 = .error .cargoNotFound) :
    Attempt b env p w (some .cargoNotFound) w
  | spawn {cargo : String} {f : Fault} (hcargo : ((b.findCargo env).run.run w).1 = .ok cargo)
      (hrun : ((b.command cargo p).run env).run w = (.error f, w)) :
    Attempt b env p w (some (.spawn p.triple f)) w
  | cargoFailed {cargo : String} {status : ExitStatus} {w₁ : Workshop}
      (hcargo : ((b.findCargo env).run.run w).1 = .ok cargo)
      (hrun : ((b.command cargo p).run env).run w = (.ok status, w₁))
      (hstatus : status.isSuccess = false) :
    Attempt b env p w (some (.cargoFailed p.triple status)) w₁
  | missingArtifact {cargo : String} {status : ExitStatus} {w₁ : Workshop}
      (hcargo : ((b.findCargo env).run.run w).1 = .ok cargo)
      (hrun : ((b.command cargo p).run env).run w = (.ok status, w₁)) (hstatus : status.isSuccess)
      (hmissing : w₁.files.isFile (b.built p) = false) :
    Attempt b env p w (some (.missingArtifact (b.built p))) w₁
  | built {cargo : String} {status : ExitStatus} {w₁ : Workshop}
      (hcargo : ((b.findCargo env).run.run w).1 = .ok cargo)
      (hrun : ((b.command cargo p).run env).run w = (.ok status, w₁)) (hstatus : status.isSuccess)
      (hthere : w₁.files.isFile (b.built p)) : Attempt b env p w none w₁

theorem findCargo_error (h : ((b.findCargo env).run.run w).1 = .error e) : e = .cargoNotFound := by
  unfold findCargo at h
  cases hgiven : b.cargo.or (env.path? cargoVariable) with
  | some cargo =>
    rw [hgiven] at h
    cases h
  | none =>
    rw [hgiven] at h
    dsimp only at h
    rw [run_bind, run_get] at h
    dsimp only at h
    split at h <;> cases h
    rfl

theorem exists_attempt (b : Builder) (env : Environment) (p : Platform) (w : Workshop) :
    ∃ fault w₁, Attempt b env p w fault w₁ := by
  cases hcargo : ((b.findCargo env).run.run w).1 with
  | error e =>
    have he : e = .cargoNotFound := findCargo_error hcargo
    rw [he] at hcargo
    exact ⟨_, _, .cargoNotFound hcargo⟩
  | ok cargo =>
    rcases hrun : ((b.command cargo p).run env).run w with ⟨result, w₁⟩
    obtain ⟨f, rfl, rfl⟩ | ⟨here, status, rfl, -⟩ := Invocation.run_cases hrun
    · exact ⟨_, _, .spawn hcargo hrun⟩
    · cases hstatus : status.isSuccess with
      | false => exact ⟨_, _, .cargoFailed hcargo hrun hstatus⟩
      | true =>
        cases hthere : w₁.files.isFile (b.built p) with
        | false => exact ⟨_, _, .missingArtifact hcargo hrun hstatus hthere⟩
        | true => exact ⟨_, _, .built hcargo hrun hstatus hthere⟩

/-- A build that cargo does not stop stages what cargo left. -/
theorem Attempt.run_build (hfile : Path.IsName (p.libraryFile b.libraryName))
    (h : Attempt b env p w fault w₁) :
    (b.build env p).run.run w =
      match fault with
      | some e => (.error e, w₁)
      | none => (b.stage p).run.run w₁ := by
  cases h with
  | cargoNotFound hcargo =>
    have hfound : (b.findCargo env).run.run w = (.error .cargoNotFound, w) :=
      Prod.ext hcargo (run_findCargo b env w)
    rw [build, run_bind, hfound]
  | spawn hcargo hrun => rw [run_build_of_ran hcargo hrun]
  | cargoFailed hcargo hrun hstatus =>
    rw [run_build_of_ran hcargo hrun]
    dsimp only
    rw [hstatus]
    rfl
  | missingArtifact hcargo hrun hstatus hmissing =>
    rw [Builder.run_build hcargo hrun hstatus, run_stage hfile, hmissing]
    rfl
  | built hcargo hrun hstatus => exact Builder.run_build hcargo hrun hstatus

/-- What is left is left by a run of cargo. Without one the entry fails. -/
theorem Attempt.ran_or_not (h : Attempt b env p w fault w₁) :
    (∃ cargo status, ((b.findCargo env).run.run w).1 = .ok cargo ∧
      ((b.command cargo p).run env).run w = (.ok status, w₁)) ∨ w₁ = w ∧ fault ≠ none := by
  cases h with
  | cargoNotFound => exact .inr ⟨rfl, nofun⟩
  | spawn => exact .inr ⟨rfl, nofun⟩
  | cargoFailed hcargo hrun => exact .inl ⟨_, _, hcargo, hrun⟩
  | missingArtifact hcargo hrun => exact .inl ⟨_, _, hcargo, hrun⟩
  | built hcargo hrun => exact .inl ⟨_, _, hcargo, hrun⟩

/-- A run of cargo for this platform. -/
def RunFor (b : Builder) (p : Platform) (run : Location × Invocation) : Prop :=
  ∃ cargo, run.2 = b.command cargo p

/-- Cargo is run once for an entry, or not at all, and then the entry fails. -/
theorem Attempt.runs (h : Attempt b env p w fault w₁) :
    (∃ run, w₁.runs = w.runs ++ [run] ∧ b.RunFor p run) ∨ w₁.runs = w.runs ∧ fault ≠ none := by
  obtain ⟨cargo, status, -, hrun⟩ | ⟨rfl, hne⟩ := h.ran_or_not
  · obtain ⟨f, hf, -⟩ | ⟨here, -, -, hruns⟩ := Invocation.run_cases hrun
    · cases hf
    · exact .inl ⟨_, hruns, cargo, rfl⟩
  · exact .inr ⟨rfl, hne⟩

theorem Attempt.isFile (h : Attempt b env p w none w₁) : w₁.files.isFile (b.built p) := by
  cases h with
  | built _ _ _ hthere => exact hthere

/-! Staging -/

/-- What cargo left is staged: a directory is made for it, and its bytes are where the path for it
leads. -/
structure Stages (b : Builder) (w : Workshop) (s : Entry) (w' : Workshop) : Prop where
  run : (b.stage s.platform).run.run w = (.ok (b.staged s.platform), w')
  found : s.found = w.files
  content : s.found.read (b.built s.platform) = .ok s.content
  files : w'.files = (s.found.makeDirectories (Path.join b.outDir s.platform.name)).2.put s.location
    (.file s.content)
  location : w'.files.locate true (b.staged s.platform) = .ok (.found s.location (.file s.content))
  runs : w'.runs = w.runs

theorem runs_stage (hfile : Path.IsName (p.libraryFile b.libraryName)) (w : Workshop) :
    ((b.stage p).run.run w).2.runs = w.runs := by
  rw [run_stage hfile]
  split
  · split
    · rfl
    · split <;> rfl
  · rfl

/-- A library that is there is staged, unless that fails. -/
theorem stage_of_isFile (hfile : Path.IsName (p.libraryFile b.libraryName))
    (hthere : w.files.isFile (b.built p)) :
    (∃ w', (b.stage p).run.run w = (.ok (b.staged p), w')) ∨
      ∃ f w', (b.stage p).run.run w = (.error (.io f), w') := by
  rw [run_stage hfile, if_pos hthere]
  split
  · exact .inr ⟨_, _, rfl⟩
  · split
    · exact .inr ⟨_, _, rfl⟩
    · exact .inl ⟨_, rfl⟩

theorem exists_stages (hfile : Path.IsName (p.libraryFile b.libraryName))
    (h : (b.stage p).run.run w = (.ok (b.staged p), w'))
    (hne : w'.files.file? (b.built p) ≠ w'.files.file? (b.staged p)) :
    ∃ s : Entry, s.platform = p ∧ b.Stages w s w' := by
  obtain ⟨content, l, -, hread, hwrite, hafter⟩ := stage_eq_ok hfile h hne
  have hruns : w'.runs = w.runs := by
    rw [← runs_stage hfile w, h]
  have hlocation : w'.files.locate true (b.staged p) = .ok (.found l (.file content)) := by
    rw [hafter]
    exact locate_of_written hwrite content
  exact ⟨⟨p, w.files, l, content⟩, rfl, h, rfl, hread, hafter, hlocation, hruns⟩

variable {s : Entry}

theorem Stages.node?_location (h : b.Stages w s w') :
    w'.files.node? s.location = some (.file s.content) :=
  stands_walk (walk_of_locate h.location)

/-- Staging changes nothing but the library, and makes directories. -/
theorem Stages.node?_of_ne (h : b.Stages w s w') (hl : l ≠ s.location) :
    w'.files.node? l = w.files.node? l ∨
      s.found.node? l = none ∧ w'.files.node? l = some .directory ∧
      (s.found.makeDirectories (Path.join b.outDir s.platform.name)).2.node? l =
        some .directory := by
  have hput : w'.files.node? l =
      (s.found.makeDirectories (Path.join b.outDir s.platform.name)).2.node? l := by
    rw [h.files]
    exact node?_put_of_ne _ hl _
  rw [hput, ← h.found]
  rcases s.found.adds_makeDirectories (Path.join b.outDir s.platform.name) l with
    hsame | ⟨hnone, hdirectory⟩
  · exact .inl hsame
  · exact .inr ⟨hnone, hdirectory, hdirectory⟩

end Builder

end RegexHost.Build

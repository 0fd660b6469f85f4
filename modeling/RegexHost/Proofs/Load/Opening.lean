import RegexHost.Load.LibraryLoader
import RegexHost.Proofs.Files.Nodes
import RegexHost.Proofs.Runs

/-! What a load does to the files and to the lists of temporary directories, however far it
comes. -/
namespace RegexHost.Load

open Files

variable {α : Type}

namespace Loading

theorem run_lift (x : Except Error α) (w : World) : (liftM x : Loading α).run.run w = (x, w) := by
  cases x <;> rfl

theorem run_tryCatch (x : Loading α) (f : Error → Loading α) (w : World) :
    (tryCatch x f).run.run w =
      match x.run.run w with
      | (.ok a, w') => (.ok a, w')
      | (.error e, w') => (f e).run.run w' := by
  rw [ExceptT.run_tryCatch, StateT.run_bind]
  rcases x.run.run w with ⟨_ | a, w'⟩ <;> rfl

/-- What `x` hands on goes through the cleaning when it is an error. -/
theorem run_orElse (x : Loading α) (clean : World → World) (w : World) :
    (tryCatch x fun e => do modify clean; throw e : Loading α).run.run w =
      match x.run.run w with
      | (.ok a, w') => (.ok a, w')
      | (.error e, w') => (.error e, clean w') := by
  rw [run_tryCatch]
  rcases x.run.run w with ⟨_ | a, w'⟩ <;> rfl

theorem run_onFiles (action : FileSystem → Except Fault Unit × FileSystem) (w : World) :
    (onFiles action).run.run w =
      (((action w.files).1).mapError .io, { w with files := (action w.files).2 }) := by
  rw [onFiles, run_bind, run_get]
  dsimp only
  rcases action w.files with ⟨_ | _, files⟩ <;> rfl

end Loading

/-- The lists of directories are the same. -/
structure World.SameLists (w w' : World) : Prop where
  live : w'.live = w.live
  pending : w'.pending = w.pending

/-- The directories above the temporary one were made, as far as that went. -/
def Grows (fs fs' : FileSystem) : Prop :=
  fs' = fs ∨ ∃ p, fs' = (fs.makeDirectories p).2

/-- The file was made and has some content, or it was not made. -/
inductive Stores (fs : FileSystem) (path : String) : Except Error Unit → FileSystem → Prop
  | refused {e : Error} : Stores fs path (.error e) fs
  | written {result : Except Error Unit} {l : Location} {content : Bytes}
      (hl : fs.fileToWrite path = .ok l) :
      Stores fs path result (fs.put l (.file content))

/-- From files `fs` a new directory `l` was made, and the library was stored by its name in it. -/
inductive Unpacks (s : Surroundings) (config : Config) (fs : FileSystem) (l : Location) :
    FileSystem → Prop
  | intro {platform : Platform} {grown stored : FileSystem} {path : String}
      {result : Except Error Unit} (hplatform : config.resolvePlatform s.host = .ok platform)
      (hgrown : Grows fs grown)
      (hl : grown.directoryToMake path = .ok l)
      (hstored : Stores (grown.put l .directory)
        (Path.join path (platform.libraryFile config.libraryName)) result stored) :
      Unpacks s config fs l stored

/-- How the load of a packaged library goes. -/
inductive OpensPackaged (s : Surroundings) (config : Config) (w : World) :
    Except Error Opened × World → Prop
  | refused {e : Error} {w' : World} (hfiles : Grows w.files w'.files) (hlists : w.SameLists w') :
      OpensPackaged s config w (.error e, w')
  | removed {e : Error} {w' : World} {l : Location} {stored : FileSystem}
      (hu : Unpacks s config w.files l stored) (hfiles : w'.files = stored.removeTree l)
      (hlive : w'.live = (w.live ++ [l]).erase l)
      (hpending : w'.pending = w.pending) : OpensPackaged s config w (.error e, w')
  | kept {o : Opened} {w' : World} {l : Location} (hu : Unpacks s config w.files l w'.files)
      (hlive : w'.live = w.live ++ [l]) (hpending : w'.pending = w.pending ++ [l]) :
      OpensPackaged s config w (.ok o, w')

theorem Unpacks.new {s : Surroundings} {config : Config} {fs stored : FileSystem} {l : Location}
    (hu : Unpacks s config fs l stored) : l ≠ [] ∧ stored.node? l = some .directory := by
  obtain @⟨_, grown, _, _, _, -, -, hl, hstored⟩ := hu
  obtain ⟨hne, -⟩ := FileSystem.new_of_directoryToMake hl
  have hdir := grown.node?_put_self hne .directory
  refine ⟨hne, ?_⟩
  cases hstored with
  | refused => exact hdir
  | @written _ m content hm =>
    rw [FileSystem.node?_put_of_ne _ _ _]
    · exact hdir
    · rintro rfl
      exact FileSystem.node?_of_fileToWrite hm hdir

theorem ok_of_elim {ε : Type} {refused : Option ε} {x : Except ε α} {a : α}
    (h : refused.elim x .error = .ok a) : x = .ok a := by
  cases refused with
  | none => exact h
  | some e => cases h

section

variable (s : Surroundings) (refusals : Refusals)

theorem openLibrary_run (path : String) (w : World) :
    ∃ result engines, (openLibrary s path).run.run w = (result, { w with engines }) := by
  rw [openLibrary, run_bind, run_get]
  dsimp only
  cases s.link w.files path with
  | ok file => exact ⟨_, _, rfl⟩
  | error reason => exact ⟨_, w.engines, rfl⟩

theorem makeTempDir_cases (base : String) (tries : Nat) (w : World) :
    (∃ e drawn, (makeTempDir s refusals base tries).run.run w = (.error e, { w with drawn })) ∨
    ∃ path l drawn, w.files.directoryToMake path = .ok l ∧
      (makeTempDir s refusals base tries).run.run w =
        (.ok (path, l),
          ⟨w.files.put l .directory, w.live ++ [l], w.pending, drawn, w.engines⟩) := by
  induction tries generalizing w with
  | zero => exact .inl ⟨_, w.drawn, rfl⟩
  | succ tries ih =>
    simp only [makeTempDir, run_bind, run_get, run_set]
    generalize Path.join base (tempPrefix ++ s.suffix w.drawn) = path
    cases hl : (refusals.directory path).elim (w.files.directoryToMake path) .error with
    | ok l => exact .inr ⟨path, l, w.drawn + 1, ok_of_elim hl, rfl⟩
    | error f =>
      dsimp only
      split_ifs
      · exact ih { w with drawn := w.drawn + 1 }
      · exact .inl ⟨_, _, rfl⟩

theorem store_run (path : String) (content : Bytes) (w : World) :
    ∃ result files, (store refusals path content).run.run w = (result, { w with files }) ∧
      Stores w.files path result files := by
  rw [store, Loading.run_onFiles]
  cases hl : (refusals.file path).elim (w.files.fileToWrite path) .error with
  | error f => exact ⟨_, _, rfl, .refused⟩
  | ok l =>
    dsimp only
    rcases refusals.content path with _ | ⟨taken, f⟩
    · exact ⟨_, _, rfl, .written (ok_of_elim hl)⟩
    · exact ⟨_, _, rfl, .written (ok_of_elim hl)⟩

theorem tempParent_run (config : Config) (w : World) :
    ∃ result files, (tempParent s refusals config).run.run w = (result, { w with files }) ∧
      Grows w.files files := by
  rw [tempParent]
  split_ifs
  · rw [run_bind, Loading.run_onFiles]
    dsimp only
    cases refusals.parents (config.tempDir.getD s.tempDir) with
    | some f => exact ⟨_, _, rfl, .inl rfl⟩
    | none =>
      dsimp only [Option.elim_none]
      cases (w.files.makeDirectories (config.tempDir.getD s.tempDir)).1 with
      | ok _ => exact ⟨_, _, rfl, .inr ⟨_, rfl⟩⟩
      | error f => exact ⟨_, _, rfl, .inr ⟨_, rfl⟩⟩
  · exact ⟨_, w.files, rfl, .inl rfl⟩

/-- How the extraction of a packaged library goes. -/
inductive Extracts (s : Surroundings) (config : Config) (w : World) :
    Except Error Extracted × World → Prop
  | refused {e : Error} {w' : World} (hfiles : Grows w.files w'.files) (hlists : w.SameLists w') :
      Extracts s config w (.error e, w')
  | removed {e : Error} {w' : World} {l : Location} {stored : FileSystem}
      (hu : Unpacks s config w.files l stored) (hfiles : w'.files = stored.removeTree l)
      (hlive : w'.live = (w.live ++ [l]).erase l)
      (hpending : w'.pending = w.pending) : Extracts s config w (.error e, w')
  | done {x : Extracted} {w' : World} (hu : Unpacks s config w.files x.directory w'.files)
      (hlive : w'.live = w.live ++ [x.directory]) (hpending : w'.pending = w.pending) :
      Extracts s config w (.ok x, w')

theorem extracts (config : Config) (bundle : Bundle) (w : World) :
    Extracts s config w ((extract s refusals config bundle).run.run w) := by
  simp only [extract, run_bind, Loading.run_lift, run_get]
  cases hplatform : config.resolvePlatform s.host with
  | error e => exact .refused (.inl rfl) ⟨rfl, rfl⟩
  | ok platform =>
    dsimp only
    rcases bundle.read w.files (platform.resource config.libraryName) with f | _ | content
    · exact .refused (.inl rfl) ⟨rfl, rfl⟩
    · exact .refused (.inl rfl) ⟨rfl, rfl⟩
    dsimp only
    obtain ⟨e | base, grown, hrun, hgrown⟩ := tempParent_run s refusals config w
    · simp only [run_bind, hrun]
      exact .refused hgrown ⟨rfl, rfl⟩
    obtain ⟨e, drawn, hmade⟩ | ⟨path, l, drawn, hl, hmade⟩ :=
      makeTempDir_cases s refusals base tempTries { w with files := grown }
    · simp only [run_bind, hrun, hmade]
      exact .refused hgrown ⟨rfl, rfl⟩
    obtain ⟨result, stored, hstore, hstored⟩ := store_run refusals
      (Path.join path (platform.libraryFile config.libraryName)) content
      ⟨grown.put l .directory, w.live ++ [l], w.pending, drawn, w.engines⟩
    have hu : Unpacks s config w.files l stored := ⟨hplatform, hgrown, hl, hstored⟩
    simp only [run_bind, hrun, hmade, Loading.run_orElse, hstore]
    cases result with
    | error e => exact .removed hu rfl rfl rfl
    | ok _ => exact .done hu rfl rfl

theorem opensPackaged (config : Config) (bundle : Bundle) (w : World) :
    OpensPackaged s config w ((openPackaged s refusals config bundle).run.run w) := by
  simp only [openPackaged, run_bind]
  have hx := extracts s refusals config bundle w
  generalize (extract s refusals config bundle).run.run w = x at hx ⊢
  cases hx with
  | refused hfiles hlists => exact .refused hfiles hlists
  | removed hu hfiles hlive hpending => exact .removed hu hfiles hlive hpending
  | @done x w' hu hlive hpending =>
    obtain ⟨result, engines, hopen⟩ := openLibrary_run s x.library w'
    simp only [Loading.run_orElse, hopen]
    cases result with
    | error e => exact .removed hu rfl (congrArg (List.erase · x.directory) hlive) hpending
    | ok o => exact .kept hu hlive (congrArg (· ++ [x.directory]) hpending)

end
end RegexHost.Load

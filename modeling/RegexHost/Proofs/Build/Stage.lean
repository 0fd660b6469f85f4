import RegexHost.Build.Builder
import RegexHost.Proofs.Files.Writing
import RegexHost.Proofs.Runs

/-! What a library that is staged leaves: its bytes, in a directory named after its platform. -/
namespace RegexHost

namespace Platform

open Files.FileSystem

theorem name_injective : Function.Injective name := by
  rintro ⟨_ | _ | _, _ | _⟩ ⟨_ | _ | _, _ | _⟩ h <;> first | rfl | exact absurd h (by decide)

theorem isName_name (p : Platform) : Path.IsName p.name := by
  rcases p with ⟨_ | _ | _, _ | _⟩ <;> decide

theorem byteLength_name (p : Platform) : byteLength p.name ≤ nameLimit := by
  rcases p with ⟨_ | _ | _, _ | _⟩ <;> decide

theorem nul_name (p : Platform) : '\x00' ∉ p.name.toList := by
  rcases p with ⟨_ | _ | _, _ | _⟩ <;> decide

theorem nul_libraryFile (p : Platform) : '\x00' ∉ (p.libraryFile Native.libraryName).toList := by
  rcases p with ⟨_ | _ | _, _ | _⟩ <;> decide

theorem isName_libraryFile (p : Platform) : Path.IsName (p.libraryFile Native.libraryName) := by
  rcases p with ⟨_ | _ | _, _ | _⟩ <;> decide

theorem byteLength_libraryFile (p : Platform) :
    byteLength (p.libraryFile Native.libraryName) ≤ nameLimit := by
  rcases p with ⟨_ | _ | _, _ | _⟩ <;> decide

end Platform

namespace Build

open Files

variable {w w' : Workshop}

namespace Builder

variable {b : Builder} {p : Platform} {path : String}

theorem run_onFiles (action : FileSystem → Except Fault Unit × FileSystem) (w : Workshop) :
    (stage.onFiles action).run.run w =
      ((action w.files).1.mapError .io, { w with files := (action w.files).2 }) := by
  rw [stage.onFiles, run_bind, run_get]
  dsimp only
  rcases action w.files with ⟨_ | _, files⟩ <;> rfl

/-- A library that is there is copied into a directory that is there or made. -/
theorem run_stage (hfile : Path.IsName (p.libraryFile b.libraryName)) (w : Workshop) :
    (b.stage p).run.run w =
    if w.files.isFile (b.built p) then
      match w.files.makeDirectories (Path.join b.outDir p.name) with
      | (.error f, fs) => (.error (.io f), { w with files := fs })
      | (.ok (), fs) =>
        match fs.copy (b.built p) (b.staged p) with
        | (.error f, fs) => (.error (.io f), { w with files := fs })
        | (.ok (), fs) => (.ok (b.staged p), { w with files := fs })
    else (.error (.missingArtifact (b.built p)), w) := by
  have hparent : Path.parent? (b.staged p) = some (Path.join b.outDir p.name) :=
    Path.parent?_join b.outDir p.isName_name hfile
  rw [stage, run_bind, run_get, hparent]
  dsimp only
  cases w.files.isFile (b.built p) with
  | false => rfl
  | true =>
    rw [if_neg (by decide), if_pos rfl, run_bind, run_onFiles]
    rcases w.files.makeDirectories (Path.join b.outDir p.name) with ⟨f | ⟨⟩, fs⟩
    · rfl
    · dsimp only [Except.mapError]
      rw [run_bind, run_onFiles]
      dsimp only
      rcases fs.copy (b.built p) (b.staged p) with ⟨f | ⟨⟩, fs'⟩ <;> rfl

/-- The library that is staged has the bytes of the one that was built, if the two are different
files. -/
theorem stage_eq_ok (hfile : Path.IsName (p.libraryFile b.libraryName))
    (h : (b.stage p).run.run w = (.ok path, w'))
    (hne : w'.files.file? (b.built p) ≠ w'.files.file? (b.staged p)) :
    let fs := (w.files.makeDirectories (Path.join b.outDir p.name)).2
    ∃ content l, path = b.staged p ∧ w.files.read (b.built p) = .ok content ∧
      fs.fileToWrite (b.staged p) = .ok l ∧ w'.files = fs.put l (.file content) := by
  rw [run_stage hfile] at h
  split_ifs at h with hbuilt
  · have hadds := w.files.adds_makeDirectories (Path.join b.outDir p.name)
    have hhome := w.files.home_makeDirectories (Path.join b.outDir p.name)
    split at h
    · cases h
    next fs hmade =>
    split at h
    · cases h
    next fs' hcopy =>
    cases h
    rw [hmade] at hadds hhome ⊢
    obtain ⟨l, hl⟩ := Option.isSome_iff_exists.mp hbuilt
    obtain ⟨content, hsource⟩ := FileSystem.file?_eq_some_iff.mp hl
    have hthere : fs.locate true (b.built p) = .ok (.found l (.file content)) :=
      FileSystem.locate_of_keeps hadds.keeps hhome hsource
    obtain ⟨l', content', t, hsource', hwrite, rfl⟩ := FileSystem.copy_eq_ok hcopy
    cases hthere.symm.trans hsource'
    have hcontent : w.files.read (b.built p) = .ok content := by
      rw [FileSystem.read, hsource]
      rfl
    refine ⟨content, t, rfl, hcontent, hwrite, ?_⟩
    rw [if_neg]
    -- were they one file, both paths would lead to it
    rintro rfl
    have hold : fs.node? t = some (.file content) :=
      FileSystem.stands_walk (FileSystem.walk_of_locate hthere)
    apply hne
    rw [FileSystem.file?_eq_some_iff.mpr ⟨_, FileSystem.locate_of_written hwrite _⟩,
      FileSystem.file?_eq_some_iff]
    exact ⟨_, by rw [FileSystem.locate_put_file hold hthere, Place.refilled, if_pos rfl]⟩
  · cases h

end Builder

end Build

end RegexHost

import RegexHost.Proofs.Files.Tree
import RegexHost.Proofs.Load.Opening

/-! Where the load of a packaged library writes: in its own directory, if the name of the library
file leads down from there. A library name that does not contain a slash is safe everywhere, and any
name outside of Windows. -/
namespace RegexHost.Load

open Files

/-- From files `fs` missing directories were made, then `d`, where nothing was, and no file but one
right in it. -/
inductive Fills (fs : FileSystem) (d : Location) : FileSystem → Prop
  | made {grown : FileSystem} (hadds : fs.Adds grown) (hnew : ∀ l, d <+: l → grown.node? l = none) :
      Fills fs d (grown.put d .directory)
  | stored {grown : FileSystem} (hadds : fs.Adds grown) (hnew : ∀ l, d <+: l → grown.node? l = none)
      (name : String) (content : Bytes) :
      Fills fs d ((grown.put d .directory).put (d ++ [name]) (.file content))

/-- What the load of a packaged library makes of the world. -/
inductive StaysInside (w : World) : Except Error Opened × World → Prop
  | refused {e : Error} {w' : World} (hadds : w.files.Adds w'.files) : StaysInside w (.error e, w')
  | removed {e : Error} {w' : World} {d : Location} {filled : FileSystem}
      (hf : Fills w.files d filled) (hfiles : w'.files = filled.removeTree d) :
    StaysInside w (.error e, w')
  | kept {o : Opened} {w' : World} {d : Location} (hf : Fills w.files d w'.files)
      (hpending : w'.pending = w.pending ++ [d]) : StaysInside w (.ok o, w')

variable {fs fs' : FileSystem} {d : Location} {w : World}

theorem Fills.outside (hf : Fills fs d fs') {l : Location} (hl : ¬ d <+: l) :
    fs'.node? l = fs.node? l ∨ fs.node? l = none ∧ fs'.node? l = some .directory := by
  have hne : l ≠ d := by
    rintro rfl
    exact hl (List.prefix_refl l)
  cases hf with
  | made hadds hnew =>
    rw [FileSystem.node?_put_of_ne _ hne]
    exact hadds l
  | stored hadds hnew name content =>
    have hne' : l ≠ d ++ [name] := by
      rintro rfl
      exact hl (List.prefix_append d [name])
    rw [FileSystem.node?_put_of_ne _ hne', FileSystem.node?_put_of_ne _ hne]
    exact hadds l

theorem Fills.new (hf : Fills fs d fs') {l : Location} (hl : d <+: l) : fs.node? l = none := by
  cases hf with
  | made hadds hnew | stored hadds hnew => exact hadds.none (hnew l hl)

/-- With its directory goes all that a load has written. -/
theorem Fills.adds_removeTree (hf : Fills fs d fs') : fs.Adds (fs'.removeTree d) := by
  have hd : d ≠ [] := by
    rintro rfl
    cases hf.new (List.prefix_refl [])
  intro l
  rw [FileSystem.node?_removeTree fs' hd]
  split_ifs with hl
  · exact .inl (hf.new hl).symm
  · exact hf.outside hl

theorem Grows.tree (hg : Grows fs fs') (ht : fs.Tree) : fs'.Tree ∧ fs.Adds fs' := by
  obtain rfl | ⟨p, rfl⟩ := hg
  · exact ⟨ht, .refl fs'⟩
  · exact ⟨ht.makeDirectories p, FileSystem.adds_makeDirectories _ p⟩

theorem Unpacks.fills {s : Surroundings} {config : Config} (hu : Unpacks s config fs d fs')
    (ht : fs.Tree) (hin : ∀ platform, config.resolvePlatform s.host = .ok platform →
      Path.Inward (platform.libraryFile config.libraryName)) : Fills fs d fs' := by
  obtain @⟨platform, grown, _, path, result, hplatform, hgrown, hd, hstored⟩ := hu
  obtain ⟨ht, hadds⟩ := hgrown.tree ht
  have hnew : ∀ l, d <+: l → grown.node? l = none := fun l =>
    ht.none_below (FileSystem.new_of_directoryToMake hd).2
  cases hstored with
  | refused => exact .made hadds hnew
  | @written _ l content hl =>
    obtain ⟨name, rfl⟩ := ht.fileToWrite_inside (hin platform hplatform) hd hl
    exact .stored hadds hnew name content

theorem Unpacks.tree {s : Surroundings} {config : Config} (hu : Unpacks s config fs d fs')
    (ht : fs.Tree) : fs'.Tree ∧ (fs'.removeTree d).Tree := by
  have hd := hu.new.1
  obtain @⟨_, grown, _, _, _, -, hgrown, hmake, hstored⟩ := hu
  have hg := (hgrown.tree ht).1
  have hmade := (hg.directoryToMake hmake).1
  have hhome : ¬ d <+: grown.home := by
    intro hp
    cases (hg.none_below (FileSystem.new_of_directoryToMake hmake).2 hp).symm.trans hg.home
  cases hstored with
  | refused => exact ⟨hmade, hmade.removeTree hd hhome⟩
  | @written _ _ content hl =>
    have hwritten := hmade.fileToWrite hl content
    exact ⟨hwritten, hwritten.removeTree hd hhome⟩

theorem StaysInside.adds_of_error {x : Except Error Opened × World}
    (hx : StaysInside w x) {e : Error} (he : x.1 = .error e) : w.files.Adds x.2.files := by
  cases hx with
  | refused hadds => exact hadds
  | removed hf hfiles =>
    dsimp only
    rw [hfiles]
    exact hf.adds_removeTree
  | kept => cases he

/-- Whatever its configuration, a load leaves a tree. -/
theorem OpensPackaged.tree {s : Surroundings} {config : Config} {x : Except Error Opened × World}
    (ho : OpensPackaged s config w x) (ht : w.files.Tree) : x.2.files.Tree := by
  cases ho with
  | refused hfiles => exact (hfiles.tree ht).1
  | removed hu hfiles =>
    dsimp only
    rw [hfiles]
    exact (hu.tree ht).2
  | kept hu => exact (hu.tree ht).1

theorem OpensPackaged.staysInside {s : Surroundings} {config : Config}
    {x : Except Error Opened × World} (ho : OpensPackaged s config w x) (ht : w.files.Tree)
    (hin : ∀ platform, config.resolvePlatform s.host = .ok platform →
      Path.Inward (platform.libraryFile config.libraryName)) : StaysInside w x := by
  cases ho with
  | refused hfiles => exact .refused (hfiles.tree ht).2
  | removed hu hfiles => exact .removed (hu.fills ht hin) hfiles
  | kept hu _ hpending => exact .kept (hu.fills ht hin) hpending

/-- A load writes no file but one in the directory that it has made, and a load that fails leaves no
file and has changed none. Only a name on Windows has to lead down for that. -/
theorem openPackaged_staysInside (s : Surroundings) (refusals : Refusals) (config : Config)
    (bundle : Bundle) (w : World) (ht : w.files.Tree)
    (hin : ∀ platform, config.resolvePlatform s.host = .ok platform → platform.os = .windows →
      Path.Inward (platform.libraryFile config.libraryName)) :
    let x := (openPackaged s refusals config bundle).run.run w
    StaysInside w x ∧ (∀ e, x.1 = .error e → w.files.Adds x.2.files) ∧ x.2.files.Tree := by
  intro x
  have ho : OpensPackaged s config w x := opensPackaged s refusals config bundle w
  have hx := ho.staysInside ht fun platform hp => by
    by_cases hos : platform.os = .windows
    · exact hin platform hp hos
    · exact platform.inward_libraryFile (.inl hos)
  exact ⟨hx, fun _ => hx.adds_of_error, ho.tree ht⟩

/-- A new system, on which no library opens. -/
def bareSystem : Surroundings × World :=
  (⟨.ok ⟨.linux, .x86_64⟩, "/tmp", fun _ => "AbCdEf", ⟨fun _ => none, fun _ _ => none⟩⟩,
    ⟨⟨[(["tmp"], .directory)], []⟩, [], [], 0, 0⟩)

def onWindows (library : String) : Config :=
  ⟨some ⟨.windows, .x86_64⟩, none, none, library⟩

theorem tree_bareSystem : bareSystem.2.files.Tree := by
  refine ⟨fun l name hne => ?_, rfl⟩
  cases l with
  | nil => rfl
  | cons a l =>
    refine absurd ?_ hne
    have hname : (a :: l ++ [name] == ["tmp"]) = false := by simp
    rw [FileSystem.node?_eq_lookup
      (List.append_ne_nil_of_right_ne_nil _ (List.cons_ne_nil name []))]
    change List.lookup (a :: l ++ [name]) [(["tmp"], _)] = none
    rw [List.lookup_cons, hname]
    rfl

theorem openPackaged_staysInside_unopened :
    let x := (openPackaged bareSystem.1 .none (onWindows "x")
      (.ofTable [("native/windows-x86_64/x.dll", [1, 2])])).run.run bareSystem.2
    x.1 = .error (.loadFailure "/tmp/onig-bridgeAbCdEf/x.dll" .notLibrary) ∧
      StaysInside bareSystem.2 x ∧ bareSystem.2.files.Adds x.2.files := by
  have he : ((openPackaged bareSystem.1 .none (onWindows "x")
      (.ofTable [("native/windows-x86_64/x.dll", [1, 2])])).run.run bareSystem.2).1 =
        .error (.loadFailure "/tmp/onig-bridgeAbCdEf/x.dll" .notLibrary) := by decide +kernel
  have hin : ∀ platform, (onWindows "x").resolvePlatform bareSystem.1.host = .ok platform →
      platform.os = .windows → Path.Inward (platform.libraryFile (onWindows "x").libraryName) :=
    fun platform _ _ => platform.inward_libraryFile (.inr (by decide))
  obtain ⟨hx, hadds, -⟩ := openPackaged_staysInside bareSystem.1 .none (onWindows "x")
    (.ofTable [("native/windows-x86_64/x.dll", [1, 2])]) bareSystem.2 tree_bareSystem hin
  exact ⟨he, hx, hadds _ he⟩

/-- On Windows a name can lead up. The file is then above the directory, and stays there when that
is removed. -/
theorem openPackaged_leaves_file_above :
    let x := (openPackaged bareSystem.1 .none (onWindows "../x")
      (.ofTable [("native/windows-x86_64/../x.dll", [1, 2])])).run.run bareSystem.2
    x.1 = .error (.loadFailure "/tmp/onig-bridgeAbCdEf/../x.dll" .notLibrary) ∧ x.2.live = [] ∧
      bareSystem.2.files.node? ["tmp", "x.dll"] = none ∧
        x.2.files.node? ["tmp", "x.dll"] = some (.file [1, 2]) := by
  decide +kernel

end RegexHost.Load

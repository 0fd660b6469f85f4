import RegexHost.Proofs.Build.Shelf
import RegexHost.Proofs.Bundle.Table

/-! The layout of staged libraries. However many are staged one after another, a platform's resource
has the bytes that were staged last for it. -/
namespace RegexHost.Build

open Files FileSystem

/-- Nothing is in the directory, if need be after it was made with those above it. -/
def StartsEmpty (fs : FileSystem) (path : String) : Prop :=
  ∃ fs' d, fs.makeDirectories path = (.ok (), fs') ∧ fs'.directory? path = some d ∧
    fs'.children d = []

/-- The path leads to the same directory, and what stands below is the same. -/
def Untouched (path : String) (fs fs' : FileSystem) : Prop :=
  ∃ d, fs.directory? path = some d ∧ fs'.directory? path = some d ∧
    ∀ l, d <+: l → fs'.node? l = fs.node? l

/-- What any number of stagings into `root/native` leave, when it was empty at first. Between them
all else may change, as it does when libraries are built. -/
inductive StagedInto (root : String) : Stagings → Workshop → Prop
  | start {w : Workshop} (hnames : w.files.WellNamed) (htree : w.files.Tree)
      (hempty : StartsEmpty w.files (Path.join root "native")) : StagedInto root [] w
  | changed {log : Stagings} {w w' : Workshop} (h : StagedInto root log w)
      (hnames : w'.files.WellNamed) (htree : w'.files.Tree)
      (hsame : Untouched (Path.join root "native") w.files w'.files) : StagedInto root log w'
  | staged {log : Stagings} {w w' : Workshop} {b : Builder} {p : Platform} {content : Bytes}
      {path : String} (h : StagedInto root log w) (hout : b.outDir = Path.join root "native")
      (hlibrary : b.libraryName = Native.libraryName)
      (hcontent : w.files.read (b.built p) = .ok content)
      (hrun : (b.stage p).run.run w = (.ok path, w'))
      (hfiles : w'.files.file? (b.built p) ≠ w'.files.file? (b.staged p)) :
    StagedInto root ((p, content) :: log) w'

variable {fs fs' : FileSystem} {d l : Location} {log : Stagings} {p : Platform} {path root : String}
  {content : Bytes} {w : Workshop}

/-- The directory into which libraries are staged is a shelf, or is yet to be made. -/
structure Holds (native : String) (log : Stagings) (fs : FileSystem) : Prop where
  names : fs.WellNamed
  tree : fs.Tree
  shelf : (∃ d, fs.directory? native = some d ∧ Shelf fs d log) ∨
    log = [] ∧ fs.directory? native = none ∧ StartsEmpty fs native
  usable : ∀ x ∈ log, Usable (libraryPath native x.1)

namespace Holds

/-- Before a library is staged its directory is made, on a shelf that is there or made. -/
theorem makeDirectories (h : Holds (Path.join root "native") log fs)
    (hu : Usable (Path.join (Path.join root "native") p.name)) :
    ∃ d fs', fs'.directory? (Path.join root "native") = some d ∧ Shelf fs' d log ∧
      (fs.makeDirectories (Path.join (Path.join root "native") p.name)).2 =
        withDirectory fs' d p := by
  have hjoin {fs' : FileSystem} {d : Location}
      (hmade : fs.makeDirectories (Path.join root "native") = (.ok (), fs'))
      (hd : fs'.directory? (Path.join root "native") = some d) :=
    makeDirectories_join Bundle.isName_native p.isName_name p.byteLength_name hmade hd hu
  obtain ⟨d, hd, hshelf⟩ | ⟨rfl, -, fs', d, hmade, hd, hempty⟩ := h.shelf
  · exact ⟨d, fs, hd, hshelf, hjoin (makeDirectories_of_directory hd) hd⟩
  · have htree := h.tree.makeDirectories (Path.join root "native")
    rw [hmade] at htree
    exact ⟨d, fs', hd, shelf_of_empty htree hempty, hjoin hmade hd⟩

theorem start (hnames : fs.WellNamed) (htree : fs.Tree) (hempty : StartsEmpty fs path) :
    Holds path [] fs where
  names := hnames
  tree := htree
  shelf := by
    cases hthere : fs.directory? path with
    | none => exact .inr ⟨rfl, rfl, hempty⟩
    | some d =>
      obtain ⟨fs', d', hmade, hd, hempty⟩ := hempty
      cases hmade.symm.trans (makeDirectories_of_directory hthere)
      cases hd.symm.trans hthere
      exact .inl ⟨d, rfl, shelf_of_empty htree hempty⟩
  usable := nofun

theorem changed (h : Holds path log fs) (hnames : fs'.WellNamed) (htree : fs'.Tree)
    (hsame : Untouched path fs fs') : Holds path log fs' where
  names := hnames
  tree := htree
  shelf := by
    obtain ⟨d, hd, hd', hbelow⟩ := hsame
    obtain ⟨e, he, hshelf⟩ | ⟨-, hnone, -⟩ := h.shelf
    · cases hd.symm.trans he
      have hnode (below : List String) : fs'.node? (d ++ below) = fs.node? (d ++ below) :=
        hbelow _ (List.prefix_append d below)
      have hnode₂ (a b : String) : fs'.node? (d ++ [a] ++ [b]) = fs.node? (d ++ [a] ++ [b]) := by
        rw [List.append_assoc, hnode]
      refine .inl ⟨d, hd', ?_, ?_, ?_⟩
      · intro a
        rw [hnode, hshelf.directories]
      · intro p
        rw [hnode₂, hshelf.libraries]
      · intro a b
        rw [hnode₂]
        exact hshelf.others a b
    · cases hnone.symm.trans hd
  usable := h.usable

/-- Staging one more library. -/
theorem staged {b : Builder} {w w' : Workshop} (h : Holds (Path.join root "native") log w.files)
    (hout : b.outDir = Path.join root "native") (hlibrary : b.libraryName = Native.libraryName)
    (hcontent : w.files.read (b.built p) = .ok content)
    (hrun : (b.stage p).run.run w = (.ok path, w'))
    (hfiles : w'.files.file? (b.built p) ≠ w'.files.file? (b.staged p)) :
    Holds (Path.join root "native") ((p, content) :: log) w'.files := by
  have hs := Path.endsInSlash_join (p := root) Bundle.isName_native
  have hstaged : b.staged p = libraryPath (Path.join root "native") p := by
    rw [Builder.staged, hout, hlibrary]
    rfl
  obtain ⟨content', l, -, hread, hwrite, hafter⟩ :=
    Builder.stage_eq_ok (hlibrary ▸ p.isName_libraryFile) hrun hfiles
  cases hcontent.symm.trans hread
  rw [hout, hstaged] at hwrite
  rw [hout] at hafter
  have hu := usable_of_fileToWrite hwrite
  obtain ⟨d, fs, hd, hshelf, hmade⟩ := h.makeDirectories (usable_platform hu)
  have hnames := h.names.makeDirectories h.tree (Path.join (Path.join root "native") p.name)
  have htree := h.tree.makeDirectories (Path.join (Path.join root "native") p.name)
  rw [hmade] at hwrite hafter hnames htree
  cases hshelf.fileToWrite hs hd hwrite
  rw [hafter]
  constructor
  · exact hnames.fileToWrite htree hwrite content
  · exact htree.fileToWrite hwrite content
  · exact .inl ⟨d, directory?_of_written hwrite content (hshelf.directory?_withDirectory p hd),
      hshelf.staged p content⟩
  · intro x hx
    rcases List.mem_cons.mp hx with rfl | hx
    · exact hu
    · exact h.usable x hx

theorem usable_native (h : Holds path log fs) : Usable path := by
  obtain ⟨d, hd, -⟩ | ⟨-, -, _, d, -, hd, -⟩ :=
    h.shelf <;> exact usable_of_locate (directory?_eq_some_iff.mp hd)

/-- Of a platform that was staged the bytes are read, of another nothing. -/
theorem read_library (h : Holds path log fs) (hs : Path.endsInSlash path = false)
    (hu : Usable (libraryPath path p)) :
    fs.read (libraryPath path p) = (log.lookup p).elim (.error (.ofKind .notFound)) .ok := by
  have hne := h.usable_native.ne_empty
  obtain ⟨d, hd, hshelf⟩ | ⟨rfl, hnone, fs', d, hmade, -⟩ := h.shelf
  · exact hshelf.read_library hs hd hu
  · have hmissing := missing_of_makeDirectories hne hnone hmade
    rw [FileSystem.read, locate_libraryPath hne hs hu,
      walk_missing true ⟨p.name, List.mem_cons_self, p.isName_name.ne_empty⟩ hmissing]
    rfl

theorem read_ofDirectory (h : Holds (Path.join root "native") log fs) (p : Platform) :
    (Bundle.ofDirectory root).read fs (p.resource Native.libraryName) = .ok (log.lookup p) ∨
      log.lookup p = none ∧
        pathLimit ≤ byteLength (Bundle.filePath root (p.resource Native.libraryName)) ∧
        (Bundle.ofDirectory root).read fs (p.resource Native.libraryName) =
          .error (.ofKind .invalidFilename) := by
  have hpath : Bundle.filePath root (p.resource Native.libraryName) =
      libraryPath (Path.join root "native") p :=
    Bundle.filePath_resource root p.isName_name p.isName_libraryFile
  have hnul : '\x00' ∉ (libraryPath (Path.join root "native") p).toList :=
    nul_join (nul_join h.usable_native.nul p.nul_name) p.nul_libraryFile
  have hne : libraryPath (Path.join root "native") p ≠ "" := Path.join_ne_empty (isName_library p)
  rw [Bundle.ofDirectory]
  dsimp only
  rw [hpath]
  by_cases hlong : pathLimit ≤ byteLength (libraryPath (Path.join root "native") p)
  · right
    refine ⟨?_, hlong, ?_⟩
    · rw [List.lookup_eq_none_iff]
      intro x hx
      rw [bne_iff_ne]
      rintro rfl
      have hshort := (h.usable x hx).short
      omega
    · rw [FileSystem.read, locate_of_long hnul hne hlong]
      rfl
  · left
    rw [h.read_library (Path.endsInSlash_join Bundle.isName_native) ⟨hnul, hne, by omega⟩]
    cases log.lookup p <;> rfl

theorem read_embedded (h : Holds (Path.join root "native") log fs) (p : Platform) :
    (Bundle.embeddedFrom fs (Bundle.collect fs (Path.join root "native"))).read fs
      (p.resource Native.libraryName) = .ok (log.lookup p) := by
  have hresource : p.resource Native.libraryName = "native/" ++ p.name ++ "/" ++ library p := rfl
  have hdirectory := h.read_ofDirectory p
  obtain ⟨found, hfound⟩ :
      ∃ found, (Bundle.embeddedFrom fs (Bundle.collect fs (Path.join root "native"))).read fs
      (p.resource Native.libraryName) = .ok found := ⟨_, rfl⟩
  rw [hfound, Except.ok.injEq]
  rw [hresource] at hfound hdirectory
  refine Option.ext fun content => ?_
  have hsame : found = some content ↔
      (Bundle.ofDirectory root).read fs ("native/" ++ p.name ++ "/" ++ library p) =
        .ok (some content) := by
    rw [← Bundle.embeddedFrom_read_iff_ofDirectory_read h.names root p.isName_name
      (isName_library p), hfound, Except.ok.injEq]
  rw [hsame]
  rcases hdirectory with hdirectory | ⟨hnone, -, hdirectory⟩
  · rw [hdirectory, Except.ok.injEq]
  · rw [hdirectory, hnone]
    exact ⟨nofun, nofun⟩

/-- What is collected are libraries that were staged. -/
theorem exists_of_mem_collect {r : String} (h : Holds (Path.join root "native") log fs)
    (hr : (r, l) ∈ Bundle.collect fs (Path.join root "native")) :
    ∃ p ∈ log.map (·.1), r = p.resource Native.libraryName := by
  have hne := h.usable_native.ne_empty
  have hs := Path.endsInSlash_join (p := root) Bundle.isName_native
  obtain ⟨d, hd, hshelf⟩ | ⟨-, hnone, -⟩ := h.shelf
  · have hplatforms (a target : String) : fs.node? (d ++ [a]) ≠ some (.link target) := by
      rw [hshelf.directories]
      split_ifs <;> nofun
    have hfiles (a b target : String) : fs.node? (d ++ [a] ++ [b]) ≠ some (.link target) := by
      intro hlink
      obtain ⟨p, rfl, rfl⟩ := hshelf.others a b (by rw [hlink]; nofun)
      rw [hshelf.libraries] at hlink
      cases hlog : log.lookup p <;> rw [hlog] at hlink <;> cases hlink
    obtain ⟨a, b, rfl, rfl, content, hnode⟩ :=
      Bundle.eq_of_mem_collect h.names hne hs hd hplatforms hfiles hr
    obtain ⟨p, rfl, rfl⟩ := hshelf.others a b (by rw [hnode]; nofun)
    refine ⟨p, ?_, rfl⟩
    rw [hshelf.libraries, Option.map_eq_some_iff] at hnode
    obtain ⟨_, hlog, -⟩ := hnode
    obtain ⟨x, hx, hp⟩ := List.lookup_isSome_iff.mp (Option.isSome_of_eq_some hlog)
    exact List.mem_map.mpr ⟨x, hx, (eq_of_beq hp).symm⟩
  · obtain ⟨d, hd, -⟩ := Bundle.mem_collect_iff_entries.mp hr
    cases hnone.symm.trans hd

/-- The table that is collected has one entry for each platform that was staged. -/
theorem collect_perm (h : Holds (Path.join root "native") log fs) :
    ((Bundle.collect fs (Path.join root "native")).map (·.1)).Perm
      ((log.map (·.1)).dedup.map (·.resource Native.libraryName)) := by
  have hinjective : Function.Injective fun p : Platform => p.resource Native.libraryName := by
    intro p q hpq
    exact Platform.name_injective
      (Bundle.resource_injective p.isName_name p.isName_libraryFile q.isName_name
      q.isName_libraryFile hpq).1
  rw [List.perm_ext_iff_of_nodup (Bundle.nodup_resources h.names _)
    ((List.nodup_dedup _).map hinjective)]
  intro r
  rw [List.mem_map, List.mem_map]
  simp only [List.mem_dedup]
  constructor
  · rintro ⟨⟨r, l⟩, hl, rfl⟩
    obtain ⟨p, hp, rfl⟩ := h.exists_of_mem_collect hl
    exact ⟨p, hp, rfl⟩
  · rintro ⟨p, hp, rfl⟩
    obtain ⟨x, hx, rfl⟩ := List.mem_map.mp hp
    have hlog : (log.lookup x.1).isSome := List.lookup_isSome_iff.mpr ⟨x, hx, BEq.rfl⟩
    obtain ⟨content, hcontent⟩ := Option.isSome_iff_exists.mp hlog
    have hread := h.read_embedded x.1
    rw [hcontent, Bundle.embeddedFrom_read_eq_some_iff h.names] at hread
    obtain ⟨l, hl, -⟩ := hread
    exact ⟨_, hl, rfl⟩

end Holds

theorem StagedInto.holds (h : StagedInto root log w) :
    Holds (Path.join root "native") log w.files := by
  induction h with
  | start hnames htree hempty => exact .start hnames htree hempty
  | changed _ hnames htree hsame ih => exact ih.changed hnames htree hsame
  | staged _ hout hlibrary hcontent hrun hfiles ih =>
    exact ih.staged hout hlibrary hcontent hrun hfiles

/-- After any number of stagings the resource of each platform has the bytes that were staged last
for it, in the directory and in the table that is embedded, and there is none for a platform that
was not staged. A path that the system does not take is refused for its length; nothing was staged
there. -/
theorem staged_libraries_are_resources (root : String) (log : Stagings) (w : Workshop)
    (h : StagedInto root log w) :
    let table := Bundle.collect w.files (Path.join root "native")
    (∀ p : Platform, let resource := p.resource Native.libraryName
      ((Bundle.ofDirectory root).read w.files resource = .ok (log.lookup p) ∨
        log.lookup p = none ∧ pathLimit ≤ byteLength (Bundle.filePath root resource) ∧
          (Bundle.ofDirectory root).read w.files resource = .error (.ofKind .invalidFilename)) ∧
      (Bundle.embeddedFrom w.files table).read w.files resource = .ok (log.lookup p)) ∧
    (table.map (·.1)).Perm ((log.map (·.1)).dedup.map (·.resource Native.libraryName)) :=
  ⟨fun p => ⟨h.holds.read_ofDirectory p, h.holds.read_embedded p⟩, h.holds.collect_perm⟩

/-- Libraries that were built for one platform by two profiles, and no directory yet to stage them
into. -/
def twiceBuilt : FileSystem where
  home := []
  nodes := [
    (["x86_64-unknown-linux-gnu"], .directory), (["x86_64-unknown-linux-gnu", "debug"], .directory),
    (["x86_64-unknown-linux-gnu", "debug", "libonig_bridge_native.so"], .file [1]),
    (["x86_64-unknown-linux-gnu", "release"], .directory),
    (["x86_64-unknown-linux-gnu", "release", "libonig_bridge_native.so"], .file [2])]

def profiled (profile : String) : Builder where
  workspace := "."
  targetDir := ""
  outDir := Path.join "bundle" "native"
  profile
  packageName
  libraryName := Native.libraryName
  cargo := none

def afterStaging (w : Workshop) (profile : String) (p : Platform) : Workshop :=
  (((profiled profile).stage p).run.run w).2

theorem startsEmpty_of_made (hmade : (fs.makeDirectories path).1 = .ok ())
    (hd : (fs.makeDirectories path).2.directory? path = some d)
    (hempty : (fs.makeDirectories path).2.children d = []) : StartsEmpty fs path :=
  ⟨_, d, Prod.ext hmade rfl, hd, hempty⟩

theorem StagedInto.next (h : StagedInto "bundle" log w) (profile : String) (p : Platform)
    (content : Bytes) (hcontent : w.files.read ((profiled profile).built p) = .ok content)
    (hrun : (((profiled profile).stage p).run.run w).1 = .ok ((profiled profile).staged p))
    (hfiles : (afterStaging w profile p).files.file? ((profiled profile).built p) ≠
      (afterStaging w profile p).files.file? ((profiled profile).staged p)) :
    StagedInto "bundle" ((p, content) :: log) (afterStaging w profile p) :=
  h.staged rfl rfl hcontent (Prod.ext hrun rfl) hfiles

theorem staged_libraries_are_resources_restaged :
    let linux : Platform := ⟨.linux, .x86_64⟩
    let w := afterStaging (afterStaging ⟨twiceBuilt, [], []⟩ "dev" linux) "release" linux
    StagedInto "bundle" [(linux, [2]), (linux, [1])] w ∧
      (Bundle.embeddedFrom w.files (Bundle.collect w.files (Path.join "bundle" "native"))).read
        w.files (linux.resource Native.libraryName) = .ok (some [2]) ∧
      (Bundle.collect w.files (Path.join "bundle" "native")).length = 1 := by
  intro linux w
  have hnames : twiceBuilt.WellNamed := ⟨by decide +kernel, by decide +kernel⟩
  have htree : twiceBuilt.Tree := tree_of_nodes (by decide +kernel) (by decide +kernel)
  have hempty : StartsEmpty twiceBuilt (Path.join "bundle" "native") :=
    startsEmpty_of_made (d := ["bundle", "native"]) (by decide +kernel) (by decide +kernel)
      (by decide +kernel)
  have hstart : StagedInto "bundle" [] ⟨twiceBuilt, [], []⟩ := .start hnames htree hempty
  have hdev :=
    hstart.next "dev" linux [1] (by decide +kernel) (by decide +kernel) (by decide +kernel)
  have h := hdev.next "release" linux [2] (by decide +kernel) (by decide +kernel)
    (by decide +kernel)
  obtain ⟨hread, hperm⟩ := staged_libraries_are_resources "bundle" _ w h
  have hlookup : List.lookup linux ([(linux, [2]), (linux, [1])] : Stagings) = some [2] := by decide
  refine ⟨h, ?_, ?_⟩
  · rw [(hread linux).2, hlookup]
  · have hlength := hperm.length_eq
    rw [List.length_map, List.length_map] at hlength
    rw [hlength]
    decide

end RegexHost.Build

import RegexHost.Bundle.Collect
import RegexHost.Proofs.Files.Entries
import Mathlib.Data.Prod.Lex
import Mathlib.Data.String.Basic

/-! The table of embedded libraries and the directory that it was made from answer alike. A walk
over two levels of directories finds the same files as paths of two names do, whatever order the
directories are listed in. -/
namespace RegexHost.Bundle

open Files RegexHost.Path

variable {fs : FileSystem} {root p a b r : String} {l : Location}

/-! Resources and their files -/

theorem steps_resource (ha : IsName a) (hb : IsName b) :
    steps ("native/" ++ a ++ "/" ++ b) = ["native", a, b] := by
  have hn : "native/" ++ a = "native" ++ "/" ++ a := rfl
  rw [steps_append, hn, steps_append, steps_of_notMem ha.slash, steps_of_notMem hb.slash]
  rfl

theorem resource_injective {a' b' : String} (ha : IsName a) (hb : IsName b) (ha' : IsName a')
    (hb' : IsName b') (h : "native/" ++ a ++ "/" ++ b = "native/" ++ a' ++ "/" ++ b') :
    a = a' ∧ b = b' := by
  have hs := congrArg steps h
  rw [steps_resource ha hb, steps_resource ha' hb'] at hs
  simpa using hs

theorem isName_native : IsName "native" := by
  decide

theorem filePath_resource (root : String) (ha : IsName a) (hb : IsName b) :
    filePath root ("native/" ++ a ++ "/" ++ b) = join (join (join root "native") a) b := by
  rw [filePath, steps_resource ha hb, List.filter_eq_self.mpr]
  · rfl
  · simp [ha.ne_empty, hb.ne_empty]

theorem read_eq_ok_iff {content : Bytes} :
    fs.read p = .ok content ↔ ∃ l, fs.locate true p = .ok (.found l (.file content)) := by
  unfold FileSystem.read
  cases fs.locate true p with
  | error f => exact ⟨nofun, nofun⟩
  | ok place =>
    rcases place with ⟨l, content' | _ | target⟩ | ⟨d, name⟩
    · constructor
      · intro h
        cases h
        exact ⟨l, rfl⟩
      · rintro ⟨l', h⟩
        cases h
        rfl
    all_goals exact ⟨nofun, nofun⟩

theorem ofDirectory_read_eq_some_iff {content : Bytes} :
    (ofDirectory root).read fs r = .ok (some content) ↔
      fs.read (filePath root r) = .ok content := by
  rw [ofDirectory]
  dsimp only
  cases fs.read (filePath root r) with
  | ok content' => simp
  | error f =>
    dsimp only
    split_ifs <;> exact ⟨nofun, nofun⟩

/-! What is collected -/

theorem mem_filesOf_iff :
    (r, l) ∈ filesOf fs p a ↔ ∃ sub b, fs.directory? (join p a) = some sub ∧ b ∈ fs.children sub ∧
      fs.file? (join (join p a) b) = some l ∧ r = "native/" ++ a ++ "/" ++ b := by
  unfold filesOf
  cases fs.directory? (join p a) with
  | none => simp
  | some sub => simp [List.mem_filterMap, eq_comm]

theorem mem_collect_iff_entries : (r, l) ∈ collect fs p ↔ ∃ native, fs.directory? p = some native ∧
    ∃ a ∈ fs.children native, (r, l) ∈ filesOf fs p a := by
  unfold collect
  cases fs.directory? p with
  | none => simp
  | some native => simp [List.mem_mergeSort, List.mem_flatMap]

/-- The files that are collected are those that paths of two names lead to. -/
theorem mem_collect_iff (hfs : fs.WellNamed) (hp : p ≠ "") (hs : endsInSlash p = false) :
    (r, l) ∈ collect fs p ↔
      ∃ a b, IsName a ∧ IsName b ∧ r = "native/" ++ a ++ "/" ++ b ∧
        fs.file? (join (join p a) b) = some l := by
  rw [mem_collect_iff_entries]
  constructor
  · rintro ⟨native, -, a, ha, hr⟩
    obtain ⟨sub, b, -, hb, hl, rfl⟩ := mem_filesOf_iff.mp hr
    exact ⟨a, b, hfs.isName ha, hfs.isName hb, rfl, hl⟩
  · rintro ⟨a, b, ha, hb, rfl, hl⟩
    obtain ⟨content, hfile⟩ := FileSystem.file?_eq_some_iff.mp hl
    obtain ⟨sub, m, hsub, hm⟩ :=
      FileSystem.directory_of_locate_join (join_ne_empty ha) (endsInSlash_join ha) hb hfile
    obtain ⟨native, m', hnative, hm'⟩ :=
      FileSystem.directory_of_locate_join hp hs ha (FileSystem.directory?_eq_some_iff.mp hsub)
    refine ⟨native, hnative, a,
      FileSystem.mem_children_iff.mpr (FileSystem.node?_of_walk_found ha hm'), ?_⟩
    exact mem_filesOf_iff.mpr
      ⟨sub, b, hsub,
        FileSystem.mem_children_iff.mpr (FileSystem.node?_of_walk_found hb hm), hl, rfl⟩

/-! The order of the table -/

theorem precedes_iff {x y : Artifact} : precedes x y = true ↔ toLex x ≤ toLex y := by
  rw [precedes, Prod.Lex.le_iff]
  simp

theorem pairwise_collect (fs : FileSystem) (p : String) :
    (collect fs p).Pairwise fun x y => toLex x ≤ toLex y := by
  unfold collect
  cases fs.directory? p with
  | none => exact .nil
  | some native =>
    refine (List.pairwise_mergeSort ?_ ?_ _).imp precedes_iff.mp
    · simp only [precedes_iff]
      exact fun x y z => le_trans
    · simp only [Bool.or_eq_true, precedes_iff]
      exact fun x y => le_total _ _

/-- A resource stands in the table once. -/
theorem nodup_resources (hfs : fs.WellNamed) (p : String) : ((collect fs p).map (·.1)).Nodup := by
  unfold collect
  cases fs.directory? p with
  | none => exact .nil
  | some native =>
    rw [((List.mergeSort_perm _ _).map _).nodup_iff, List.map_flatMap, List.nodup_flatMap]
    constructor
    · intro a _
      unfold filesOf
      cases fs.directory? (join p a) with
      | none => exact .nil
      | some sub =>
        rw [List.map_filterMap]
        refine (hfs.nodup_children sub).filterMap fun b b' r hr hr' => ?_
        simp only [Option.map_map, Option.mem_def, Option.map_eq_some_iff] at hr hr'
        obtain ⟨l, -, rfl⟩ := hr
        obtain ⟨l', -, hr'⟩ := hr'
        exact (String.append_right_inj _).mp hr'.symm
    · -- two directories of a table have different names, so their resources differ
      refine (hfs.nodup_children native).imp_of_mem fun {a a'} ha ha' hne => ?_
      intro r hr hr'
      obtain ⟨⟨_, l⟩, hl, rfl⟩ := List.mem_map.mp hr
      obtain ⟨⟨_, l'⟩, hl', heq⟩ := List.mem_map.mp hr'
      obtain ⟨sub, b, -, hb, -, rfl⟩ := mem_filesOf_iff.mp hl
      obtain ⟨sub', b', -, hb', -, rfl⟩ := mem_filesOf_iff.mp hl'
      exact hne (resource_injective (hfs.isName ha) (hfs.isName hb) (hfs.isName ha')
        (hfs.isName hb') heq.symm).1

theorem sorted_resources (hfs : fs.WellNamed) (p : String) :
    (collect fs p).Pairwise fun x y => x.1 < y.1 := by
  have hne : (collect fs p).Pairwise fun x y => x.1 ≠ y.1 :=
    List.pairwise_map.mp (nodup_resources hfs p)
  refine ((pairwise_collect fs p).and hne).imp fun ⟨hle, hne⟩ => ?_
  rcases Prod.Lex.le_iff.mp hle with hlt | ⟨heq, -⟩
  · exact hlt
  · exact absurd heq hne

theorem filesOf_perm {fs' : FileSystem} (hfs : fs.WellNamed) (h : fs'.nodes.Perm fs.nodes)
    (hhome : fs'.home = fs.home) (p a : String) : (filesOf fs' p a).Perm (filesOf fs p a) := by
  have hloc := FileSystem.locate_congr (FileSystem.node?_of_perm hfs h) hhome
  unfold filesOf FileSystem.directory? FileSystem.file?
  simp only [hloc]
  split
  · exact .refl _
  · exact (FileSystem.children_perm h _).filterMap _

/-- The table does not depend on the order in which directories are listed. -/
theorem collect_of_perm {fs' : FileSystem} (hfs : fs.WellNamed) (h : fs'.nodes.Perm fs.nodes)
    (hhome : fs'.home = fs.home) (p : String) : collect fs' p = collect fs p := by
  have hperm : (collect fs' p).Perm (collect fs p) := by
    have hdir : fs'.directory? p = fs.directory? p := by
      rw [FileSystem.directory?, FileSystem.directory?,
        FileSystem.locate_congr (FileSystem.node?_of_perm hfs h) hhome]
    unfold collect
    rw [hdir]
    cases fs.directory? p with
    | none => exact .refl _
    | some native =>
      refine (List.mergeSort_perm _ _).trans (.trans ?_ (List.mergeSort_perm _ _).symm)
      exact (FileSystem.children_perm h native).flatMap fun a _ => filesOf_perm hfs h hhome p a
  refine List.Perm.eq_of_pairwise ?_ (pairwise_collect fs' p) (pairwise_collect fs p) hperm
  exact fun x y _ _ hxy hyx => toLex.injective (le_antisymm hxy hyx)

/-! Reading -/

theorem embeddedFrom_read_eq_some_iff (hfs : fs.WellNamed) {content : Bytes} (fs' : FileSystem) :
    (embeddedFrom fs (collect fs p)).read fs' r = .ok (some content) ↔
      ∃ l, (r, l) ∈ collect fs p ∧ fs.node? l = some (.file content) := by
  have hkeys := List.pairwise_map.mp (nodup_resources hfs p)
  rw [embeddedFrom, ofTable]
  dsimp only
  rw [Except.ok.injEq, lookup_eq_some_iff_mem, List.mem_filterMap]
  · constructor
    · rintro ⟨⟨r', l⟩, hl, hcontent⟩
      split at hcontent
      · next hnode =>
        cases hcontent
        exact ⟨l, hl, hnode⟩
      · cases hcontent
    · rintro ⟨l, hl, hnode⟩
      exact ⟨(r, l), hl, by rw [hnode]⟩
  · refine List.pairwise_map.mpr (List.pairwise_filterMap.mpr (hkeys.imp fun hne => ?_))
    intro x hx y hy
    split at hx <;> cases hx
    split at hy <;> cases hy
    exact hne

/-- Of a resource the embedded table and the directory have the same bytes. -/
theorem embeddedFrom_read_iff_ofDirectory_read (hfs : fs.WellNamed) (root : String) (ha : IsName a)
    (hb : IsName b) {content : Bytes} :
    (embeddedFrom fs (collect fs (join root "native"))).read fs ("native/" ++ a ++ "/" ++ b) =
      .ok (some content) ↔
      (ofDirectory root).read fs ("native/" ++ a ++ "/" ++ b) = .ok (some content) := by
  rw [embeddedFrom_read_eq_some_iff hfs, ofDirectory_read_eq_some_iff, filePath_resource root ha hb,
    read_eq_ok_iff]
  refine exists_congr fun l => ?_
  rw [mem_collect_iff hfs (join_ne_empty isName_native) (endsInSlash_join isName_native)]
  constructor
  · rintro ⟨⟨a', b', ha', hb', heq, hl⟩, hnode⟩
    obtain ⟨rfl, rfl⟩ := resource_injective ha hb ha' hb' heq
    obtain ⟨content', hlocate⟩ := FileSystem.file?_eq_some_iff.mp hl
    have hstands : fs.node? l = some (.file content') :=
      FileSystem.stands_walk (FileSystem.walk_of_locate hlocate)
    rw [hnode] at hstands
    cases hstands
    exact hlocate
  · intro hlocate
    exact ⟨⟨a, b, ha, hb, rfl, FileSystem.file?_eq_some_iff.mpr ⟨content, hlocate⟩⟩,
      FileSystem.stands_walk (FileSystem.walk_of_locate hlocate)⟩

/-- Where no link stands the files that are collected stand two levels below. -/
theorem eq_of_mem_collect (hfs : fs.WellNamed) (hp : p ≠ "") (hs : endsInSlash p = false)
    {native : Location} (hnative : fs.directory? p = some native)
    (hplatforms : ∀ a target, fs.node? (native ++ [a]) ≠ some (.link target))
    (hfiles : ∀ a b target, fs.node? (native ++ [a] ++ [b]) ≠ some (.link target))
    (hl : (r, l) ∈ collect fs p) :
    ∃ a b, r = "native/" ++ a ++ "/" ++ b ∧ l = native ++ [a] ++ [b] ∧
      ∃ content, fs.node? l = some (.file content) := by
  obtain ⟨a, b, ha, hb, rfl, hfile⟩ := (mem_collect_iff hfs hp hs).mp hl
  obtain ⟨content, hlocate⟩ := FileSystem.file?_eq_some_iff.mp hfile
  obtain ⟨sub, m, hsub, hm⟩ :=
    FileSystem.directory_of_locate_join (join_ne_empty ha) (endsInSlash_join ha) hb hlocate
  obtain ⟨native', m', hnative', hm'⟩ :=
    FileSystem.directory_of_locate_join hp hs ha (FileSystem.directory?_eq_some_iff.mp hsub)
  cases hnative.symm.trans hnative'
  obtain ⟨rfl, -⟩ := FileSystem.eq_of_walk_found ha (hplatforms a) hm'
  obtain ⟨rfl, hnode⟩ := FileSystem.eq_of_walk_found hb (hfiles a b) hm
  exact ⟨a, b, rfl, rfl, content, hnode⟩

/-- The table holds one entry for each file that a path of two names below `native` leads to, in
ascending order and in whatever order directories are listed, and it has the bytes that the
directory has. -/
theorem embedded_agrees_with_directory (fs : FileSystem) (hfs : fs.WellNamed) (root : String) :
    let native := join root "native"
    let table := collect fs native
    (∀ r l, (r, l) ∈ table ↔ ∃ a b, IsName a ∧ IsName b ∧ r = "native/" ++ a ++ "/" ++ b ∧
      fs.file? (join (join native a) b) = some l) ∧
    (∀ d, fs.directory? native = some d → (∀ l target, d <+: l → fs.node? l ≠ some (.link target)) →
      ∀ x ∈ table, ∃ a b, x.1 = "native/" ++ a ++ "/" ++ b ∧ x.2 = d ++ [a, b]) ∧
    (table.Pairwise fun x y => x.1 < y.1) ∧
    (∀ fs' : FileSystem, fs'.nodes.Perm fs.nodes → fs'.home = fs.home →
      collect fs' native = table) ∧
    ∀ a b, IsName a → IsName b → ∀ content,
      (embeddedFrom fs table).read fs ("native/" ++ a ++ "/" ++ b) = .ok (some content) ↔
        (ofDirectory root).read fs ("native/" ++ a ++ "/" ++ b) = .ok (some content) := by
  intro native table
  have hne : native ≠ "" := join_ne_empty isName_native
  have hslash : endsInSlash native = false := endsInSlash_join isName_native
  refine ⟨fun r l => mem_collect_iff hfs hne hslash, ?_, sorted_resources hfs native,
    fun fs' h hhome => collect_of_perm hfs h hhome native,
    fun a b ha hb content => embeddedFrom_read_iff_ofDirectory_read hfs root ha hb⟩
  rintro d hd hlinks ⟨r, l⟩ hl
  have hplatforms (a target : String) : fs.node? (d ++ [a]) ≠ some (.link target) :=
    hlinks _ target (List.prefix_append d [a])
  have hfiles (a b target : String) : fs.node? (d ++ [a] ++ [b]) ≠ some (.link target) := by
    rw [List.append_assoc]
    exact hlinks _ target (List.prefix_append d [a, b])
  obtain ⟨a, b, hr, hloc, -⟩ := eq_of_mem_collect hfs hne hslash hd hplatforms hfiles hl
  exact ⟨a, b, hr, by rw [hloc, List.append_assoc]; rfl⟩

/-- Of one library by its platform's name and by a link, among files that stand too high and too
deep. -/
def aliased : FileSystem where
  home := ["b"]
  nodes := [
    (["b"], .directory), (["b", "native"], .directory), (["b", "native", "notes"], .file [1]),
    (["b", "native", "windows-x86_64"], .link "linux-x86_64"),
    (["b", "native", "linux-x86_64"], .directory),
    (["b", "native", "linux-x86_64", "old"], .directory),
    (["b", "native", "linux-x86_64", "old", "lib"], .file [2]),
    (["b", "native", "linux-x86_64", "lib"], .file [3])]

theorem embedded_agrees_with_directory_aliased : aliased.WellNamed ∧
    ("native/windows-x86_64/lib", ["b", "native", "linux-x86_64", "lib"]) ∈
      collect aliased "native" ∧
    (embeddedFrom aliased (collect aliased "native")).read aliased "native/windows-x86_64/lib" =
      .ok (some [3]) := by
  have hfs : aliased.WellNamed := ⟨by decide +kernel, by decide +kernel⟩
  obtain ⟨hmem, -, -, -, hreads⟩ := embedded_agrees_with_directory aliased hfs ""
  have hplatform : IsName "windows-x86_64" := by decide
  have hlib : IsName "lib" := by decide
  refine ⟨hfs, ?_, ?_⟩
  · exact (hmem _ _).mpr ⟨"windows-x86_64", "lib", hplatform, hlib, rfl, by decide +kernel⟩
  · exact (hreads "windows-x86_64" "lib" hplatform hlib [3]).mpr (by decide +kernel)

end RegexHost.Bundle

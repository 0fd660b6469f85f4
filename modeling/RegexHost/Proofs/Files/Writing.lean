import RegexHost.Proofs.Files.Entries

/-! What is made stands where its path leads: new directories, files that are written and copies of
files. Other files stay what they are. -/
namespace RegexHost.Files

/-- The place as it is when the file at `t` has this content. -/
def Place.refilled (t : Location) (content : Bytes) : Place → Place
  | .found l (.file old) => .found l (.file (if l = t then content else old))
  | place => place

namespace FileSystem

variable {fs fs' : FileSystem} {follow : Bool} {links : Nat} {here l t d : Location}
  {xs : List String} {p a c path source target : String} {node : Node} {place : Place}
  {content old : Bytes}

/-! Places that are found stay found -/

section

variable {jump jump' : Location → List String → Except FaultKind Place}

theorem walkBy_of_keeps (h : fs.Keeps fs')
    (hj : ∀ here xs, jump here xs = .ok (.found l node) → jump' here xs = .ok (.found l node))
    (hw : fs.walkBy jump follow here xs = .ok (.found l node)) :
    fs'.walkBy jump' follow here xs = .ok (.found l node) := by
  replace hw := goes_of_walkBy hw
  induction hw with
  | ends hplace =>
    cases hplace
    rfl
  | blank hx _ ih =>
    rw [walkBy_cons_blank hx]
    exact ih
  | up _ ih =>
    rw [walkBy_cons_up]
    exact ih
  | vacant _ _ _ hplace => cases hplace
  | directory hx hn _ ih =>
    rw [walkBy_cons_directory hx (h.stands hn)]
    exact ih
  | file hx hn hlast hplace => rw [walkBy_cons_file hx (h.stands hn), if_pos hlast, hplace]
  | link hx hn hlast hplace => rw [walkBy_cons_link hx (h.stands hn), if_pos hlast, hplace]
  | along hx hn hon hw =>
    rw [walkBy_cons_link hx (h.stands hn), if_neg hon]
    exact hj _ _ hw

theorem walkBy_put_file (ht : fs.node? t = some (.file old))
    (hj : ∀ here xs, jump' here xs = (jump here xs).map (Place.refilled t content)) :
    (fs.put t (.file content)).walkBy jump' follow here xs =
      (fs.walkBy jump follow here xs).map (Place.refilled t content) := by
  have hne : t ≠ [] := by
    rintro rfl
    cases ht
  induction xs generalizing here with
  | nil => rfl
  | cons x rest ih =>
    rcases step_cases x with hx | rfl | ⟨hblank, hup, hlong⟩ | hx
    · rw [walkBy_cons_blank hx, walkBy_cons_blank hx]
      exact ih
    · rw [walkBy_cons_up, walkBy_cons_up]
      exact ih
    · rw [walkBy_cons_long hblank hup hlong, walkBy_cons_long hblank hup hlong]
      rfl
    by_cases hl : here ++ [x] = t
    · have hnew : (fs.put t (.file content)).node? (here ++ [x]) = some (.file content) := by
        rw [hl, node?_put_self fs hne]
      have hold : fs.node? (here ++ [x]) = some (.file old) := hl ▸ ht
      rw [walkBy_cons_file hx hnew, walkBy_cons_file hx hold]
      split_ifs
      · simp [Except.map, Place.refilled, hl]
      · rfl
    have hsame := node?_put_of_ne fs hl (.file content)
    cases hn : fs.node? (here ++ [x]) with
    | none =>
      rw [walkBy_cons_none hx hn, walkBy_cons_none hx (hsame.trans hn)]
      split_ifs <;> rfl
    | some node =>
      rw [hn] at hsame
      cases node with
      | file content' =>
        rw [walkBy_cons_file hx hn, walkBy_cons_file hx hsame]
        split_ifs
        · simp [Except.map, Place.refilled, hl]
        · rfl
      | directory =>
        rw [walkBy_cons_directory hx hn, walkBy_cons_directory hx hsame]
        exact ih
      | link target =>
        rw [walkBy_cons_link hx hn, walkBy_cons_link hx hsame]
        split_ifs
        · rfl
        all_goals exact hj _ _

end

theorem walk_of_keeps (h : fs.Keeps fs') (hw : fs.walk follow links here xs = .ok (.found l node)) :
    fs'.walk follow links here xs = .ok (.found l node) := by
  induction links generalizing here xs with
  | zero => exact walkBy_of_keeps h (by intro _ _ hj; cases hj) hw
  | succ links ih => exact walkBy_of_keeps h (fun _ _ => ih) hw

theorem locate_of_keeps (h : fs.Keeps fs') (hhome : fs'.home = fs.home)
    (hp : fs.locate follow p = .ok (.found l node)) :
    fs'.locate follow p = .ok (.found l node) := by
  have hu := usable_of_locate hp
  rw [hu.locate_eq, hhome, walk_of_keeps h (walk_of_locate hp)]
  rfl

theorem walk_put_file (ht : fs.node? t = some (.file old)) :
    (fs.put t (.file content)).walk follow links here xs =
      (fs.walk follow links here xs).map (Place.refilled t content) := by
  induction links generalizing here xs with
  | zero => exact walkBy_put_file ht fun _ _ => rfl
  | succ links ih => exact walkBy_put_file ht fun _ _ => ih

theorem locate_put_file (ht : fs.node? t = some (.file old)) (hp : fs.locate follow p = .ok place) :
    (fs.put t (.file content)).locate follow p = .ok (place.refilled t content) := by
  have hw := walk_of_locate hp
  have hhome : (fs.put t (.file content)).home = fs.home := rfl
  rw [(usable_of_locate hp).locate_eq, walk_put_file ht, hhome, hw]
  rfl

/-! Files that are written -/

theorem put_put (fs : FileSystem) (l : Location) (node node' : Node) :
    (fs.put l node).put l node' = fs.put l node' := by
  simp [put, List.filter_filter]

/-- A file that was written is where its path leads. -/
theorem locate_of_written (h : fs.fileToWrite p = .ok t) (content : Bytes) :
    (fs.put t (.file content)).locate true p = .ok (.found t (.file content)) := by
  unfold fileToWrite at h
  cases hp : fs.locate true p with
  | error f => rw [hp] at h; cases h
  | ok place =>
    rw [hp] at h
    rcases place with ⟨l, old | _ | target⟩ | ⟨d, name⟩
    · cases h
      have hold : fs.node? t = some (.file old) := stands_walk (walk_of_locate hp)
      rw [locate_put_file hold hp]
      simp [Place.refilled]
    · cases h
    · cases h
    · change (if (fs.put (d ++ [name]) (.file [])).file? p = some (d ++ [name]) then
        return d ++ [name] else throw _) = Except.ok t at h
      split_ifs at h with hfile
      cases h
      have hne : d ++ [name] ≠ [] := List.append_ne_nil_of_right_ne_nil d (List.cons_ne_nil name [])
      obtain ⟨empty, hempty⟩ := file?_eq_some_iff.mp hfile
      rw [← put_put fs (d ++ [name]) (.file []), locate_put_file (node?_put_self fs hne _) hempty]
      simp [Place.refilled]

/-- Paths to directories do not change when a file is written. -/
theorem directory?_of_written (h : fs.fileToWrite p = .ok t) (content : Bytes)
    (hd : fs.directory? path = some d) : (fs.put t (.file content)).directory? path = some d := by
  rw [directory?_eq_some_iff] at hd ⊢
  obtain ⟨old, hp⟩ | ⟨above, name, rfl, hp⟩ := locate_of_fileToWrite h
  · have hold : fs.node? t = some (.file old) := stands_walk (walk_of_locate hp)
    exact locate_put_file hold hd
  · have hnew : fs.node? (above ++ [name]) = none := stands_walk (walk_of_locate hp)
    exact locate_of_keeps (keeps_put hnew _) rfl hd

/-- What a copy does to files: the one that the target leads to has the content that the source had,
but a file that is copied to itself is emptied. -/
theorem copy_eq_ok (h : fs.copy source target = (.ok (), fs')) :
    ∃ l content t, fs.locate true source = .ok (.found l (.file content)) ∧
      fs.fileToWrite target = .ok t ∧ fs' = fs.put t (.file (if t = l then [] else content)) := by
  unfold copy at h
  split at h
  · cases h
  · cases h
  · next l content hsource =>
    split at h
    · cases h
    · next t ht =>
      have hold : fs.node? l = some (.file content) := stands_walk (walk_of_locate hsource)
      have hne : l ≠ [] := by
        rintro rfl
        cases hold
      refine ⟨l, content, t, hsource, ht, ?_⟩
      dsimp only at h
      split_ifs with htl
      · rw [htl, node?_put_self fs hne] at h
        cases h
        rw [htl, put_put]
      · rw [node?_put_of_ne fs (Ne.symm htl), hold] at h
        cases h
        exact put_put fs t _ _
  · cases h

/-! Names stay names -/

theorem isName_of_walkBy {jump : Location → List String → Except FaultKind Place}
    (hj : ∀ here xs, (∀ x ∈ xs, '/' ∉ x.toList) → jump here xs = .ok (.vacant d a) → Path.IsName a)
    (hxs : ∀ x ∈ xs, '/' ∉ x.toList) (h : fs.walkBy jump follow here xs = .ok (.vacant d a)) :
    Path.IsName a := by
  replace h := goes_of_walkBy h
  induction h with
  | ends hplace => cases hplace
  | blank _ _ ih => exact ih (List.forall_mem_cons.mp hxs).2
  | up _ ih => exact ih (List.forall_mem_cons.mp hxs).2
  | vacant hx _ _ hplace =>
    cases hplace
    have hblank := not_or.mp hx.notBlank
    exact ⟨hblank.1, hblank.2, hx.notUp, (List.forall_mem_cons.mp hxs).1⟩
  | directory _ _ _ ih => exact ih (List.forall_mem_cons.mp hxs).2
  | file _ _ _ hplace => cases hplace
  | link _ _ _ hplace => cases hplace
  | along _ _ _ h =>
    refine hj _ _ ?_ h
    intro y hy
    rcases List.mem_append.mp hy with hy | hy
    · exact Path.notMem_of_mem_steps hy
    · exact (List.forall_mem_cons.mp hxs).2 y hy

theorem isName_of_walk (hxs : ∀ x ∈ xs, '/' ∉ x.toList)
    (h : fs.walk follow links here xs = .ok (.vacant d a)) : Path.IsName a := by
  induction links generalizing here xs with
  | zero => exact isName_of_walkBy (by intro _ _ _ hj; cases hj) hxs h
  | succ links ih => exact isName_of_walkBy (fun _ _ => ih) hxs h

theorem isName_of_locate (h : fs.locate follow p = .ok (.vacant d a)) : Path.IsName a :=
  isName_of_walk (fun _ => Path.notMem_of_mem_steps) (walk_of_locate h)

namespace WellNamed

theorem isName_of_node (hfs : fs.WellNamed) (hn : fs.node? l ≠ none) : ∀ s ∈ l, Path.IsName s := by
  by_cases hl : l = []
  · rw [hl]
    nofun
  · rw [node?_eq_lookup hl, ← Option.isSome_iff_ne_none, List.lookup_isSome_iff] at hn
    obtain ⟨n, hn, hkey⟩ := hn
    rw [eq_of_beq hkey]
    exact hfs.names n hn

theorem put (hfs : fs.WellNamed) (hl : ∀ s ∈ l, Path.IsName s) (node : Node) :
    (fs.put l node).WellNamed := by
  constructor
  · rw [FileSystem.put, List.map_cons, List.nodup_cons]
    constructor
    · intro hmem
      obtain ⟨n, hn, hkey⟩ := List.mem_map.mp hmem
      exact of_decide_eq_true (List.mem_filter.mp hn).2 hkey
    · exact hfs.nodup.sublist (List.filter_sublist.map _)
  · intro n hn
    rcases List.mem_cons.mp hn with rfl | hn
    · exact hl
    · exact hfs.names n (List.mem_filter.mp hn).1

theorem put_vacant (hfs : fs.WellNamed) (ht : fs.Tree) (h : fs.locate follow p = .ok (.vacant d a))
    (node : Node) : (fs.put (d ++ [a]) node).WellNamed := by
  have hd := ht.directory_walk (ht.directory_start p) (walk_of_locate h)
  refine hfs.put (fun s hs => ?_) node
  rcases List.mem_append.mp hs with hs | hs
  · exact hfs.isName_of_node (by rw [hd]; nofun) s hs
  · rw [List.mem_singleton.mp hs]
    exact isName_of_locate h

theorem directoryToMake (hfs : fs.WellNamed) (ht : fs.Tree) (h : fs.directoryToMake p = .ok l) :
    (fs.put l .directory).WellNamed := by
  obtain ⟨d, a, rfl, hp⟩ := locate_of_directoryToMake h
  exact hfs.put_vacant ht hp _

theorem fileToWrite (hfs : fs.WellNamed) (ht : fs.Tree) (h : fs.fileToWrite p = .ok l)
    (content : Bytes) : (fs.put l (.file content)).WellNamed := by
  obtain ⟨old, hp⟩ | ⟨d, a, rfl, hp⟩ := locate_of_fileToWrite h
  · have hold : fs.node? l = some (.file old) := stands_walk (walk_of_locate hp)
    exact hfs.put (hfs.isName_of_node (by rw [hold]; nofun)) _
  · exact hfs.put_vacant ht hp _

theorem makeDirectories (hfs : fs.WellNamed) (ht : fs.Tree) (p : String) :
    (fs.makeDirectories p).2.WellNamed := by
  refine (makeDirectories_induction (P := fun fs' => fs'.WellNamed ∧ fs'.Tree) ?_ ⟨hfs, ht⟩ p).1
  intro fs' path l ⟨hfs', ht'⟩ hl
  exact ⟨hfs'.directoryToMake ht' hl, (ht'.directoryToMake hl).1⟩

end WellNamed

theorem home_makeDirectories (fs : FileSystem) (p : String) :
    (fs.makeDirectories p).2.home = fs.home :=
  makeDirectories_induction (P := fun fs' => fs'.home = fs.home) (fun _ _ _ h _ => h) rfl p

theorem usable_of_fileToWrite (h : fs.fileToWrite p = .ok l) : Usable p := by
  obtain ⟨old, hp⟩ | ⟨d, name, -, hp⟩ := locate_of_fileToWrite h <;> exact usable_of_locate hp

/-- A file is written right where its name is, if that is no link to elsewhere. -/
theorem fileToWrite_join (hp : p ≠ "") (hs : Path.endsInSlash p = false) (ha : Path.IsName a)
    (hlink : ∀ target, fs.node? (d ++ [a]) ≠ some (.link target)) (hd : fs.directory? p = some d)
    (h : fs.fileToWrite (Path.join p a) = .ok l) : l = d ++ [a] := by
  obtain ⟨old, hplace⟩ | ⟨above, name, rfl, hplace⟩ := locate_of_fileToWrite h
  all_goals
    obtain ⟨d', m, hd', hw⟩ := directory_of_locate_join hp hs ha hplace
    cases hd.symm.trans hd'
  · exact (eq_of_walk_found ha hlink hw).1
  · have hshort := byteLength_le_of_walk ha hw
    cases hn : fs.node? (d ++ [a]) with
    | none =>
      rw [walk_name_of_none ha hshort hn] at hw
      cases hw
      rfl
    | some node =>
      rw [walk_name_of_node ha hshort hn fun target he => absurd (he ▸ hn) (hlink target)] at hw
      cases hw

/-! Directories that are made with those above them -/

/-- What is made, or cannot be made only because the directory for it is missing, is missing
itself. -/
theorem missing_of_makeDirectory (hp : p ≠ "")
    (h : ∀ f, fs.makeDirectory p = .error f → f.kind = .notFound) :
    Missing (fs.walk false linkLimit (if Path.isAbsolute p then [] else fs.home)
      (Path.steps p)) := by
  rw [makeDirectory, directoryToMake] at h
  cases hplace : fs.locate false p with
  | ok place =>
    rw [hplace] at h
    cases place with
    | found l node => cases h _ rfl
    | vacant d a =>
      rw [walk_of_locate hplace]
      exact .vacant d a
  | error f =>
    rw [hplace] at h
    have hf : f.kind = .notFound := h f rfl
    rw [(usable_of_notFound hp hplace hf).locate_eq] at hplace
    cases hw : fs.walk false linkLimit (if Path.isAbsolute p then [] else fs.home)
      (Path.steps p) with
    | ok place =>
      rw [hw] at hplace
      cases hplace
    | error kind =>
      rw [hw] at hplace
      cases hplace
      cases hf
      exact .notFound

/-- A directory that is there is not made. -/
theorem makeDirectories_of_directory (hd : fs.directory? p = some d) :
    fs.makeDirectories p = (.ok (), fs) := by
  have hthere : fs.isDirectory p = true := Option.isSome_of_eq_some hd
  rw [directory?_eq_some_iff] at hd
  have hp := (usable_of_locate hd).ne_empty
  have hkept : ∃ f, fs.makeDirectory p = .error f ∧ f.kind ≠ .notFound := by
    by_contra hmade
    refine not_missing_of_directory (walk_of_locate hd) (missing_of_makeDirectory hp fun f hf => ?_)
    by_contra hkind
    exact hmade ⟨f, hf, hkind⟩
  obtain ⟨f, hf, hkind⟩ := hkept
  rw [makeDirectories, makeWithParents, if_neg hp, hf]
  dsimp only
  rw [if_neg hkind, makeWithParents.settle, if_pos hthere]

/-- A directory that is made was missing. -/
theorem missing_of_makeDirectories (hp : p ≠ "") (hd : fs.directory? p = none)
    (h : fs.makeDirectories p = (.ok (), fs')) :
    Missing (fs.walk false linkLimit (if Path.isAbsolute p then [] else fs.home)
      (Path.steps p)) := by
  have hnot : fs.isDirectory p = false := by rw [isDirectory, hd]; rfl
  refine missing_of_makeDirectory hp fun f hf => ?_
  by_contra hkind
  rw [makeDirectories, makeWithParents, if_neg hp, hf] at h
  dsimp only at h
  rw [if_neg hkind, makeWithParents.settle, hnot] at h
  cases h

theorem makeDirectory_join (hs : Path.endsInSlash p = false) (ha : Path.IsName a)
    (hshort : byteLength a ≤ nameLimit) (hd : fs.directory? p = some d)
    (hu : Usable (Path.join p a)) : fs.makeDirectory (Path.join p a) =
      if fs.node? (d ++ [a]) = none then .ok (fs.put (d ++ [a]) .directory)
        else .error (.ofKind .alreadyExists) := by
  obtain ⟨m, hm⟩ := locate_join_of_directory false hs ha hd hu
  rw [makeDirectory, directoryToMake, hm]
  cases hn : fs.node? (d ++ [a]) with
  | none =>
    rw [walk_name_of_none ha hshort hn]
    rfl
  | some node =>
    rw [walk_name_of_node ha hshort hn fun _ _ => rfl]
    rfl

theorem settle_error (fs : FileSystem) (f : Fault) (p : String) :
    (makeWithParents.settle fs (.error f) p).2 = fs := by
  rw [makeWithParents.settle]
  split_ifs <;> rfl

/-- In a directory that is there, or made before, at most one is made. -/
theorem makeDirectories_join (hc : Path.IsName c) (ha : Path.IsName a)
    (hshort : byteLength a ≤ nameLimit) (hmade : fs.makeDirectories (Path.join p c) = (.ok (), fs'))
    (hd : fs'.directory? (Path.join p c) = some d) (hu : Usable (Path.join (Path.join p c) a)) :
    (fs.makeDirectories (Path.join (Path.join p c) a)).2 =
      if fs'.node? (d ++ [a]) = none then fs'.put (d ++ [a]) .directory else fs' := by
  have hs := Path.endsInSlash_join (p := p) hc
  have hp := Path.join_ne_empty (p := p) hc
  have hmake := makeDirectory_join hs ha hshort hd hu
  have hexists : (Fault.ofKind .alreadyExists).kind ≠ .notFound := nofun
  cases hthere : fs.directory? (Path.join p c) with
  | some d' =>
    cases hmade.symm.trans (makeDirectories_of_directory hthere)
    cases hd.symm.trans hthere
    rw [makeDirectories, makeWithParents, if_neg hu.ne_empty, hmake]
    split_ifs with hn
    · rfl
    · dsimp only
      rw [if_neg hexists, settle_error]
  | none =>
    have hmissing : fs.makeDirectory (Path.join (Path.join p c) a) =
        .error (.ofKind .notFound) := by
      rw [makeDirectory, directoryToMake, hu.locate_eq, Path.isAbsolute_join hp ha.isAbsolute,
        Path.steps_join_name hp hs ha,
        walk_missing false ⟨a, List.mem_singleton_self a, ha.ne_empty⟩
        (missing_of_makeDirectories hp hthere hmade)]
      rfl
    have hkind : (Fault.ofKind .notFound).kind = .notFound := rfl
    have hdepth : (Path.names (Path.join (Path.join p c) a)).length + 1 =
        (Path.names (Path.join p c)).length + 2 := by
      rw [Path.names_join_name hp hs ha, List.length_append, List.length_singleton]
    rw [makeDirectories, makeWithParents, if_neg hu.ne_empty, hmissing]
    dsimp only
    rw [if_pos hkind, Path.parent?_join p hc ha, hdepth]
    dsimp only
    rw [← makeDirectories, hmade]
    dsimp only
    rw [hmake]
    split_ifs with hn
    · rfl
    · exact settle_error fs' _ _

end FileSystem

end RegexHost.Files

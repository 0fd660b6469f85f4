import RegexHost.Proofs.Files.Nodes
import RegexHost.Proofs.Files.Paths

/-! File systems in which each node stands in a directory, and what lies below a directory that is
new. -/
namespace RegexHost.Files.FileSystem

variable {fs fs' fs'' : FileSystem} {l l' d : Location} {name path : String}

/-- Each node stands in a directory, and the process too. -/
structure Tree (fs : FileSystem) : Prop where
  parent : ∀ l name, fs.node? (l ++ [name]) ≠ none → fs.node? l = some .directory
  home : fs.node? fs.home = some .directory

theorem tree_of_nodes (hnodes : ∀ n ∈ fs.nodes, fs.node? n.1.dropLast = some .directory)
    (hhome : fs.node? fs.home = some .directory) : fs.Tree := by
  refine ⟨fun l name hne => ?_, hhome⟩
  rw [node?_eq_lookup (List.append_ne_nil_of_right_ne_nil l (List.cons_ne_nil name [])),
    ← Option.isSome_iff_ne_none, List.lookup_isSome_iff] at hne
  obtain ⟨n, hn, hl⟩ := hne
  have hdrop : n.1.dropLast = l := by rw [← eq_of_beq hl, List.dropLast_concat]
  rw [← hdrop]
  exact hnodes n hn

/-- Nothing is changed or removed, and nothing is new but directories. -/
def Adds (fs fs' : FileSystem) : Prop :=
  ∀ l, fs'.node? l = fs.node? l ∨ fs.node? l = none ∧ fs'.node? l = some .directory

theorem Adds.refl (fs : FileSystem) : fs.Adds fs :=
  fun _ => .inl rfl

theorem Adds.keeps (h : fs.Adds fs') : fs.Keeps fs' :=
  fun l hl => (h l).resolve_right fun hnew => hl hnew.1

theorem Adds.trans (h : fs.Adds fs') (h' : fs'.Adds fs'') : fs.Adds fs'' := by
  intro l
  rcases h' l with he' | ⟨hn', hd'⟩
  · rw [he']
    exact h l
  · rcases h l with he | ⟨-, hd⟩
    · exact .inr ⟨he.symm.trans hn', hd'⟩
    · cases hn'.symm.trans hd

theorem Adds.directory (h : fs.Adds fs') (hd : fs.node? d = some .directory) :
    fs'.node? d = some .directory := by
  rcases h d with he | ⟨hn, -⟩
  · rw [he, hd]
  · cases hn.symm.trans hd

theorem Adds.none (h : fs.Adds fs') (hn : fs'.node? l = none) : fs.node? l = none := by
  rcases h l with he | ⟨hn, -⟩
  · exact he.symm.trans hn
  · exact hn

theorem adds_put (hn : fs.node? l = none) (hl : l ≠ []) : fs.Adds (fs.put l .directory) := by
  intro l'
  by_cases he : l' = l
  · rw [he]
    exact .inr ⟨hn, fs.node?_put_self hl .directory⟩
  · exact .inl (fs.node?_put_of_ne he .directory)

/-- What each new directory keeps is kept by making a directory with those above it. -/
theorem makeWithParents_induction {P : FileSystem → Prop}
    (hstep : ∀ fs path l, P fs → fs.directoryToMake path = .ok l → P (fs.put l .directory))
    (h : P fs) (depth : Nat) (p : String) : P (makeWithParents depth fs p).2 := by
  have hmake {fs fs' : FileSystem} {p : String} (h : P fs) (hm : fs.makeDirectory p = .ok fs') :
      P fs' := by
    rw [makeDirectory] at hm
    cases hl : fs.directoryToMake p with
    | error f => rw [hl] at hm; cases hm
    | ok l =>
      rw [hl] at hm
      cases hm
      exact hstep fs p l h hl
  have hsettle {fs : FileSystem} {made : Except Fault FileSystem} (h : P fs)
      (hm : ∀ fs', made = .ok fs' → P fs') (p : String) :
      P (makeWithParents.settle fs made p).2 := by
    unfold makeWithParents.settle
    cases made with
    | ok fs' => exact hm fs' rfl
    | error f =>
      dsimp only
      split_ifs <;> exact h
  induction depth generalizing fs p with
  | zero => exact h
  | succ depth ih =>
    rw [makeWithParents]
    split_ifs
    · exact h
    cases hmade : fs.makeDirectory p with
    | ok fs' => exact hmake h hmade
    | error f =>
      dsimp only
      split_ifs
      · cases Path.parent? p with
        | none => exact h
        | some above =>
          dsimp only
          have h' := ih h above
          generalize makeWithParents depth fs above = made at h' ⊢
          obtain ⟨_ | _, fs'⟩ := made
          · exact h'
          · exact hsettle h' (fun _ => hmake h') p
      · exact hsettle h (by intro _ he; cases he) p

theorem makeDirectories_induction {P : FileSystem → Prop}
    (hstep : ∀ fs path l, P fs → fs.directoryToMake path = .ok l → P (fs.put l .directory))
    (h : P fs) (p : String) : P (fs.makeDirectories p).2 :=
  makeWithParents_induction hstep h _ p

/-- Directories that are missing are made, nothing else. -/
theorem adds_makeDirectories (fs : FileSystem) (p : String) : fs.Adds (fs.makeDirectories p).2 := by
  refine makeDirectories_induction (P := fs.Adds) ?_ (.refl fs) p
  intro fs' path l hadds hl
  obtain ⟨hne, hn⟩ := new_of_directoryToMake hl
  exact hadds.trans (adds_put hn hne)

namespace Tree

theorem dropLast (ht : fs.Tree) (hd : fs.node? d = some .directory) :
    fs.node? d.dropLast = some .directory := by
  cases d using List.reverseRecOn with
  | nil => rfl
  | append_singleton d name =>
    rw [List.dropLast_concat]
    exact ht.parent d name (by rw [hd]; nofun)

theorem none_below (ht : fs.Tree) (hn : fs.node? l = none) (hp : l <+: l') :
    fs.node? l' = none := by
  obtain ⟨below, rfl⟩ := hp
  induction below using List.reverseRecOn with
  | nil => rwa [List.append_nil]
  | append_singleton below name ih =>
    by_contra hne
    rw [← List.append_assoc] at hne
    cases ih.symm.trans (ht.parent _ name hne)

theorem directory_walkBy (ht : fs.Tree) {jump : Location → List String → Except FaultKind Place}
    {follow : Bool}
    (hj : ∀ here xs, fs.node? here = some .directory → jump here xs = .ok (.vacant d name) →
      fs.node? d = some .directory) {here : Location} {xs : List String}
      (hh : fs.node? here = some .directory)
    (h : fs.walkBy jump follow here xs = .ok (.vacant d name)) : fs.node? d = some .directory := by
  replace h := goes_of_walkBy h
  induction h with
  | ends hplace => cases hplace
  | blank _ _ ih => exact ih hh
  | up _ ih => exact ih (ht.dropLast hh)
  | vacant _ _ _ hplace =>
    cases hplace
    exact hh
  | directory _ hn _ ih => exact ih hn
  | file _ _ _ hplace => cases hplace
  | link _ _ _ hplace => cases hplace
  | along _ _ _ h =>
    refine hj _ _ ?_ h
    split_ifs
    · rfl
    · exact hh

theorem directory_walk (ht : fs.Tree) {follow : Bool} {links : Nat} {here : Location}
    {xs : List String} (hh : fs.node? here = some .directory)
    (h : fs.walk follow links here xs = .ok (.vacant d name)) : fs.node? d = some .directory := by
  induction links generalizing here xs with
  | zero => exact ht.directory_walkBy (by intro _ _ _ hj; cases hj) hh h
  | succ links ih => exact ht.directory_walkBy (fun _ _ hh h => ih hh h) hh h

/-- Where a path begins. -/
theorem directory_start (ht : fs.Tree) (path : String) :
    fs.node? (if Path.isAbsolute path then [] else fs.home) = some .directory := by
  split_ifs
  · rfl
  · exact ht.home

/-- Anything can stand in a directory in place of what is none. -/
theorem put (ht : fs.Tree) (hd : fs.node? d = some .directory)
    (hn : fs.node? (d ++ [name]) ≠ some .directory)
    (node : Node) : (fs.put (d ++ [name]) node).Tree := by
  have hkeeps {l : Location} (hl : fs.node? l = some .directory) :
      (fs.put (d ++ [name]) node).node? l = some .directory := by
    have hne : l ≠ d ++ [name] := by
      rintro rfl
      exact hn hl
    rwa [fs.node?_put_of_ne hne]
  constructor
  · intro l name' hne
    by_cases he : l ++ [name'] = d ++ [name]
    · obtain ⟨rfl, -⟩ := List.append_inj' he rfl
      exact hkeeps hd
    · rw [fs.node?_put_of_ne he] at hne
      exact hkeeps (ht.parent l name' hne)
  · exact hkeeps ht.home

theorem removeTree (ht : fs.Tree) (hl : l ≠ []) (hhome : ¬ l <+: fs.home) :
    (fs.removeTree l).Tree := by
  constructor
  · intro l' name hne
    rw [fs.node?_removeTree hl] at hne ⊢
    split_ifs at hne with hp
    · exact absurd rfl hne
    · rw [if_neg fun hp' => hp (hp'.trans (List.prefix_append l' [name]))]
      exact ht.parent l' name hne
  · rw [fs.node?_removeTree hl]
    exact (if_neg hhome).trans ht.home

theorem directoryToMake (ht : fs.Tree) (h : fs.directoryToMake path = .ok l) :
    (fs.put l .directory).Tree ∧ fs.Adds (fs.put l .directory) := by
  obtain ⟨hne, hn⟩ := new_of_directoryToMake h
  obtain ⟨d, name, rfl, hp⟩ := locate_of_directoryToMake h
  have hd := ht.directory_walk (ht.directory_start path) (walk_of_locate hp)
  exact ⟨ht.put hd (by rw [hn]; nofun) .directory, adds_put hn hne⟩

theorem fileToWrite (ht : fs.Tree) (h : fs.fileToWrite path = .ok l) (content : Bytes) :
    (fs.put l (.file content)).Tree := by
  have hn := node?_of_fileToWrite h
  obtain ⟨old, hp⟩ | ⟨d, name, rfl, hp⟩ := locate_of_fileToWrite h
  · have hold : fs.node? l = some (.file old) := stands_walk (walk_of_locate hp)
    cases l using List.reverseRecOn with
    | nil => cases hold
    | append_singleton d name => exact ht.put (ht.parent d name (by rw [hold]; nofun)) hn _
  · exact ht.put (ht.directory_walk (ht.directory_start path) (walk_of_locate hp)) hn _

theorem makeDirectories (ht : fs.Tree) (p : String) : (fs.makeDirectories p).2.Tree :=
  makeDirectories_induction (P := Tree) (fun _ _ _ ht' hl => (ht'.directoryToMake hl).1) ht p

end Tree

/-! A directory that is new, in which a path goes on -/

section

variable {jump jump' : Location → List String → Except FaultKind Place} {follow : Bool}
  {t ys : List String}

theorem walkBy_blank (ht : ∀ s ∈ t, s = "") (here : Location) :
    fs.walkBy jump follow here t = .ok (.found here .directory) := by
  induction t with
  | nil => rfl
  | cons s t ih =>
    obtain ⟨hs, ht⟩ := List.forall_mem_cons.mp ht
    rw [walkBy_cons_blank (.inl hs)]
    exact ih ht

theorem walkBy_append {xs : List String} (hxs : ∀ s ∈ xs, s = "") (here : Location) :
    fs.walkBy jump follow here (xs ++ ys) = fs.walkBy jump follow here ys := by
  induction xs with
  | nil => rfl
  | cons s xs ih =>
    obtain ⟨hs, hxs⟩ := List.forall_mem_cons.mp hxs
    rw [List.cons_append, walkBy_cons_blank (.inl hs)]
    exact ih hxs

/-- A path that led to a vacant place leads to the directory that was made there, and on. -/
theorem walkBy_through (links : Nat) (hn : fs.node? (d ++ [name]) = none) (ht : ∀ s ∈ t, s = "")
    (hys : ys ≠ [])
    (hwalk : ∀ here zs, (fs.put (d ++ [name]) .directory).walkBy jump' true here zs =
      (fs.put (d ++ [name]) .directory).walk true links here zs)
    (hj : ∀ here xs, jump here (xs ++ t) = .ok (.vacant d name) →
      ∃ m, jump' here (xs ++ ys) = (fs.put (d ++ [name]) .directory).walk true m (d ++ [name]) ys)
    {here : Location} {xs : List String}
    (h : fs.walkBy jump false here (xs ++ t) = .ok (.vacant d name)) :
    ∃ m, (fs.put (d ++ [name]) .directory).walkBy jump' true here (xs ++ ys) =
      (fs.put (d ++ [name]) .directory).walk true m (d ++ [name]) ys := by
  have hself :=
    fs.node?_put_self (List.append_ne_nil_of_right_ne_nil d (List.cons_ne_nil name [])) .directory
  have hkeeps := keeps_put hn .directory
  induction xs generalizing here with
  | nil =>
    rw [List.nil_append, walkBy_blank ht] at h
    cases h
  | cons x rest ih =>
    rw [List.cons_append] at h ⊢
    cases goes_of_walkBy h with
    | blank hx h =>
      rw [walkBy_cons_blank hx]
      exact ih (walkBy_eq_ok_iff.mpr h)
    | up h =>
      rw [walkBy_cons_up]
      exact ih (walkBy_eq_ok_iff.mpr h)
    | vacant hx _ hrest hplace =>
      cases hplace
      rw [walkBy_cons_directory hx hself,
        walkBy_append fun s hs => hrest s (List.mem_append_left t hs), hwalk]
      exact ⟨links, rfl⟩
    | directory hx hdir h =>
      rw [walkBy_cons_directory hx (hkeeps.stands hdir)]
      exact ih (walkBy_eq_ok_iff.mpr h)
    | file _ _ _ hplace => cases hplace
    | link _ _ _ hplace => cases hplace
    | along hx hlink _ h =>
      rw [walkBy_cons_link hx (hkeeps.stands hlink),
        if_neg (fun hlast => hys (List.append_eq_nil_iff.mp hlast.1).2), ← List.append_assoc]
      rw [← List.append_assoc] at h
      exact hj _ _ h

theorem walk_through (hn : fs.node? (d ++ [name]) = none) (ht : ∀ s ∈ t, s = "")
    (hys : ys ≠ []) {links : Nat} {here : Location} {xs : List String}
    (h : fs.walk false links here (xs ++ t) = .ok (.vacant d name)) :
    ∃ m, (fs.put (d ++ [name]) .directory).walk true links here (xs ++ ys) =
      (fs.put (d ++ [name]) .directory).walk true m (d ++ [name]) ys := by
  induction links generalizing here xs with
  | zero => exact walkBy_through 0 hn ht hys (fun _ _ => rfl) (by intro _ _ hj; cases hj) h
  | succ links ih => exact walkBy_through (links + 1) hn ht hys (fun _ _ => rfl) (fun _ _ => ih) h

end

/-- In a directory with nothing below, steps that do not go up lead nowhere or to a place right in
it. -/
theorem walkBy_inward {jump : Location → List String → Except FaultKind Place} {follow : Bool}
    (hd : ∀ name, fs.node? (d ++ [name]) = none) {xs : List String}
    (hxs : (xs.filter fun s => s ≠ "" ∧ s ≠ ".").head? ≠ some "..") {p : Place}
    (h : fs.walkBy jump follow d xs = .ok p) :
    p = .found d .directory ∨ ∃ name, p = .vacant d name := by
  induction xs with
  | nil =>
    cases h
    exact .inl rfl
  | cons x rest ih =>
    cases goes_of_walkBy h with
    | blank hx h =>
      refine ih ?_ (walkBy_eq_ok_iff.mpr h)
      rwa [List.filter_cons_of_neg (by simpa [or_iff_not_imp_left] using hx)] at hxs
    | up h =>
      rw [List.filter_cons_of_pos (by decide)] at hxs
      exact absurd rfl hxs
    | vacant _ _ _ hplace => exact .inr ⟨x, hplace⟩
    | directory _ hn _ => cases (hd x).symm.trans hn
    | file _ hn _ _ => cases (hd x).symm.trans hn
    | link _ hn _ _ => cases (hd x).symm.trans hn
    | along _ hn _ _ => cases (hd x).symm.trans hn

/-- A file that is written by a part that leads down is written right in the new directory. -/
theorem Tree.fileToWrite_inside (ht : fs.Tree) {part : String} (hpart : Path.Inward part)
    (hd : fs.directoryToMake path = .ok d)
    (hl : (fs.put d .directory).fileToWrite (Path.join path part) = .ok l) :
    ∃ name, l = d ++ [name] := by
  obtain ⟨hne, hnone⟩ := new_of_directoryToMake hd
  obtain ⟨above, name, rfl, hp⟩ := locate_of_directoryToMake hd
  have hempty : path ≠ "" := by
    rintro rfl
    cases hp
  obtain ⟨xs, t, hpath, hblank, hjoin⟩ := Path.steps_join hempty hpart.relative
  have hbelow (name' : String) :
      (fs.put (above ++ [name]) .directory).node? (above ++ [name] ++ [name']) = none := by
    rw [node?_put_of_ne fs (by simp)]
    exact ht.none_below hnone (List.prefix_append _ _)
  have hsteps : Path.steps part ≠ [] := by
    rw [Path.steps]
    exact fun hnil => pieces_ne_nil _ _ (List.map_eq_nil_iff.mp hnil)
  have hwalk := walk_of_locate hp
  rw [hpath] at hwalk
  obtain ⟨m, hthrough⟩ := walk_through hnone hblank hsteps hwalk
  have hplace {p : Place}
      (h : (fs.put (above ++ [name]) .directory).locate true (Path.join path part) = .ok p) :
      p = .found (above ++ [name]) .directory ∨ ∃ name', p = .vacant (above ++ [name]) name' := by
    have hw := walk_of_locate h
    rw [Path.isAbsolute_join hempty hpart.relative, hjoin] at hw
    have hw := hthrough.symm.trans hw
    cases m with
    | zero => exact walkBy_inward hbelow hpart.first hw
    | succ m => exact walkBy_inward hbelow hpart.first hw
  obtain ⟨content, h⟩ | ⟨d', name', rfl, h⟩ := locate_of_fileToWrite hl
  · obtain hp | ⟨name', hp⟩ := hplace h <;> cases hp
  · obtain hp | ⟨name'', hp⟩ := hplace h <;> cases hp
    exact ⟨name', rfl⟩

end RegexHost.Files.FileSystem

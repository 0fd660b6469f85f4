import RegexHost.Proofs.Files.Walks
import RegexHost.Proofs.Table

/-! What stands where in a file system, after a change and at the end of a path. -/
namespace RegexHost.Files.FileSystem

variable {fs fs' : FileSystem} {l l' : Location} {node : Node}

@[simp] theorem node?_nil (fs : FileSystem) : fs.node? [] = some .directory :=
  rfl

theorem node?_eq_lookup (hl : l ≠ []) : fs.node? l = fs.nodes.lookup l :=
  if_neg hl

theorem node?_put_self (fs : FileSystem) (hl : l ≠ []) (node : Node) :
    (fs.put l node).node? l = some node := by
  rw [node?_eq_lookup hl, put, List.lookup_cons_self]

theorem node?_put_of_ne (fs : FileSystem) (hl : l' ≠ l) (node : Node) :
    (fs.put l node).node? l' = fs.node? l' := by
  by_cases hnil : l' = []
  · rw [hnil, node?_nil, node?_nil]
  · have hf := lookup_filter (fun m => decide (m ≠ l)) fs.nodes l'
    rw [if_pos (decide_eq_true hl)] at hf
    rw [node?_eq_lookup hnil, node?_eq_lookup hnil, put, List.lookup_cons, beq_false_of_ne hl]
    dsimp only
    exact hf

/-- What stands somewhere stays. -/
def Keeps (fs fs' : FileSystem) : Prop :=
  ∀ l, fs.node? l ≠ none → fs'.node? l = fs.node? l

theorem keeps_put (hn : fs.node? l = none) (node : Node) : fs.Keeps (fs.put l node) := by
  intro l' hl'
  apply node?_put_of_ne
  rintro rfl
  exact hl' hn

theorem Keeps.stands (h : fs.Keeps fs') (hn : fs.node? l = some node) :
    fs'.node? l = some node := by
  rw [h l (by rw [hn]; exact Option.some_ne_none node), hn]

theorem node?_removeTree (fs : FileSystem) (hl : l ≠ []) (l' : Location) :
    (fs.removeTree l).node? l' = if l <+: l' then none else fs.node? l' := by
  by_cases hnil : l' = []
  · rw [hnil, node?_nil, node?_nil, if_neg (by rwa [List.prefix_nil])]
  · have hf := lookup_filter (fun m => !l.isPrefixOf m) fs.nodes l'
    rw [node?_eq_lookup hnil, node?_eq_lookup hnil, removeTree]
    dsimp only
    rw [hf]
    by_cases hp : l <+: l'
    · rw [if_pos hp, if_neg (by simpa using hp)]
    · have hb : l.isPrefixOf l' = false :=
        Bool.eq_false_iff.mpr fun h => hp (List.isPrefixOf_iff_prefix.mp h)
      rw [if_neg hp, hb]
      rfl

/-- A file is where it was found, and where nothing was found is nothing. -/
def Stands (fs : FileSystem) : Place → Prop
  | .found l (.file content) => fs.node? l = some (.file content)
  | .found _ _ => True
  | .vacant d name => fs.node? (d ++ [name]) = none

theorem stands_walkBy {jump : Location → List String → Except FaultKind Place} {follow : Bool}
    (hj : ∀ l xs p, jump l xs = .ok p → fs.Stands p) {here : Location}
    {xs : List String} {p : Place} (h : fs.walkBy jump follow here xs = .ok p) : fs.Stands p := by
  replace h := goes_of_walkBy h
  induction h with
  | ends hplace | link _ _ _ hplace =>
    rw [hplace]
    trivial
  | blank _ _ ih => exact ih
  | up _ ih => exact ih
  | directory _ _ _ ih => exact ih
  | vacant _ hn _ hplace =>
    rw [hplace]
    exact hn
  | file _ hn _ hplace =>
    rw [hplace]
    exact hn
  | along _ _ _ h => exact hj _ _ _ h

theorem stands_walk {follow : Bool} {links : Nat} {here : Location} {xs : List String} {p : Place}
    (h : fs.walk follow links here xs = .ok p) : fs.Stands p := by
  induction links generalizing here xs p with
  | zero => exact stands_walkBy (by intro _ _ _ hj; cases hj) h
  | succ links ih => exact stands_walkBy (fun _ _ _ h => ih h) h

theorem walk_of_locate {follow : Bool} {path : String} {p : Place}
    (h : fs.locate follow path = .ok p) :
    fs.walk follow linkLimit (if Path.isAbsolute path then [] else fs.home) (Path.steps path) =
      .ok p := by
  unfold locate at h
  split at h
  · cases h
  split at h
  · cases h
  split at h
  · cases h
  generalize fs.walk follow linkLimit (if Path.isAbsolute path then [] else fs.home)
    (Path.steps path) = r at h ⊢
  cases r with
  | error f => cases h
  | ok q =>
    cases h
    rfl

theorem locate_of_directoryToMake {path : String} (h : fs.directoryToMake path = .ok l) :
    ∃ d name, l = d ++ [name] ∧ fs.locate false path = .ok (.vacant d name) := by
  unfold directoryToMake at h
  cases hp : fs.locate false path with
  | error f => rw [hp] at h; cases h
  | ok p =>
    rw [hp] at h
    cases p with
    | found l node => cases h
    | vacant d name =>
      cases h
      exact ⟨d, name, rfl, rfl⟩

theorem locate_of_fileToWrite {path : String} (h : fs.fileToWrite path = .ok l) :
    (∃ content, fs.locate true path = .ok (.found l (.file content))) ∨
      ∃ d name, l = d ++ [name] ∧ fs.locate true path = .ok (.vacant d name) := by
  unfold fileToWrite at h
  cases hp : fs.locate true path with
  | error f => rw [hp] at h; cases h
  | ok p =>
    rw [hp] at h
    rcases p with ⟨m, content | _ | target⟩ | ⟨d, name⟩
    · cases h
      exact .inl ⟨content, rfl⟩
    · cases h
    · cases h
    · change (if (fs.put (d ++ [name]) (.file [])).file? path = some (d ++ [name]) then
        return d ++ [name] else throw _) = Except.ok l at h
      split_ifs at h
      cases h
      exact .inr ⟨d, name, rfl, rfl⟩

/-- A new directory has a name, and nothing has stood there. -/
theorem new_of_directoryToMake {path : String} (h : fs.directoryToMake path = .ok l) :
    l ≠ [] ∧ fs.node? l = none := by
  obtain ⟨d, name, rfl, hp⟩ := locate_of_directoryToMake h
  exact ⟨List.append_ne_nil_of_right_ne_nil _ (List.cons_ne_nil _ _),
    stands_walk (walk_of_locate hp)⟩

/-- A file is not written over a directory. -/
theorem node?_of_fileToWrite {path : String} (h : fs.fileToWrite path = .ok l) :
    fs.node? l ≠ some .directory := by
  obtain ⟨content, hp⟩ | ⟨d, name, rfl, hp⟩ := locate_of_fileToWrite h
  · have hn : fs.node? l = some (.file content) := stands_walk (walk_of_locate hp)
    rw [hn]
    nofun
  · have hn : fs.node? (d ++ [name]) = none := stands_walk (walk_of_locate hp)
    rw [hn]
    nofun

end RegexHost.Files.FileSystem

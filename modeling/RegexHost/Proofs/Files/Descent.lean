import RegexHost.Proofs.Files.Tree
import RegexHost.Proofs.Text.Utf8

/-! One name after another: a path that goes on by a name leads into the directory that the path
before it leads to, and on from there. -/
namespace RegexHost

namespace Path

/-- A name that a directory can have. -/
structure IsName (s : String) : Prop where
  ne_empty : s ≠ ""
  ne_dot : s ≠ "."
  ne_up : s ≠ ".."
  slash : '/' ∉ s.toList

instance (s : String) : Decidable (IsName s) :=
  decidable_of_iff (s ≠ "" ∧ s ≠ "." ∧ s ≠ ".." ∧ '/' ∉ s.toList)
    ⟨fun ⟨h, h', h'', h'''⟩ => ⟨h, h', h'', h'''⟩, fun ⟨h, h', h'', h'''⟩ => ⟨h, h', h'', h'''⟩⟩

variable {p a : String}

theorem steps_of_notMem (ha : '/' ∉ a.toList) : steps a = [a] := by
  rw [steps, pieces_of_notMem ha, List.map_singleton, String.ofList_toList]

theorem IsName.isAbsolute (ha : IsName a) : Path.isAbsolute a = false := by
  rw [Path.isAbsolute, decide_eq_false_iff_not]
  exact fun h => ha.slash (List.mem_of_mem_head? h)

theorem join_name (hp : p ≠ "") (hs : endsInSlash p = false) (ha : IsName a) :
    join p a = p ++ "/" ++ a := by
  rw [join, ha.isAbsolute, hs, if_neg Bool.false_ne_true]
  simp [hp]

theorem steps_join_name (hp : p ≠ "") (hs : endsInSlash p = false) (ha : IsName a) :
    steps (join p a) = steps p ++ [a] := by
  rw [join_name hp hs ha, steps_append, steps_of_notMem ha.slash]

theorem names_join_name (hp : p ≠ "") (hs : endsInSlash p = false) (ha : IsName a) :
    names (join p a) = names p ++ [a] := by
  rw [names, steps_join_name hp hs ha, List.filter_append,
    List.filter_cons_of_pos (by simp [ha.ne_empty, ha.ne_dot])]
  rfl

theorem endsInSlash_append (ha : IsName a) (q : String) : endsInSlash (q ++ a) = false := by
  have hne : a.toList ≠ [] := fun h => ha.ne_empty (String.toList_eq_nil_iff.mp h)
  rw [endsInSlash, decide_eq_false_iff_not, String.toList_append,
    List.getLast?_append_of_ne_nil _ hne]
  exact fun h => ha.slash (List.mem_of_getLast? h)

theorem endsInSlash_join (ha : IsName a) : endsInSlash (join p a) = false := by
  rw [join, ha.isAbsolute, if_neg Bool.false_ne_true]
  split_ifs <;> exact endsInSlash_append ha _

theorem join_ne_empty (ha : IsName a) : join p a ≠ "" := by
  have hne : a.toList ≠ [] := fun h => ha.ne_empty (String.toList_eq_nil_iff.mp h)
  rw [join, ha.isAbsolute, if_neg Bool.false_ne_true]
  split_ifs <;> exact fun h => hne (by simp_all [← String.toList_eq_nil_iff])

theorem isBlank_of_isName (ha : IsName a) : isBlank a = false := by
  simp [isBlank, ha.ne_empty, ha.ne_dot]

theorem exists_steps_join (p : String) (ha : IsName a) : ∃ xs, steps (join p a) = xs ++ [a] := by
  by_cases hp : p = ""
  · refine ⟨[], ?_⟩
    rw [hp, join, ha.isAbsolute, if_neg Bool.false_ne_true]
    simpa using steps_of_notMem ha.slash
  · obtain ⟨xs, -, -, -, hx⟩ := steps_join hp ha.isAbsolute
    exact ⟨xs, by rw [hx, steps_of_notMem ha.slash]⟩

/-- Before the last of two names is the path of the first. -/
theorem parent?_join {c : String} (p : String) (hc : IsName c) (ha : IsName a) :
    parent? (join (join p c) a) = some (join p c) := by
  obtain ⟨xs, hx⟩ := exists_steps_join p hc
  have hsteps : steps (join (join p c) a) = xs ++ [c] ++ [a] := by
    rw [steps_join_name (join_ne_empty hc) (endsInSlash_join hc) ha, hx]
  have hrev : (steps (join (join p c) a)).reverse = a :: c :: xs.reverse := by
    rw [hsteps]
    simp
  have hkept : (c :: xs.reverse).reverse = steps (join p c) := by
    rw [hx]
    simp
  rw [parent?, hrev, List.dropWhile_cons_of_neg (by simp [isBlank_of_isName ha])]
  dsimp only
  rw [List.dropWhile_cons_of_neg (by simp [isBlank_of_isName hc]), hkept, if_neg, intercalate_steps]
  rw [hx]
  simp

end Path

namespace Files.FileSystem

variable {fs : FileSystem} {follow follow' : Bool} {d here l : Location} {links : Nat}
  {xs ys : List String} {p a : String} {node : Node} {place : Place}

/-- What can be made: nothing has its name, or not even its directory is there. -/
inductive Missing : Except FaultKind Place → Prop
  | vacant (d : Location) (a : String) : Missing (.ok (.vacant d a))
  | notFound : Missing (.error .notFound)

section

variable {jump jump' : Location → List String → Except FaultKind Place}

/-- Beyond a directory a path goes on from there. -/
theorem walkBy_beyond (links : Nat) (hys : ys ≠ [])
    (hwalk : ∀ here zs, fs.walkBy jump' follow here zs = fs.walk follow links here zs)
    (hj : ∀ here xs, jump here xs = .ok (.found d .directory) →
      ∃ m, jump' here (xs ++ ys) = fs.walk follow m d ys)
    (h : fs.walkBy jump true here xs = .ok (.found d .directory)) :
    ∃ m, fs.walkBy jump' follow here (xs ++ ys) = fs.walk follow m d ys := by
  replace h := goes_of_walkBy h
  induction h with
  | ends hplace =>
    cases hplace
    exact ⟨links, hwalk d ys⟩
  | blank hx _ ih =>
    rw [List.cons_append, walkBy_cons_blank hx]
    exact ih
  | up _ ih =>
    rw [List.cons_append, walkBy_cons_up]
    exact ih
  | vacant _ _ _ hplace => cases hplace
  | directory hx hn _ ih =>
    rw [List.cons_append, walkBy_cons_directory hx hn]
    exact ih
  | file _ _ _ hplace => cases hplace
  | link _ _ _ hplace => cases hplace
  | along hx hn _ h =>
    rw [List.cons_append, walkBy_cons_link hx hn,
      if_neg (fun hlast => hys (List.append_eq_nil_iff.mp hlast.1).2), ← List.append_assoc]
    exact hj _ _ h

/-- A path that goes on by a name has led to a directory. -/
theorem walkBy_before (hys : ∃ y ∈ ys, y ≠ "")
    (hj : ∀ here xs p, jump' here (xs ++ ys) = .ok p →
      ∃ d, jump here xs = .ok (.found d .directory))
    (h : fs.walkBy jump' follow here (xs ++ ys) = .ok place) :
    ∃ d, fs.walkBy jump true here xs = .ok (.found d .directory) := by
  obtain ⟨y, hy, hne⟩ := hys
  have hrest (rest : List String) : rest ++ ys ≠ [] := by
    rintro hnil
    rw [(List.append_eq_nil_iff.mp hnil).2] at hy
    cases hy
  induction xs generalizing here with
  | nil => exact ⟨here, rfl⟩
  | cons x rest ih =>
    rw [List.cons_append] at h
    cases goes_of_walkBy h with
    | blank hx h =>
      rw [walkBy_cons_blank hx]
      exact ih (walkBy_eq_ok_iff.mpr h)
    | up h =>
      rw [walkBy_cons_up]
      exact ih (walkBy_eq_ok_iff.mpr h)
    | vacant _ _ hall _ => exact absurd (hall y (List.mem_append_right rest hy)) hne
    | directory hx hn h =>
      rw [walkBy_cons_directory hx hn]
      exact ih (walkBy_eq_ok_iff.mpr h)
    | file _ _ hlast _ => exact absurd hlast (hrest rest)
    | link _ _ hlast _ => exact absurd hlast.1 (hrest rest)
    | along hx hn _ h =>
      rw [walkBy_cons_link hx hn, if_neg (fun hlast => Bool.noConfusion (hlast.2 : (!true) = true))]
      rw [← List.append_assoc] at h
      exact hj _ _ _ h

/-- Beyond what is missing there is nothing. -/
theorem walkBy_missing (hys : ∃ y ∈ ys, y ≠ "")
    (hj : ∀ here xs, Missing (jump here xs) → jump' here (xs ++ ys) = .error .notFound)
    (h : Missing (fs.walkBy jump follow here xs)) :
    fs.walkBy jump' follow' here (xs ++ ys) = .error .notFound := by
  obtain ⟨y, hy, hne⟩ := hys
  have hys : ys ≠ [] := List.ne_nil_of_mem hy
  induction xs generalizing here with
  | nil => cases h
  | cons x rest ih =>
    rw [List.cons_append]
    rcases step_cases x with hx | rfl | ⟨hblank, hup, hlong⟩ | hx
    · rw [walkBy_cons_blank hx] at h ⊢
      exact ih h
    · rw [walkBy_cons_up] at h ⊢
      exact ih h
    · rw [walkBy_cons_long hblank hup hlong] at h
      cases h
    cases hn : fs.node? (here ++ [x]) with
    | none =>
      have hall : ¬(rest ++ ys).all (· = "") = true := fun hall =>
        hne (of_decide_eq_true (List.all_eq_true.mp hall y (List.mem_append_right rest hy)))
      rw [walkBy_cons_none hx hn, if_neg hall]
    | some node =>
      cases node with
      | file content =>
        rw [walkBy_cons_file hx hn] at h
        split_ifs at h <;> cases h
      | directory =>
        rw [walkBy_cons_directory hx hn] at h ⊢
        exact ih h
      | link target =>
        rw [walkBy_cons_link hx hn] at h
        rw [walkBy_cons_link hx hn, if_neg (fun hlast => hys (List.append_eq_nil_iff.mp hlast.1).2),
          ← List.append_assoc]
        by_cases hlast : rest = [] ∧ !follow
        · rw [if_pos hlast] at h
          cases h
        · rw [if_neg hlast] at h
          exact hj _ _ h

end

theorem walk_beyond (follow : Bool) (hys : ys ≠ [])
    (h : fs.walk true links here xs = .ok (.found d .directory)) :
    ∃ m, fs.walk follow links here (xs ++ ys) = fs.walk follow m d ys := by
  induction links generalizing here xs with
  | zero => exact walkBy_beyond 0 hys (fun _ _ => rfl) (by intro _ _ hj; cases hj) h
  | succ links ih => exact walkBy_beyond (links + 1) hys (fun _ _ => rfl) (fun _ _ => ih) h

theorem walk_before (hys : ∃ y ∈ ys, y ≠ "")
    (h : fs.walk follow links here (xs ++ ys) = .ok place) :
    ∃ d, fs.walk true links here xs = .ok (.found d .directory) := by
  induction links generalizing here xs place with
  | zero => exact walkBy_before hys (by intro _ _ _ hj; cases hj) h
  | succ links ih => exact walkBy_before hys (fun _ _ _ => ih) h

theorem walk_missing (follow' : Bool) (hys : ∃ y ∈ ys, y ≠ "")
    (h : Missing (fs.walk follow links here xs)) :
    fs.walk follow' links here (xs ++ ys) = .error .notFound := by
  induction links generalizing here xs with
  | zero => exact walkBy_missing hys (by intro _ _ hj; cases hj) h
  | succ links ih => exact walkBy_missing hys (fun _ _ => ih) h

/-- A directory is not missing, even if a link leads to it that is not followed. -/
theorem not_missing_of_directory (hd : fs.walk true links here xs = .ok (.found d .directory)) :
    ¬Missing (fs.walk follow links here xs) := by
  intro h
  -- a dot after the path leads nowhere else, but makes it go through the directory
  obtain ⟨m, hm⟩ := walk_beyond true (List.cons_ne_nil "." []) hd
  rw [walk_missing true ⟨".", List.mem_singleton_self ".", by decide⟩ h] at hm
  cases m <;> cases hm

/-! One name -/

theorem walk_succ_eq (fs : FileSystem) (follow : Bool) (links : Nat) :
    ∃ jump, fs.walk follow links = fs.walkBy jump follow := by
  cases links <;> exact ⟨_, rfl⟩

theorem isStep_of_isName (ha : Path.IsName a) (hshort : byteLength a ≤ nameLimit) : IsStep a :=
  ⟨not_or.mpr ⟨ha.ne_empty, ha.ne_dot⟩, ha.ne_up, not_lt.mpr hshort⟩

theorem walk_name_of_none (ha : Path.IsName a) (hshort : byteLength a ≤ nameLimit)
    (hn : fs.node? (d ++ [a]) = none) : fs.walk follow links d [a] = .ok (.vacant d a) := by
  obtain ⟨jump, hw⟩ := walk_succ_eq fs follow links
  rw [hw, walkBy_cons_none (isStep_of_isName ha hshort) hn]
  rfl

theorem walk_name_of_node (ha : Path.IsName a) (hshort : byteLength a ≤ nameLimit)
    (hn : fs.node? (d ++ [a]) = some node)
    (hlink : ∀ target, node = .link target → follow = false) :
    fs.walk follow links d [a] = .ok (.found (d ++ [a]) node) := by
  have ha := isStep_of_isName ha hshort
  obtain ⟨jump, hw⟩ := walk_succ_eq fs follow links
  rw [hw]
  cases node with
  | file content =>
    rw [walkBy_cons_file ha hn]
    rfl
  | directory =>
    rw [walkBy_cons_directory ha hn]
    rfl
  | link target =>
    rw [walkBy_cons_link ha hn, hlink target rfl]
    rfl

theorem byteLength_le_of_walk (ha : Path.IsName a) (h : fs.walk follow links d [a] = .ok place) :
    byteLength a ≤ nameLimit := by
  obtain ⟨jump, hw⟩ := walk_succ_eq fs follow links
  by_contra hlong
  rw [hw, walkBy_cons_long (not_or.mpr ⟨ha.ne_empty, ha.ne_dot⟩) ha.ne_up (not_le.mp hlong)] at h
  cases h

/-- What is found by a name is in the directory, itself or as a link to it. -/
theorem node?_of_walk_found (ha : Path.IsName a)
    (h : fs.walk follow links d [a] = .ok (.found l node)) : fs.node? (d ++ [a]) ≠ none := by
  intro hn
  rw [walk_name_of_none ha (byteLength_le_of_walk ha h) hn] at h
  cases h

/-- Without a link it is found where it stands. -/
theorem eq_of_walk_found (ha : Path.IsName a)
    (hlink : ∀ target, fs.node? (d ++ [a]) ≠ some (.link target))
    (h : fs.walk follow links d [a] = .ok (.found l node)) :
    l = d ++ [a] ∧ fs.node? (d ++ [a]) = some node := by
  obtain ⟨node', hn⟩ := Option.ne_none_iff_exists'.mp (node?_of_walk_found ha h)
  rw [walk_name_of_node ha (byteLength_le_of_walk ha h) hn
    (fun target he => absurd (he ▸ hn) (hlink target))] at h
  cases h
  exact ⟨rfl, hn⟩

theorem walk_cons_of_directory (ha : Path.IsName a) (hshort : byteLength a ≤ nameLimit)
    (hn : fs.node? (d ++ [a]) = some .directory) (ys : List String) :
    fs.walk follow links d (a :: ys) = fs.walk follow links (d ++ [a]) ys := by
  obtain ⟨jump, hw⟩ := walk_succ_eq fs follow links
  rw [hw, walkBy_cons_directory (isStep_of_isName ha hshort) hn]

theorem walk_cons_of_none (ha : Path.IsName a) (hshort : byteLength a ≤ nameLimit)
    (hn : fs.node? (d ++ [a]) = none) (hys : ∃ y ∈ ys, y ≠ "") :
    fs.walk follow links d (a :: ys) = .error .notFound := by
  obtain ⟨y, hy, hne⟩ := hys
  obtain ⟨jump, hw⟩ := walk_succ_eq fs follow links
  rw [hw, walkBy_cons_none (isStep_of_isName ha hshort) hn]
  exact if_neg fun hall => hne (of_decide_eq_true (List.all_eq_true.mp hall y hy))

/-! Paths that go on by a name -/

/-- A path that the system takes. -/
structure Usable (p : String) : Prop where
  nul : '\x00' ∉ p.toList
  ne_empty : p ≠ ""
  short : byteLength p < pathLimit

theorem Usable.locate_eq (h : Usable p) : fs.locate follow p =
    (fs.walk follow linkLimit (if Path.isAbsolute p then [] else fs.home) (Path.steps p)).mapError
      .ofKind := by
  rw [locate, if_neg (by simpa using h.nul), if_neg h.ne_empty, if_neg (by have := h.short; omega)]

theorem usable_of_locate (h : fs.locate follow p = .ok place) : Usable p := by
  unfold locate at h
  split at h
  · cases h
  next hnul =>
  split at h
  · cases h
  next hne =>
  split at h
  · cases h
  next hlong => exact ⟨by simpa using hnul, hne, by omega⟩

/-- What is missing has a path that the system takes. -/
theorem usable_of_notFound {f : Fault} (hp : p ≠ "") (h : fs.locate follow p = .error f)
    (hf : f.kind = .notFound) : Usable p := by
  rw [locate, if_neg hp] at h
  split at h
  · cases h
    cases hf
  next hnul =>
  split at h
  · cases h
    cases hf
  next hlong => exact ⟨by simpa using hnul, hp, by omega⟩

theorem byteLength_append (p q : String) : byteLength (p ++ q) = byteLength p + byteLength q := by
  rw [byteLength, String.toList_append, RegexHost.Utf8.encode_append, List.length_append,
    byteLength, byteLength]

theorem Usable.of_join (hp : p ≠ "") (hs : Path.endsInSlash p = false) (ha : Path.IsName a)
    (h : Usable (Path.join p a)) : Usable p := by
  rw [Path.join_name hp hs ha] at h
  refine ⟨?_, hp, ?_⟩
  · have hnul := h.nul
    simp only [String.toList_append, List.mem_append, not_or] at hnul
    exact hnul.1.1
  · have hshort := h.short
    rw [byteLength_append, byteLength_append] at hshort
    omega

/-- What is joined to a path that the system takes it takes too, unless it gets too long. -/
theorem nul_join (hp : '\x00' ∉ p.toList) (ha : '\x00' ∉ a.toList) :
    '\x00' ∉ (Path.join p a).toList := by
  unfold Path.join
  split_ifs
  · exact ha
  all_goals simp [String.toList_append, hp, ha]

theorem locate_of_long (hnul : '\x00' ∉ p.toList) (hp : p ≠ "") (hlong : pathLimit ≤ byteLength p) :
    fs.locate follow p = .error (.ofKind .invalidFilename) := by
  rw [locate, if_neg (by simpa using hnul), if_neg hp, if_pos hlong]

theorem directory?_eq_some_iff :
    fs.directory? p = some d ↔ fs.locate true p = .ok (.found d .directory) := by
  unfold directory?
  split <;> simp_all

theorem file?_eq_some_iff :
    fs.file? p = some l ↔ ∃ content, fs.locate true p = .ok (.found l (.file content)) := by
  unfold file?
  split <;> simp_all

theorem Usable.locate_join_join {b : String} (hp : p ≠ "") (hs : Path.endsInSlash p = false)
    (ha : Path.IsName a) (hb : Path.IsName b) (h : Usable (Path.join (Path.join p a) b)) :
    fs.locate follow (Path.join (Path.join p a) b) =
      (fs.walk follow linkLimit (if Path.isAbsolute p then [] else fs.home)
        (Path.steps p ++ [a, b])).mapError .ofKind := by
  have hsteps : Path.steps (Path.join (Path.join p a) b) = Path.steps p ++ [a, b] := by
    rw [Path.steps_join_name (Path.join_ne_empty ha) (Path.endsInSlash_join ha) hb,
      Path.steps_join_name hp hs ha, List.append_assoc]
    rfl
  rw [h.locate_eq, Path.isAbsolute_join (Path.join_ne_empty ha) hb.isAbsolute,
    Path.isAbsolute_join hp ha.isAbsolute, hsteps]

/-- A path goes on by a name in the directory that it leads to. -/
theorem locate_join_of_directory (follow : Bool) (hs : Path.endsInSlash p = false)
    (ha : Path.IsName a) (hd : fs.directory? p = some d) (hu : Usable (Path.join p a)) :
    ∃ m, fs.locate follow (Path.join p a) = (fs.walk follow m d [a]).mapError .ofKind := by
  rw [directory?_eq_some_iff] at hd
  have hp := (usable_of_locate hd).ne_empty
  obtain ⟨m, hm⟩ := walk_beyond follow (List.cons_ne_nil a []) (walk_of_locate hd)
  exact ⟨m, by rw [hu.locate_eq, Path.isAbsolute_join hp ha.isAbsolute,
    Path.steps_join_name hp hs ha, hm]⟩

/-- Before its last name such a path has led to a directory. -/
theorem directory_of_locate_join (hp : p ≠ "") (hs : Path.endsInSlash p = false)
    (ha : Path.IsName a) (h : fs.locate follow (Path.join p a) = .ok place) :
    ∃ d m, fs.directory? p = some d ∧ fs.walk follow m d [a] = .ok place := by
  have hu := usable_of_locate h
  have hw := walk_of_locate h
  rw [Path.isAbsolute_join hp ha.isAbsolute, Path.steps_join_name hp hs ha] at hw
  obtain ⟨d, hd⟩ := walk_before ⟨a, List.mem_singleton_self a, ha.ne_empty⟩ hw
  obtain ⟨m, hm⟩ := walk_beyond follow (List.cons_ne_nil a []) hd
  refine ⟨d, m, ?_, hm.symm.trans hw⟩
  rw [directory?_eq_some_iff, (hu.of_join hp hs ha).locate_eq, hd]
  rfl

end Files.FileSystem

end RegexHost

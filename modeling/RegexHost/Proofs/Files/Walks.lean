import RegexHost.Files.FileSystem
import Mathlib.Tactic

/-! Walks along a path, one step at a time: what each step leads to, and in how many ways a walk can
end well. -/
namespace RegexHost.Files.FileSystem

/-- A step that leads on by a name. -/
structure IsStep (x : String) : Prop where
  notBlank : ¬(x = "" ∨ x = ".")
  notUp : x ≠ ".."
  short : ¬nameLimit < byteLength x

theorem step_cases (x : String) :
    (x = "" ∨ x = ".") ∨ x = ".." ∨ (¬(x = "" ∨ x = ".") ∧ x ≠ ".." ∧ nameLimit < byteLength x) ∨
      IsStep x := by
  by_cases hblank : x = "" ∨ x = "."
  · exact .inl hblank
  by_cases hup : x = ".."
  · exact .inr (.inl hup)
  by_cases hlong : nameLimit < byteLength x
  · exact .inr (.inr (.inl ⟨hblank, hup, hlong⟩))
  · exact .inr (.inr (.inr ⟨hblank, hup, hlong⟩))

variable {fs : FileSystem} {jump : Location → List String → Except FaultKind Place} {follow : Bool}
  {here : Location} {x target : String} {xs rest : List String} {content : Bytes} {place : Place}

theorem walkBy_cons_blank (hx : x = "" ∨ x = ".") :
    fs.walkBy jump follow here (x :: rest) = fs.walkBy jump follow here rest := by
  rw [walkBy, if_pos hx]

theorem walkBy_cons_up :
    fs.walkBy jump follow here (".." :: rest) = fs.walkBy jump follow here.dropLast rest := by
  rw [walkBy, if_neg (by decide), if_pos rfl]

theorem walkBy_cons_long (hblank : ¬(x = "" ∨ x = ".")) (hup : x ≠ "..")
    (hlong : nameLimit < byteLength x) :
    fs.walkBy jump follow here (x :: rest) = .error .invalidFilename := by
  rw [walkBy, if_neg hblank, if_neg hup, if_pos hlong]

theorem walkBy_cons_none (hx : IsStep x) (hn : fs.node? (here ++ [x]) = none) :
    fs.walkBy jump follow here (x :: rest) =
      if rest.all (· = "") then .ok (.vacant here x) else .error .notFound := by
  rw [walkBy, if_neg hx.notBlank, if_neg hx.notUp, if_neg hx.short, hn]

theorem walkBy_cons_directory (hx : IsStep x) (hn : fs.node? (here ++ [x]) = some .directory) :
    fs.walkBy jump follow here (x :: rest) = fs.walkBy jump follow (here ++ [x]) rest := by
  rw [walkBy, if_neg hx.notBlank, if_neg hx.notUp, if_neg hx.short, hn]

theorem walkBy_cons_file (hx : IsStep x) (hn : fs.node? (here ++ [x]) = some (.file content)) :
    fs.walkBy jump follow here (x :: rest) =
      if rest = [] then .ok (.found (here ++ [x]) (.file content)) else .error .notADirectory := by
  rw [walkBy, if_neg hx.notBlank, if_neg hx.notUp, if_neg hx.short, hn]

theorem walkBy_cons_link (hx : IsStep x) (hn : fs.node? (here ++ [x]) = some (.link target)) :
    fs.walkBy jump follow here (x :: rest) =
      if rest = [] ∧ !follow then .ok (.found (here ++ [x]) (.link target))
      else jump (if Path.isAbsolute target then [] else here) (Path.steps target ++ rest) := by
  rw [walkBy, if_neg hx.notBlank, if_neg hx.notUp, if_neg hx.short, hn]

/-- Steps that lead to a place. -/
inductive Goes (fs : FileSystem) (jump : Location → List String → Except FaultKind Place)
    (follow : Bool) (place : Place) : Location → List String → Prop
  | ends {here : Location} (hplace : place = .found here .directory) :
      Goes fs jump follow place here []
  | blank {here : Location} {x : String} {rest : List String} (hx : x = "" ∨ x = ".")
      (h : Goes fs jump follow place here rest) : Goes fs jump follow place here (x :: rest)
  | up {here : Location} {rest : List String} (h : Goes fs jump follow place here.dropLast rest) :
      Goes fs jump follow place here (".." :: rest)
  | vacant {here : Location} {x : String} {rest : List String} (hx : IsStep x)
      (hn : fs.node? (here ++ [x]) = none) (hrest : ∀ s ∈ rest, s = "")
      (hplace : place = .vacant here x) : Goes fs jump follow place here (x :: rest)
  | directory {here : Location} {x : String} {rest : List String} (hx : IsStep x)
      (hn : fs.node? (here ++ [x]) = some .directory)
      (h : Goes fs jump follow place (here ++ [x]) rest) :
      Goes fs jump follow place here (x :: rest)
  | file {here : Location} {x : String} {rest : List String} {content : Bytes} (hx : IsStep x)
      (hn : fs.node? (here ++ [x]) = some (.file content)) (hrest : rest = [])
      (hplace : place = .found (here ++ [x]) (.file content)) :
      Goes fs jump follow place here (x :: rest)
  | link {here : Location} {x target : String} {rest : List String} (hx : IsStep x)
      (hn : fs.node? (here ++ [x]) = some (.link target)) (hlast : rest = [] ∧ !follow)
      (hplace : place = .found (here ++ [x]) (.link target)) :
      Goes fs jump follow place here (x :: rest)
  | along {here : Location} {x target : String} {rest : List String} (hx : IsStep x)
      (hn : fs.node? (here ++ [x]) = some (.link target)) (hon : ¬(rest = [] ∧ !follow))
      (h : jump (if Path.isAbsolute target then [] else here) (Path.steps target ++ rest) =
        .ok place) :
      Goes fs jump follow place here (x :: rest)

theorem goes_of_walkBy (h : fs.walkBy jump follow here xs = .ok place) :
    fs.Goes jump follow place here xs := by
  induction xs generalizing here with
  | nil =>
    cases h
    exact .ends rfl
  | cons x rest ih =>
    rcases step_cases x with hx | rfl | ⟨hblank, hup, hlong⟩ | hx
    · rw [walkBy_cons_blank hx] at h
      exact .blank hx (ih h)
    · rw [walkBy_cons_up] at h
      exact .up (ih h)
    · rw [walkBy_cons_long hblank hup hlong] at h
      cases h
    · cases hn : fs.node? (here ++ [x]) with
      | none =>
        rw [walkBy_cons_none hx hn] at h
        split_ifs at h with hall
        cases h
        exact .vacant hx hn (fun s hs => of_decide_eq_true (List.all_eq_true.mp hall s hs)) rfl
      | some node =>
        cases node with
        | file content =>
          rw [walkBy_cons_file hx hn] at h
          split_ifs at h with hrest
          cases h
          exact .file hx hn hrest rfl
        | directory =>
          rw [walkBy_cons_directory hx hn] at h
          exact .directory hx hn (ih h)
        | link target =>
          rw [walkBy_cons_link hx hn] at h
          by_cases hlast : rest = [] ∧ !follow
          · rw [if_pos hlast] at h
            cases h
            exact .link hx hn hlast rfl
          · rw [if_neg hlast] at h
            exact .along hx hn hlast h

theorem walkBy_eq_ok_iff :
    fs.walkBy jump follow here xs = .ok place ↔ fs.Goes jump follow place here xs := by
  refine ⟨goes_of_walkBy, fun h => ?_⟩
  induction h with
  | ends hplace => rw [hplace, walkBy]
  | blank hx _ ih => rw [walkBy_cons_blank hx, ih]
  | up _ ih => rw [walkBy_cons_up, ih]
  | vacant hx hn hrest hplace =>
    rw [walkBy_cons_none hx hn,
      if_pos (List.all_eq_true.mpr fun s hs => decide_eq_true (hrest s hs)), hplace]
  | directory hx hn _ ih => rw [walkBy_cons_directory hx hn, ih]
  | file hx hn hrest hplace => rw [walkBy_cons_file hx hn, if_pos hrest, hplace]
  | link hx hn hlast hplace => rw [walkBy_cons_link hx hn, if_pos hlast, hplace]
  | along hx hn hon h => rw [walkBy_cons_link hx hn, if_neg hon, h]

end RegexHost.Files.FileSystem

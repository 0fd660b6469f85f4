import RegexHost.Proofs.Build.Stage

/-! The directory that libraries are staged into: a shelf with one directory for each platform. -/
namespace RegexHost.Build

open Files FileSystem

/-- What was staged, the last one first. -/
abbrev Stagings := List (Platform × Bytes)

def library (p : Platform) : String :=
  p.libraryFile Native.libraryName

/-- Where the library of a platform is staged. -/
def libraryPath (native : String) (p : Platform) : String :=
  Path.join (Path.join native p.name) (library p)

/-- A directory with one directory for each platform staged, and in it the library that was staged
last. -/
structure Shelf (fs : FileSystem) (d : Location) (log : Stagings) : Prop where
  directories : ∀ a, fs.node? (d ++ [a]) = if a ∈ log.map (·.1.name) then some .directory else none
  libraries : ∀ p, fs.node? (d ++ [p.name] ++ [library p]) = (log.lookup p).map .file
  others : ∀ a b, fs.node? (d ++ [a] ++ [b]) ≠ none → ∃ p : Platform, a = p.name ∧ b = library p

variable {fs : FileSystem} {d l : Location} {log : Stagings} {p : Platform} {native : String}

theorem isName_library (p : Platform) : Path.IsName (library p) :=
  p.isName_libraryFile

theorem usable_platform (h : Usable (libraryPath native p)) : Usable (Path.join native p.name) :=
  h.of_join (Path.join_ne_empty p.isName_name) (Path.endsInSlash_join p.isName_name)
    (isName_library p)

theorem locate_libraryPath (hne : native ≠ "") (hs : Path.endsInSlash native = false)
    (h : Usable (libraryPath native p)) :
    fs.locate true (libraryPath native p) =
      (fs.walk true linkLimit (if Path.isAbsolute native then [] else fs.home)
        (Path.steps native ++ [p.name, library p])).mapError .ofKind :=
  h.locate_join_join hne hs p.isName_name (isName_library p)

theorem shelf_of_empty (ht : fs.Tree) (hempty : fs.children d = []) : Shelf fs d [] := by
  have hempty (a : String) : fs.node? (d ++ [a]) = none := by
    by_contra hne
    have hmem : a ∈ fs.children d := mem_children_iff.mpr hne
    rw [hempty] at hmem
    cases hmem
  have hbelow (a b : String) : fs.node? (d ++ [a] ++ [b]) = none :=
    ht.none_below (hempty a) (List.prefix_append _ _)
  exact ⟨hempty, fun p => hbelow _ _, fun a b h => absurd (hbelow a b) h⟩

/-- The files when the directory of a platform is there. -/
def withDirectory (fs : FileSystem) (d : Location) (p : Platform) : FileSystem :=
  if fs.node? (d ++ [p.name]) = none then fs.put (d ++ [p.name]) .directory else fs

namespace Shelf

theorem directory_of_ne_none (h : Shelf fs d log) {a : String} (hn : fs.node? (d ++ [a]) ≠ none) :
    fs.node? (d ++ [a]) = some .directory := by
  rw [h.directories] at hn ⊢
  split_ifs at hn ⊢
  · rfl
  · exact absurd rfl hn

theorem lookup_eq_none (h : Shelf fs d log) (hn : fs.node? (d ++ [p.name]) = none) :
    log.lookup p = none := by
  rw [h.directories] at hn
  split_ifs at hn with hmem
  rw [List.lookup_eq_none_iff]
  intro x hx
  rw [bne_iff_ne]
  rintro rfl
  exact hmem (List.mem_map_of_mem hx)

theorem node?_withDirectory (h : Shelf fs d log) (p : Platform) (l : Location) :
    (withDirectory fs d p).node? l = if l = d ++ [p.name] then some .directory else fs.node? l := by
  unfold withDirectory
  by_cases hl : l = d ++ [p.name]
  · rw [if_pos hl, hl]
    split_ifs with hn
    · exact fs.node?_put_self (List.append_ne_nil_of_right_ne_nil d (List.cons_ne_nil _ [])) _
    · exact h.directory_of_ne_none hn
  · rw [if_neg hl]
    split_ifs
    · exact fs.node?_put_of_ne hl _
    · rfl

theorem staged (h : Shelf fs d log) (p : Platform) (content : Bytes) :
    Shelf ((withDirectory fs d p).put (d ++ [p.name] ++ [library p]) (.file content)) d
      ((p, content) :: log) := by
  have hne : d ++ [p.name] ++ [library p] ≠ [] :=
    List.append_ne_nil_of_right_ne_nil _ (List.cons_ne_nil _ [])
  constructor
  · intro a
    rw [node?_put_of_ne _ (by simp), h.node?_withDirectory, h.directories]
    by_cases ha : a = p.name
    · simp [ha]
    · rw [if_neg (by simpa using ha)]
      exact if_congr (by simp [ha]) rfl rfl
  · intro q
    by_cases hq : q = p
    · rw [hq, node?_put_self _ hne, List.lookup_cons_self, Option.map_some]
    · have hname : q.name ≠ p.name := fun he => hq (Platform.name_injective he)
      rw [node?_put_of_ne _ (by simp [hname]), h.node?_withDirectory, if_neg (by simp), h.libraries,
        List.lookup_cons, beq_false_of_ne hq]
  · intro a b hab
    by_cases hl : d ++ [a] ++ [b] = d ++ [p.name] ++ [library p]
    · exact ⟨p, by simpa using hl⟩
    · rw [node?_put_of_ne _ hl, h.node?_withDirectory, if_neg (by simp)] at hab
      exact h.others a b hab

end Shelf

/-! Paths to what stands on a shelf -/

/-- A library that was not staged is missing, itself or with its directory. -/
theorem Shelf.read_library (h : Shelf fs d log) (hs : Path.endsInSlash native = false)
    (hd : fs.directory? native = some d) (hu : Usable (libraryPath native p)) :
    fs.read (libraryPath native p) = (log.lookup p).elim (.error (.ofKind .notFound)) .ok := by
  have hname := p.isName_name
  have hlib := isName_library p
  have hlibraries := h.libraries p
  rw [directory?_eq_some_iff] at hd
  obtain ⟨m, hm⟩ := walk_beyond true (List.cons_ne_nil p.name [library p]) (walk_of_locate hd)
  rw [FileSystem.read, locate_libraryPath (usable_of_locate hd).ne_empty hs hu, hm]
  by_cases hn : fs.node? (d ++ [p.name]) = none
  · rw [walk_cons_of_none hname p.byteLength_name hn ⟨library p, List.mem_singleton_self _,
      hlib.ne_empty⟩, h.lookup_eq_none hn]
    rfl
  · rw [walk_cons_of_directory hname p.byteLength_name (h.directory_of_ne_none hn)]
    cases hlog : log.lookup p with
    | none =>
      rw [hlog] at hlibraries
      rw [walk_name_of_none hlib p.byteLength_libraryFile hlibraries]
      rfl
    | some content =>
      rw [hlog] at hlibraries
      rw [walk_name_of_node hlib p.byteLength_libraryFile hlibraries (by simp)]
      rfl

theorem Shelf.directory?_withDirectory (h : Shelf fs d log) (p : Platform)
    (hd : fs.directory? native = some d) : (withDirectory fs d p).directory? native = some d := by
  have hkeeps : fs.Keeps (withDirectory fs d p) := by
    intro l hl
    rw [h.node?_withDirectory]
    split_ifs with hname
    · rw [hname] at hl ⊢
      exact (h.directory_of_ne_none hl).symm
    · rfl
  have hhome : (withDirectory fs d p).home = fs.home := by
    unfold withDirectory
    split_ifs <;> rfl
  rw [directory?_eq_some_iff] at hd ⊢
  exact locate_of_keeps hkeeps hhome hd

theorem Shelf.directory?_platform (h : Shelf fs d log) (hs : Path.endsInSlash native = false)
    (hd : fs.directory? native = some d) (hu : Usable (Path.join native p.name)) :
    (withDirectory fs d p).directory? (Path.join native p.name) = some (d ++ [p.name]) := by
  have hnode : (withDirectory fs d p).node? (d ++ [p.name]) = some .directory := by
    rw [h.node?_withDirectory, if_pos rfl]
  obtain ⟨m, hm⟩ :=
    locate_join_of_directory true hs p.isName_name (h.directory?_withDirectory p hd) hu
  rw [directory?_eq_some_iff, hm, walk_name_of_node p.isName_name p.byteLength_name hnode nofun]
  rfl

/-- A library is written to its place on the shelf. -/
theorem Shelf.fileToWrite (h : Shelf fs d log) (hs : Path.endsInSlash native = false)
    (hd : fs.directory? native = some d)
    (hwrite : (withDirectory fs d p).fileToWrite (libraryPath native p) = .ok l) :
    l = d ++ [p.name] ++ [library p] := by
  have hname := p.isName_name
  have hlink (target : String) : (withDirectory fs d p).node? (d ++ [p.name] ++ [library p]) ≠
      some (.link target) := by
    rw [h.node?_withDirectory, if_neg (by simp), h.libraries]
    cases log.lookup p <;> nofun
  have hplatform := h.directory?_platform hs hd (usable_platform (usable_of_fileToWrite hwrite))
  exact fileToWrite_join (Path.join_ne_empty hname) (Path.endsInSlash_join hname) (isName_library p)
    hlink hplatform hwrite

end RegexHost.Build

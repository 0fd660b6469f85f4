import RegexHost.Proofs.Files.Descent

/-! The entries of directories. They are the names under which something stands, in whatever
order. -/
namespace RegexHost.Files.FileSystem

variable {fs fs' : FileSystem} {d l : Location} {a : String}

/-- Each place has one node, under names that a path can give. -/
structure WellNamed (fs : FileSystem) : Prop where
  nodup : (fs.nodes.map (·.1)).Nodup
  names : ∀ n ∈ fs.nodes, ∀ s ∈ n.1, Path.IsName s

theorem dropLast_getLast?_eq_iff {m : Location} :
    m.dropLast = d ∧ m.getLast? = some a ↔ m = d ++ [a] := by
  constructor
  · rintro ⟨rfl, hlast⟩
    exact (List.dropLast_append_getLast? a hlast).symm
  · rintro rfl
    simp

theorem mem_children_iff_mem : a ∈ fs.children d ↔ d ++ [a] ∈ fs.nodes.map (·.1) := by
  rw [children, List.mem_filterMap, List.mem_map]
  refine exists_congr fun n => and_congr_right fun _ => ?_
  rw [← dropLast_getLast?_eq_iff]
  split_ifs with hd
  · rw [and_iff_right hd]
  · exact ⟨nofun, fun h => absurd h.1 hd⟩

theorem mem_children_iff : a ∈ fs.children d ↔ fs.node? (d ++ [a]) ≠ none := by
  rw [mem_children_iff_mem,
    node?_eq_lookup (List.append_ne_nil_of_right_ne_nil d (List.cons_ne_nil a [])),
    ← Option.isSome_iff_ne_none, List.lookup_isSome_iff, List.mem_map]
  exact exists_congr fun n => and_congr_right fun _ => by rw [beq_iff_eq, eq_comm]

theorem WellNamed.isName (hfs : fs.WellNamed) (ha : a ∈ fs.children d) : Path.IsName a := by
  obtain ⟨n, hn, hna⟩ := List.mem_map.mp (mem_children_iff_mem.mp ha)
  exact hfs.names n hn a (by rw [hna]; exact List.mem_append_right d (List.mem_singleton_self a))

/-- No directory has two entries of one name. -/
theorem WellNamed.nodup_children (hfs : fs.WellNamed) (d : Location) : (fs.children d).Nodup := by
  have hmap : fs.children d =
      (fs.nodes.map (·.1)).filterMap fun m => if m.dropLast = d then m.getLast? else none := by
    rw [List.filterMap_map]
    rfl
  rw [hmap]
  refine hfs.nodup.filterMap fun m m' b hm hm' => ?_
  have heq {m : Location} (hm : b ∈ if m.dropLast = d then m.getLast? else none) :
      m = d ++ [b] := by
    rw [← dropLast_getLast?_eq_iff]
    split_ifs at hm with hd
    · exact ⟨hd, hm⟩
    · cases hm
  rw [heq hm, heq hm']

/-! The same nodes in another order -/

theorem node?_of_perm (hfs : fs.WellNamed) (h : fs'.nodes.Perm fs.nodes) (l : Location) :
    fs'.node? l = fs.node? l := by
  have hnodup : (fs'.nodes.map (·.1)).Nodup := (h.map _).nodup_iff.mpr hfs.nodup
  by_cases hl : l = []
  · rw [hl, node?_nil, node?_nil]
  · rw [node?_eq_lookup hl, node?_eq_lookup hl]
    refine Option.ext fun node => ?_
    rw [lookup_eq_some_iff_mem hnodup, lookup_eq_some_iff_mem hfs.nodup, h.mem_iff]

theorem walkBy_congr (h : ∀ l, fs'.node? l = fs.node? l)
    (jump : Location → List String → Except FaultKind Place)
    (follow : Bool) : fs'.walkBy jump follow = fs.walkBy jump follow := by
  funext here xs
  induction xs generalizing here with
  | nil => rfl
  | cons x rest ih => simp only [walkBy, h, ih]

theorem walk_congr (h : ∀ l, fs'.node? l = fs.node? l) (follow : Bool) (links : Nat) :
    fs'.walk follow links = fs.walk follow links := by
  induction links with
  | zero => exact walkBy_congr h _ follow
  | succ links ih => rw [walk, walk, ih, walkBy_congr h]

/-- Where a path leads depends on what stands where, and where the process is. -/
theorem locate_congr (h : ∀ l, fs'.node? l = fs.node? l) (hhome : fs'.home = fs.home)
    (follow : Bool) (p : String) : fs'.locate follow p = fs.locate follow p := by
  rw [locate, locate, walk_congr h, hhome]

theorem children_perm (h : fs'.nodes.Perm fs.nodes) (d : Location) :
    (fs'.children d).Perm (fs.children d) :=
  h.filterMap _

end RegexHost.Files.FileSystem

import Mathlib.Data.List.Basic

/-! Lists of pairs as tables. -/
namespace RegexHost

/-- What is filtered by its keys is found under the keys that are left. -/
theorem lookup_filter {κ α : Type} [BEq κ] [LawfulBEq κ] (p : κ → Bool) (l : List (κ × α)) (a : κ) :
    (l.filter fun x => p x.1).lookup a = if p a then l.lookup a else none := by
  induction l with
  | nil => simp
  | cons x l ih =>
    obtain ⟨b, y⟩ := x
    by_cases hab : a = b
    · subst hab
      cases hp : p a with
      | true =>
        rw [List.filter_cons_of_pos (by exact hp), List.lookup_cons_self, if_pos rfl,
          List.lookup_cons_self]
      | false =>
        rw [List.filter_cons_of_neg (by simp [hp]), ih, hp, if_neg Bool.false_ne_true,
          if_neg Bool.false_ne_true]
    · rw [List.lookup_cons, beq_false_of_ne hab]
      cases hp : p b with
      | true =>
        rw [List.filter_cons_of_pos (by exact hp), List.lookup_cons, beq_false_of_ne hab]
        exact ih
      | false =>
        rw [List.filter_cons_of_neg (by simp [hp])]
        exact ih

/-- In a table that has each key once a pair is found under its key. -/
theorem lookup_eq_some_iff_mem {κ α : Type} [BEq κ] [LawfulBEq κ] {l : List (κ × α)}
    (h : (l.map (·.1)).Nodup) {a : κ} {x : α} : l.lookup a = some x ↔ (a, x) ∈ l := by
  induction l with
  | nil => simp
  | cons p l ih =>
    obtain ⟨b, y⟩ := p
    rw [List.map_cons, List.nodup_cons] at h
    by_cases hab : a = b
    · subst hab
      have hl : (a, x) ∉ l := fun hx => h.1 (List.mem_map.mpr ⟨(a, x), hx, rfl⟩)
      rw [List.lookup_cons_self, List.mem_cons, or_iff_left hl, Prod.mk.injEq, Option.some.injEq]
      exact ⟨fun hy => ⟨rfl, hy.symm⟩, fun hy => hy.2.symm⟩
    · rw [List.lookup_cons, beq_false_of_ne hab, List.mem_cons, Prod.mk.injEq,
        or_iff_right fun hx => hab hx.1]
      exact ih h.2

end RegexHost

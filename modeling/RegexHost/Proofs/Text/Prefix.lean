import RegexHost.Proofs.Text.Rounding

/-! A position in code units is measured in bytes: as long as what the units up to the next place
between two characters are written as. -/
namespace RegexHost

namespace UnitText

/-- The units up to a place are read as the text before it. -/
theorem Place.decode_take {t : UnitText} {i b : Nat} (h : t.Place i b) :
    Utf16.decode (t.units.take i) <+: Utf16.decode t.units ∧
      (Utf8.encode (Utf16.decode (t.units.take i))).length = b := by
  obtain ⟨l, r, htext, rfl, rfl⟩ := h
  have hdecode : Utf16.decode t.units = l ++ r := t.toList_text.symm.trans htext
  obtain ⟨htake, -, -⟩ := Utf16.decode_split hdecode
  rw [htake, hdecode]
  exact ⟨List.prefix_append l r, rfl⟩

variable (t : UnitText)

/-- From any position on there is a next place, and both count the same bytes. -/
theorem exists_isLeast_place (n : Nat) :
    ∃ m, IsLeast {i | Utf16.IsBoundary t.units i ∧ min n t.length ≤ i} m ∧
      t.Place m (t.byteOffset n) := by
  have hn := Nat.min_le_right n t.length
  obtain ⟨m, -, hplace⟩ := Place.exists_byteOffset t hn
  have hleast := t.isLeast_unitOffset_byteOffset hn
  rw [hplace.unitOffset_eq] at hleast
  have hsame : t.byteOffset (min n t.length) = t.byteOffset n := byteOffset_min t.units n
  rw [hsame] at hplace
  exact ⟨m, hleast, hplace⟩

theorem byteOffset_monotone : Monotone t.byteOffset := by
  intro i j hij
  obtain ⟨k, hk, hplace⟩ := t.exists_isLeast_place i
  obtain ⟨m, hm, hplace'⟩ := t.exists_isLeast_place j
  have hkm : k ≤ m := hk.2 ⟨hm.1.1, le_trans (min_le_min_right _ hij) hm.1.2⟩
  exact (hplace.le_iff hplace').mp hkm

theorem byteOffset_strictMonoOn : StrictMonoOn t.byteOffset {i | Utf16.IsBoundary t.units i} := by
  rintro i ⟨hi, houti⟩ j ⟨hj, houtj⟩ hij
  exact ((Place.of_insidePair hi houti).lt_iff (.of_insidePair hj houtj)).mp hij

theorem byteOffset_length_add (k : Nat) : t.byteOffset (t.length + k) = t.bytes.length := by
  have hend : min (t.length + k) t.units.length = t.length :=
    Nat.min_eq_right (Nat.le_add_right _ k)
  rw [byteOffset, ← byteOffset_min, hend]
  exact (Place.finish t).byteOffset_eq

end UnitText

/-- A position counts the bytes that the units up to the next boundary are written as, which the
text begins with. It grows with the position, from each boundary to the next, and up to the end of
the text. -/
theorem byteOffset_measures_text (us : Utf16.Units) :
    (∀ n, ∃ m, IsLeast {i | Utf16.IsBoundary us i ∧ min n us.length ≤ i} m ∧
      byteOffset us n = (Utf8.encode (Utf16.decode (us.take m))).length ∧
      Utf16.decode (us.take m) <+: Utf16.decode us ∧
      Utf8.isBoundary (UnitText.ofUnits us).bytes (byteOffset us n) = true) ∧
    Monotone (byteOffset us) ∧ StrictMonoOn (byteOffset us) {i | Utf16.IsBoundary us i} ∧
    ∀ k, byteOffset us (us.length + k) = (UnitText.ofUnits us).bytes.length := by
  let t := UnitText.ofUnits us
  refine ⟨?_, t.byteOffset_monotone, t.byteOffset_strictMonoOn, t.byteOffset_length_add⟩
  intro n
  obtain ⟨m, hleast, hplace⟩ := t.exists_isLeast_place n
  obtain ⟨hbefore, hlength⟩ := hplace.decode_take
  exact ⟨m, hleast, hlength.symm, hbefore, hplace.isBoundary⟩

/-- Two high surrogates and a low one, up to a position between the halves of the pair. -/
example : byteOffset [0xD800, 0xD83D, 0xDEA7] 2 =
    (Utf8.encode (Utf16.decode [0xD800, 0xD83D, 0xDEA7])).length := by
  decide +kernel

end RegexHost

import RegexHost.Proofs.Search.Captures

/-! Captures of any ends over any bytes, counted in units. No end grows, so none leaves the range
that it came in. -/
namespace RegexHost

/-- A capture and what it becomes over some bytes. One with a negative end stays as it is. The ends
of any other one are counted in units, are no further than they were or than the text is long, and
keep their order. -/
inductive Capture.Counted (bytes : Bytes) : Capture → Capture → Prop
  | kept {c : Capture} (unmatched : c.start < 0 ∨ c.stop < 0) : Counted bytes c c
  | counted {c c' : Capture} {b d : Nat} (start : c.start.toInt = b) (stop : c.stop.toInt = d)
      (matched : c'.isMatched = true)
      (start_units : c'.start.toInt = unitOffset bytes b)
      (stop_units : c'.stop.toInt = unitOffset bytes d)
      (start_le : unitOffset bytes b ≤ min b (Utf16.encode (Utf8.decode bytes)).length)
      (stop_le : unitOffset bytes d ≤ min d (Utf16.encode (Utf8.decode bytes)).length)
      (le : c.start ≤ c.stop → c'.start ≤ c'.stop) (eq : c.start = c.stop → c'.start = c'.stop) :
      Counted bytes c c'

/-- No byte position has more units before it than bytes, or than the whole text has. -/
theorem unitOffset_le_length (bytes : Bytes) (b : Nat) :
    unitOffset bytes b ≤ min b (Utf16.encode (Utf8.decode bytes)).length := by
  have hbytes := unitOffset_le bytes b
  have hend : unitOffset bytes bytes.length = (Utf16.encode (Utf8.decode bytes)).length := by
    rw [unitOffset_eq_length, List.take_length]
  have hmono := unitOffset_monotone bytes (Nat.min_le_right b bytes.length)
  rw [unitOffset_min, hend] at hmono
  omega

theorem Capture.counted_map (bytes : Bytes) (c : Capture) :
    c.Counted bytes (c.map (Match.unitEnd bytes)) := by
  cases hr : c.range? with
  | none =>
    have hm : c.isMatched = false := by
      by_contra hm
      simp [range?, hm] at hr
    rw [map, hm]
    refine .kept ?_
    rw [isMatched, Bool.and_eq_false_iff, decide_eq_false_iff_not, decide_eq_false_iff_not] at hm
    simpa [Int32.le_iff_toInt_le, Int32.lt_iff_toInt_lt] using hm
  | some range =>
    obtain ⟨b, d⟩ := range
    obtain ⟨hstart, hstop⟩ := (range?_eq_some_iff c b d).mp hr
    have hb := Match.toInt_unitEnd bytes hstart
    have hd := Match.toInt_unitEnd bytes hstop
    rw [map_of_range? hr]
    refine .counted hstart hstop ?_ hb hd (unitOffset_le_length bytes b)
      (unitOffset_le_length bytes d) ?_ ?_
    · simp [isMatched, Int32.le_iff_toInt_le, hb, hd]
    · intro hle
      rw [Int32.le_iff_toInt_le, hstart, hstop] at hle
      rw [Int32.le_iff_toInt_le, hb, hd, Int.ofNat_le]
      exact unitOffset_monotone bytes (Int.ofNat_le.mp hle)
    · intro heq
      rw [heq]

namespace Match

theorem length_lt_two {ends : List Int32} (h : ∀ s e rest, ends = s :: e :: rest → False) :
    ends.length < 2 := by
  rcases ends with _ | ⟨s, _ | ⟨e, rest⟩⟩
  · exact Nat.zero_lt_two
  · exact Nat.one_lt_two
  · exact absurd rfl (h s e rest)

theorem length_pairs (ends : List Int32) : (pairs ends).length = ends.length / 2 := by
  fun_induction pairs ends with
  | case1 s e rest ih =>
    rw [List.length_cons, ih, List.length_cons, List.length_cons]
    omega
  | case2 ends h => exact (Nat.div_eq_of_lt (length_lt_two h)).symm

/-- Two ends in a row, the first one at an even position, are a capture. -/
theorem getElem?_pairs (ends : List Int32) {k : Nat} (hk : k < ends.length / 2) :
    ∃ start stop, ends[2 * k]? = some start ∧ ends[2 * k + 1]? = some stop ∧
      (pairs ends)[k]? = some ⟨start, stop⟩ := by
  fun_induction pairs ends generalizing k with
  | case1 s e rest ih =>
    rw [List.length_cons, List.length_cons] at hk
    cases k with
    | zero => exact ⟨s, e, rfl, rfl, rfl⟩
    | succ k => exact ih (by omega)
  | case2 ends h =>
    rw [Nat.div_eq_of_lt (length_lt_two h)] at hk
    cases hk

end Match

/-- Any ends, read two by two over any bytes, become a capture for every two, which is the pair of
them counted in units. -/
theorem Match.toUnits_ofFlat_counted (bytes : Bytes) (ends : List Int32) :
    ((ofFlat ends).toUnits bytes).length = ends.length / 2 ∧
    ∀ k : Fin (ends.length / 2), ∃ start stop c, ends[2 * k.val]? = some start ∧
    ends[2 * k.val + 1]? = some stop ∧ ((ofFlat ends).toUnits bytes).group? k = some c ∧
    Capture.Counted bytes ⟨start, stop⟩ c := by
  constructor
  · rw [length, toUnits, mapOffsets, List.length_map, ofFlat, length_pairs]
  · intro k
    obtain ⟨start, stop, hstart, hstop, hpair⟩ := getElem?_pairs ends k.isLt
    refine ⟨start, stop, _, hstart, hstop, ?_, Capture.counted_map bytes ⟨start, stop⟩⟩
    rw [group?, toUnits, mapOffsets, List.getElem?_map, ofFlat, hpair, Option.map_some]

/-- Half a match, a match that ends before it begins, and an odd end, over a cut sequence. -/
example : (Match.ofFlat [3, -1, 9, 2, 7]).toUnits [0x61, 0xF0, 0x9F] = ⟨[⟨3, -1⟩, ⟨2, 2⟩]⟩ := by
  decide +kernel

end RegexHost

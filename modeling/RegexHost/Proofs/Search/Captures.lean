import RegexHost.Proofs.Search.Answers
import RegexHost.Proofs.Text.Lossy

/-! Captures in code units denote the same text as the captures in bytes that they come from. -/
namespace RegexHost

namespace Capture

/-- No part in the match, or a stretch of whole characters of the text with these bytes. -/
def Aligned (bytes : Bytes) (c : Capture) : Prop :=
  c = unmatched ∨ ∃ start stop, c.range? = some (start, stop) ∧ start ≤ stop ∧
    Utf8.isBoundary bytes start = true ∧ Utf8.isBoundary bytes stop = true

/-- One text, denoted by a capture in bytes and by a capture in code units that cuts no pair. -/
inductive SameText (t : UnitText) : Capture → Capture → Prop
  | unmatched : SameText t unmatched unmatched
  | matched {inBytes inUnits : Capture} {b d i j : Nat} {s : String}
      (bytes : inBytes.range? = some (b, d)) (units : inUnits.range? = some (i, j))
      (le : i ≤ j) (le_length : j ≤ t.length)
      (start : Utf16.insidePair t.units i = false) (stop : Utf16.insidePair t.units j = false)
      (start_byte : t.byteOffset i = b) (stop_byte : t.byteOffset j = d)
      (text : t.substring? i j = some s)
      (slice : Utf8.encode s.toList = (t.bytes.take d).drop b) : SameText t inBytes inUnits

theorem range?_eq_some_iff (c : Capture) (b d : Nat) :
    c.range? = some (b, d) ↔ c.start.toInt = b ∧ c.stop.toInt = d := by
  have hm : c.isMatched = true ↔ 0 ≤ c.start.toInt ∧ 0 ≤ c.stop.toInt := by
    simp [isMatched, Int32.le_iff_toInt_le]
  unfold range?
  split_ifs with h
  · rw [hm] at h
    rw [Option.some.injEq, Prod.mk.injEq]
    omega
  · rw [hm] at h
    simp only [false_iff]
    omega

theorem map_of_range? {c : Capture} {b d : Nat} (h : c.range? = some (b, d)) (f : Int32 → Int32) :
    c.map f = ⟨f c.start, f c.stop⟩ := by
  have hm : c.isMatched = true := by
    by_contra hm
    rw [range?, if_neg hm] at h
    cases h
  rw [map, if_pos hm]

end Capture

/-- A position that fits in 32 bits is counted by a number that fits too. -/
theorem Match.toInt_unitEnd (bytes : Bytes) {offset : Int32} {b : Nat} (h : offset.toInt = b) :
    (unitEnd bytes offset).toInt = unitOffset bytes b := by
  have hlt := offset.toInt_lt
  have hle := unitOffset_le bytes b
  rw [unitEnd, h, Int.toNat_natCast, Int32.toInt_ofNat_of_lt (by omega)]

theorem Match.unitEnd_toInt {t : UnitText} {i b : Nat} {offset : Int32} (h : t.Place i b)
    (hb : offset.toInt = b) : (unitEnd t.bytes offset).toInt = i := by
  rw [toInt_unitEnd t.bytes hb]
  exact congrArg Nat.cast h.unitOffset_eq

theorem Capture.sameText_map {t : UnitText} {c : Capture} (h : c.Aligned t.bytes) :
    SameText t c (c.map (Match.unitEnd t.bytes)) := by
  rcases h with rfl | ⟨b, d, hr, hle, hb, hd⟩
  · exact .unmatched
  · obtain ⟨i, hi⟩ := UnitText.Place.of_isBoundary hb
    obtain ⟨j, hj⟩ := UnitText.Place.of_isBoundary hd
    obtain ⟨hs, he⟩ := (range?_eq_some_iff c b d).mp hr
    obtain ⟨s, htext, hslice⟩ := hi.substring?_eq hj hle
    refine .matched hr ?_ ((hi.le_iff hj).mpr hle) hj.le_length hi.insidePair_eq_false
      hj.insidePair_eq_false hi.byteOffset_eq hj.byteOffset_eq htext hslice
    rw [map_of_range? hr, range?_eq_some_iff]
    exact ⟨Match.unitEnd_toInt hi hs, Match.unitEnd_toInt hj he⟩

theorem Match.sameText_toUnits {t : UnitText} {m : Match}
    (h : ∀ c ∈ m.captures, c.Aligned t.bytes) :
    List.Forall₂ (Capture.SameText t) m.captures (m.toUnits t.bytes).captures := by
  rw [toUnits, mapOffsets, List.forall₂_map_right_iff, List.forall₂_same]
  exact fun c hc => Capture.sameText_map (h c hc)

namespace Regex

/-- A result in code units beside the result in bytes that it tells of. -/
structure Reports (t : UnitText) (inBytes inUnits : Except Error (Option Match)) : Prop where
  none_iff : inUnits = .ok none ↔ inBytes = .ok none
  error_iff : ∀ f, inUnits = .error f ↔ inBytes = .error f
  found : ∀ m, inBytes = .ok (some m) → ∃ m', inUnits = .ok (some m') ∧
    List.Forall₂ (Capture.SameText t) m.captures m'.captures

theorem reports_inUnits {t : UnitText} {result : Except Error (Option Match)}
    (h : ∀ m, result = .ok (some m) → ∀ c ∈ m.captures, c.Aligned t.bytes) :
    Reports t result (inUnits t result) := by
  rcases result with f | found
  · exact ⟨by simp [inUnits, Except.map], by simp [inUnits, Except.map], by simp⟩
  · cases found with
    | none => exact ⟨by simp [inUnits, Except.map], by simp [inUnits, Except.map], by simp⟩
    | some m =>
      refine ⟨by simp [inUnits, Except.map], by simp [inUnits, Except.map], ?_⟩
      rintro _ ⟨⟩
      exact ⟨m.toUnits t.bytes, rfl, Match.sameText_toUnits (h m rfl)⟩

variable {σ : Type} (libs : Libraries σ) (r : Regex) (options : SearchOptions)

/-- Both searches in code units make one search in bytes, end in the state that it leaves, and tell
what it tells, capture by capture. -/
theorem search_reports_same_text (offset : Nat) (s : HostState σ) :
    (∀ text : UnitText, offset ≤ text.length →
      let inBytes := (r.searchBytes libs text.bytes (text.byteOffset offset) options).run s
      (∀ m, inBytes.1 = .ok (some m) → ∀ c ∈ m.captures, c.Aligned text.bytes) →
      Reports text inBytes.1 ((r.search libs text offset options).run s).1 ∧
        ((r.search libs text offset options).run s).2 = inBytes.2) ∧
    (∀ t : InternedText, r.engine.id = t.engine.id → offset ≤ t.text.length →
      let inBytes :=
        (r.engine.searchText libs r.handle t.handle (t.text.byteOffset offset) options).run s
      (∀ m, inBytes.1 = .ok (some m) → ∀ c ∈ m.captures, c.Aligned t.text.bytes) →
      Reports t.text inBytes.1 ((r.searchInterned libs t offset options).run s).1 ∧
        ((r.searchInterned libs t offset options).run s).2 = inBytes.2) := by
  constructor
  · intro text ho inBytes h
    rw [search_eq libs r options text ho]
    exact ⟨reports_inUnits h, rfl⟩
  · intro t ht ho inBytes h
    rw [searchInterned_eq libs r options t ht ho]
    exact ⟨reports_inUnits h, rfl⟩

/-- A pair, a lone surrogate and a letter, searched from behind the pair. -/
theorem search_reports_same_text_behind_pair :
    let text := UnitText.ofUnits [0xD83D, 0xDEA7, 0xD800, 0x61]
    let libs := Libraries.answering fun _ => some [4, 8, -1, -1, 0, 4]
    let r : Regex := ⟨⟨0, true⟩, ⟨1⟩⟩
    let s : HostState Unit := ⟨(), []⟩
    let inBytes := (r.searchBytes libs text.bytes (text.byteOffset 2) .standard).run s
    2 ≤ text.length ∧ (∀ m, inBytes.1 = .ok (some m) → ∀ c ∈ m.captures, c.Aligned text.bytes) ∧
      inBytes.1 = .ok (some ⟨[⟨4, 8⟩, .unmatched, ⟨0, 4⟩]⟩) ∧
      Reports text inBytes.1 ((r.search libs text 2 .standard).run s).1 := by
  intro text libs r s inBytes
  have hb : text.bytes = Utf8.encode (Utf16.decode [0xD83D, 0xDEA7, 0xD800, 0x61]) := text.bytes_eq
  have ho : text.byteOffset 2 ≤ text.bytes.length := by
    rw [hb]
    decide +kernel
  have hf : inBytes.1 = .ok (some ⟨[⟨4, 8⟩, .unmatched, ⟨0, 4⟩]⟩) :=
    searchBytes_answering _ r .standard text.bytes ho s
  have ha : ∀ m, inBytes.1 = .ok (some m) → ∀ c ∈ m.captures, c.Aligned text.bytes := by
    intro m hm
    rw [hf, Except.ok.injEq, Option.some.injEq] at hm
    subst hm
    rw [hb]
    simp only [List.forall_mem_cons, List.not_mem_nil, false_imp_iff, implies_true, and_true]
    exact ⟨.inr ⟨4, 8, rfl, by decide, by decide +kernel, by decide +kernel⟩, .inl rfl,
      .inr ⟨0, 4, rfl, by decide, by decide +kernel, by decide +kernel⟩⟩
  have hlen : 2 ≤ text.length := by decide
  exact ⟨hlen, ha, hf, ((search_reports_same_text libs r .standard 2 s).1 text hlen ha).1⟩

end Regex

end RegexHost

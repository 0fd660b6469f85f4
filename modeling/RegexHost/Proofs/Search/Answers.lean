import RegexHost.Proofs.Engine.Calls
import RegexHost.Regex

/-! Searches as their host sees them, and libraries that answer by the position where a search
begins. -/
namespace RegexHost

variable {σ : Type}

namespace Regex

variable (libs : Libraries σ) (r : Regex) (options : SearchOptions)

/-- An offset in the text leads to one search in bytes, and its result is translated. -/
theorem search_eq (text : UnitText) {offset : Nat} (h : offset ≤ text.length) :
    r.search libs text offset options =
      inUnits text <$> r.searchBytes libs text.bytes (text.byteOffset offset) options := by
  have hs : startOf text offset = .ok (text.byteOffset offset) := by
    rw [startOf, checkOffset, if_neg (by omega)]
    rfl
  rw [search, hs, map_eq_pure_bind]
  rfl

theorem searchInterned_eq (t : InternedText) (ht : r.engine.id = t.engine.id) {offset : Nat}
    (h : offset ≤ t.text.length) :
    r.searchInterned libs t offset options =
      inUnits t.text <$>
        r.engine.searchText libs r.handle t.handle (t.text.byteOffset offset) options := by
  have hs : startOf t.text offset = .ok (t.text.byteOffset offset) := by
    rw [startOf, checkOffset, if_neg (by omega)]
    rfl
  rw [searchInterned, if_neg (by simp [ht]), hs, map_eq_pure_bind]

end Regex

/-- Finds what `answer` says to a search from a byte position. -/
def Libraries.answering (answer : Nat → Option (List Int32)) : Libraries Unit where
  compile _ _ := pure ⟨some 1, none⟩
  createString _ _ := pure ⟨some 1, none⟩
  search _ _ _ offset _ := pure (found offset)
  searchString _ _ _ offset _ := pure (found offset)
  freeRegex _ _ := pure ()
  freeString _ _ := pure ()
where
  found (offset : Nat) : Found :=
    match answer offset with
    | some ends => ⟨Native.matched, some ⟨1, ends⟩, none⟩
    | none => ⟨Native.noMatch, none, none⟩

theorem Regex.searchBytes_answering (answer : Nat → Option (List Int32)) (r : Regex)
    (options : SearchOptions) (text : Bytes) {offset : Nat} (h : offset ≤ text.length)
    (s : HostState Unit) :
    ((r.searchBytes (.answering answer) text offset options).run s).1 =
      .ok ((answer offset).map Match.ofFlat) := by
  rw [searchBytes, Engine.search_run _ _ _ _ _ h]
  change Engine.answer (Libraries.answering.found answer offset) = _
  rw [Libraries.answering.found]
  cases answer offset <;> rfl

end RegexHost

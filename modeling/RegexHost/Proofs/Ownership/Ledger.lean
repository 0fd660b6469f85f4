import Mathlib.Data.Multiset.Filter
import RegexHost.Proofs.Ownership.Use
import RegexHost.Session

/-! Owners of handles. Each live handle has one owner, and each owner has one live handle: this is
kept when a handle is made, passed or freed and when it goes from one owner to another. -/
namespace RegexHost.Session

namespace Item

/-- The handle in an item. A raw handle does not say which engine made it. -/
def handle? (raw : EngineId) : Item → Option Handle
  | regex r => r.handle.map fun p => ⟨r.engine.id, .pattern, p.address⟩
  | interned t => t.handle.map fun x => ⟨t.engine.id, .text, x.address⟩
  | pattern p => some ⟨raw, .pattern, p.address⟩
  | text t => some ⟨raw, .text, t.address⟩

def isRaw : Item → Bool
  | regex _ | interned _ => false
  | pattern _ | text _ => true

def Owns (i : Item) (h : Handle) : Prop :=
  i.handle? h.engine = some h

theorem owns_of_handle? {i : Item} {raw : EngineId} {h : Handle} (hh : i.handle? raw = some h) :
    i.Owns h := by
  cases i with
  | regex r => exact hh
  | interned t => exact hh
  | pattern p =>
    cases hh
    rfl
  | text t =>
    cases hh
    rfl

/-- A wrapper has its own engine. -/
theorem handle?_eq_of_isRaw {i : Item} (hi : i.isRaw = false) (raw raw' : EngineId) :
    i.handle? raw = i.handle? raw' := by
  cases i with
  | regex r => rfl
  | interned t => rfl
  | pattern p => cases hi
  | text t => cases hi

theorem isSome_handle? (i : Item) (raw raw' : EngineId) :
    (i.handle? raw).isSome = (i.handle? raw').isSome := by
  cases i with
  | regex r => rfl
  | interned t => rfl
  | pattern p => rfl
  | text t => rfl

theorem Owns.address_eq {i : Item} {h h' : Handle} (ho : i.Owns h) (ho' : i.Owns h') :
    h.address = h'.address := by
  have hm : (i.handle? h.engine).map Handle.address = (i.handle? h'.engine).map Handle.address := by
    cases i <;> rfl
  rw [ho, ho'] at hm
  exact Option.some.inj hm

end Item

/-- Each handle is made before it is used, is not used after it was freed, and while it lives it has
one owner and is all that the owner has. -/
structure Ledger (owners : Multiset Item) (us : List Use) : Prop where
  sound : Sound us
  owned : Multiset.Rel Item.Owns owners (liveIn us)

namespace Ledger

variable {owners : Multiset Item} {us : List Use} {i j : Item} {h : Handle}

theorem nil : Ledger 0 [] :=
  ⟨.nil, .zero⟩

theorem exists_live (hl : Ledger owners us) (hi : i ∈ owners) : ∃ h ∈ liveIn us, i.Owns h :=
  Multiset.exists_mem_of_rel_of_mem hl.owned hi

/-- What an owner's handle may be, it is, if it was made. -/
theorem live_of_made (hl : Ledger owners us) (hf : Fresh us) (hi : i ∈ owners) (ho : i.Owns h)
    (hm : .made h ∈ us) : h ∈ liveIn us := by
  obtain ⟨h', hh', ho'⟩ := hl.exists_live hi
  rwa [hf.eq hm (mem_liveIn.mp hh').1 (ho.address_eq ho')]

theorem make (hl : Ledger owners us) (hf : Fresh (us ++ [.made h])) (ho : i.Owns h) :
    Ledger (i ::ₘ owners) (us ++ [.made h]) where
  sound := hl.sound.append nofun
  owned := by
    rw [liveIn_append_made hl.sound hf, ← Multiset.coe_add, Multiset.add_comm]
    exact .cons ho hl.owned

theorem pass {hs : List Handle} (hl : Ledger owners us) (hlive : ∀ h ∈ hs, h ∈ liveIn us) :
    Ledger owners (us ++ hs.map .passed) := by
  induction hs generalizing us with
  | nil => simpa using hl
  | cons h hs ih =>
    have hn : Ledger owners (us ++ [.passed h]) := by
      constructor
      · refine hl.sound.append ?_
        rintro _ ⟨⟩
        exact mem_liveIn.mp (hlive h List.mem_cons_self)
      · rw [liveIn_append_passed]
        exact hl.owned
    have hrest : ∀ h' ∈ hs, h' ∈ liveIn (us ++ [.passed h]) := by
      rw [liveIn_append_passed]
      exact fun h' hh' => hlive h' (List.mem_cons_of_mem h hh')
    simpa using ih hn hrest

theorem free (hl : Ledger (i ::ₘ owners) us) (hf : Fresh us) (ho : i.Owns h) (hm : .made h ∈ us) :
    Ledger owners (us ++ [.freed h]) := by
  have hlive := hl.live_of_made hf (Multiset.mem_cons_self i owners) ho hm
  constructor
  · refine hl.sound.append ?_
    rintro _ ⟨⟩
    exact mem_liveIn.mp hlive
  · obtain ⟨h', rest, ho', hrest, he⟩ := Multiset.rel_cons_left.mp hl.owned
    have hh' : h' ∈ liveIn us := Multiset.mem_coe.mp (he ▸ Multiset.mem_cons_self h' rest)
    obtain rfl := hf.eq hm (mem_liveIn.mp hh').1 (ho.address_eq ho')
    have hn : h ∉ rest := by
      have hd : (h ::ₘ rest).Nodup := he ▸ Multiset.coe_nodup.mpr hf.nodup
      exact (Multiset.nodup_cons.mp hd).1
    have hf : Multiset.filter (· ≠ h) (h ::ₘ rest) = rest := by
      rw [Multiset.filter_cons_of_neg rest (not_not.mpr rfl)]
      exact Multiset.filter_eq_self.mpr fun x hx hxh => hn (hxh ▸ hx)
    rw [liveIn_append_freed, ← Multiset.filter_coe, he, hf]
    exact hrest

/-- The new owner has to be one for the handle that there is. -/
theorem exchange (hl : Ledger (i ::ₘ owners) us) (ho : ∀ h ∈ liveIn us, i.Owns h → j.Owns h) :
    Ledger (j ::ₘ owners) us := by
  obtain ⟨h, rest, hh, hrest, he⟩ := Multiset.rel_cons_left.mp hl.owned
  refine ⟨hl.sound, ?_⟩
  rw [he]
  exact .cons (ho h (Multiset.mem_coe.mp (he ▸ Multiset.mem_cons_self h rest)) hh) hrest

end Ledger

/-- A ledger of handles that are all at addresses of their own. -/
structure Accounted (owners : Multiset Item) (us : List Use) : Prop extends Ledger owners us where
  /-- What is used at the address of a handle is that handle, so the engine and the kind are those
  of the making. -/
  same : ∀ h u h', .made h ∈ us → u ∈ us → u.needs? = some h' → h'.address = h.address → h' = h
  freed : ∀ h, .made h ∈ us → us.count (.freed h) = if h ∈ liveIn us then 0 else 1

theorem Ledger.accounted {owners : Multiset Item} {us : List Use} (hl : Ledger owners us)
    (hf : Fresh us) : Accounted owners us where
  toLedger := hl
  same _ _ _ hm hu hh ha := hf.eq (hl.sound.made_of_mem hu hh) hm ha
  freed _ hm := hl.sound.count_freed hm

end RegexHost.Session

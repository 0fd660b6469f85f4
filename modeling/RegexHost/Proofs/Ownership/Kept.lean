import Mathlib.Data.String.Basic
import RegexHost.Proofs.Ownership.Actions

/-! What a session keeps: named items, sorted by their names, and a ledger of the handles in
them. -/
namespace RegexHost.Session

open Host (Passes Frees)
open scoped List

section Items

variable {items : List (String × Item)} {name : String} {i : Item}

/-- No two items have one name. -/
def Sorted (items : List (String × Item)) : Prop :=
  items.Pairwise fun a b => a.1 < b.1

theorem lookup_eq_none_of_lt (h : ∀ x ∈ items, name < x.1) : items.lookup name = none := by
  rw [List.lookup_eq_none_iff]
  intro x hx
  exact bne_iff_ne.mpr (h x hx).ne

theorem mem_insertItem {x : String × Item} (hx : x ∈ insertItem name i items) :
    x = (name, i) ∨ x ∈ items := by
  induction items with
  | nil => exact .inl (List.mem_singleton.mp hx)
  | cons y rest ih =>
    rw [insertItem] at hx
    split_ifs at hx
    · exact List.mem_cons.mp hx
    · rcases List.mem_cons.mp hx with hx | hx
      · exact .inl hx
      · exact .inr (List.mem_cons_of_mem y hx)
    · rcases List.mem_cons.mp hx with rfl | hx
      · exact .inr List.mem_cons_self
      · exact (ih hx).imp_right (List.mem_cons_of_mem y)

theorem Sorted.insertItem (hs : Sorted items) (name : String) (i : Item) :
    Sorted (insertItem name i items) := by
  induction items with
  | nil => exact List.pairwise_singleton _ _
  | cons y rest ih =>
    obtain ⟨hy, hrest⟩ := List.pairwise_cons.mp hs
    rw [Session.insertItem]
    split_ifs with hlt heq
    · refine List.pairwise_cons.mpr ⟨?_, hs⟩
      intro x hx
      rcases List.mem_cons.mp hx with rfl | hx
      · exact hlt
      · exact hlt.trans (hy x hx)
    · exact List.pairwise_cons.mpr ⟨fun x hx => heq ▸ hy x hx, hrest⟩
    · refine List.pairwise_cons.mpr ⟨?_, ih hrest⟩
      intro x hx
      rcases mem_insertItem hx with rfl | hx
      · exact lt_of_le_of_ne (not_lt.mp hlt) (Ne.symm heq)
      · exact hy x hx

/-- What had the name comes out, and the item goes in. -/
theorem insertItem_perm (hs : Sorted items) (name : String) (i : Item) :
    (items.lookup name).toList ++ (insertItem name i items).map Prod.snd ~
      i :: items.map Prod.snd := by
  induction items with
  | nil => exact .refl _
  | cons y rest ih =>
    obtain ⟨hy, hrest⟩ := List.pairwise_cons.mp hs
    rw [insertItem]
    split_ifs with hlt heq
    · rw [lookup_eq_none_of_lt]
      · exact .refl _
      · intro x hx
        rcases List.mem_cons.mp hx with rfl | hx
        · exact hlt
        · exact hlt.trans (hy x hx)
    · rw [heq, List.lookup_cons_self]
      exact .swap _ _ _
    · rw [List.lookup_cons, beq_false_of_ne heq]
      exact List.perm_middle.trans (((ih hrest).cons y.2).trans (.swap _ _ _))

theorem filter_perm (hs : Sorted items) (hl : items.lookup name = some i) :
    i :: (items.filter (·.1 ≠ name)).map Prod.snd ~ items.map Prod.snd := by
  induction items with
  | nil => cases hl
  | cons y rest ih =>
    obtain ⟨hy, hrest⟩ := List.pairwise_cons.mp hs
    by_cases heq : name = y.1
    · have hall : rest.filter (·.1 ≠ name) = rest :=
        List.filter_eq_self.mpr fun x hx => decide_eq_true (heq ▸ (hy x hx).ne')
      rw [heq, List.lookup_cons_self] at hl
      cases hl
      rw [List.filter_cons_of_neg (by simp [heq]), hall]
      exact .refl _
    · rw [List.lookup_cons, beq_false_of_ne heq] at hl
      rw [List.filter_cons_of_pos (by simp [Ne.symm heq])]
      exact (List.Perm.swap _ _ _).trans ((ih hrest hl).cons y.2)

end Items

namespace State

variable (s : State)

def held : Multiset Item :=
  s.items.map Prod.snd

def without (name : String) : State :=
  { s with items := s.items.filter (·.1 ≠ name) }

def keeping (name : String) (i : Item) : State :=
  { s with items := insertItem name i s.items }

/-- Nothing raw has the name, so no handle is lost when something else gets it. -/
def spares (name : String) : Bool :=
  (s.items.lookup name).all fun i => !i.isRaw

/-- A raw handle with the name was made by the engine. -/
def fits (us : List Use) (engine : Nat) (name : String) : Bool :=
  (s.engines[engine]?).all fun e => (s.items.lookup name).all fun i =>
    (i.handle? e.id).all (.made · ∈ us)

end State

variable {σ α : Type} {base : List Use} {hand : Multiset Item} {s : State} {h : HostState σ}
  {name : String} {i j : Item}

/-- The session has its items and, for a moment, some in hand. The account goes on from `base`, and
it is kept as long as no library hands out a handle twice. -/
structure Kept (base : List Use) (hand : Multiset Item) (s : State) (h : HostState σ) : Prop where
  sorted : Sorted s.items
  /-- No wrapper is without its handle. -/
  whole : ∀ i ∈ s.held, (i.handle? 0).isSome
  since : base <+: uses h.calls
  ledger : Fresh (uses h.calls) → Ledger (hand + s.held) (uses h.calls)

theorem State.mem_held (hl : s.items.lookup name = some i) : i ∈ s.held := by
  obtain ⟨front, back, he, -⟩ := List.lookup_eq_some_iff.mp hl
  rw [held, he]
  exact Multiset.mem_coe.mpr (List.mem_map_of_mem (List.mem_append_right front List.mem_cons_self))

theorem State.spares_eq (hs : s.spares name = true) (hl : s.items.lookup name = some i) :
    i.isRaw = false := by
  simpa [spares, hl] using hs

theorem State.made_of_fits {us : List Use} {engine : Nat} {e : Engine} {x : Handle}
    (hfit : s.fits us engine name = true) (he : s.engines[engine]? = some e)
    (hl : s.items.lookup name = some i) (hx : i.handle? e.id = some x) : .made x ∈ us := by
  simpa [fits, he, hl, hx] using hfit

namespace Ledger

variable {owners : Multiset Item} {us : List Use}

/-- What is dropped frees its handle. -/
theorem drop (hl : Ledger (i ::ₘ owners) us) (hf : Fresh us) (hr : i.isRaw = false)
    (raw : EngineId) : Ledger owners (us ++ (i.handle? raw).toList.map .freed) := by
  obtain ⟨h, hlive, ho⟩ := hl.exists_live (Multiset.mem_cons_self i owners)
  have hh : i.handle? raw = some h := (Item.handle?_eq_of_isRaw hr raw h.engine).trans ho
  rw [hh]
  exact hl.free hf ho (mem_liveIn.mp hlive).1

end Ledger

namespace Kept

theorem start (engines : List Engine) (libraries : σ) :
    Kept [] 0 ⟨engines, []⟩ (⟨libraries, []⟩ : HostState σ) where
  sorted := .nil
  whole _ hi := absurd hi (Multiset.notMem_zero _)
  since := List.prefix_refl _
  ledger _ := .nil

theorem rebase (hk : Kept base hand s h) : Kept (uses h.calls) hand s h :=
  { hk with since := List.prefix_refl _ }

theorem take (hk : Kept base hand s h) (hl : s.items.lookup name = some i) :
    Kept base (i ::ₘ hand) (s.without name) h := by
  have hp : i ::ₘ (s.without name).held = s.held :=
    Multiset.coe_eq_coe.mpr (filter_perm hk.sorted hl)
  constructor
  · exact hk.sorted.filter _
  · exact fun j hj => hk.whole j (hp ▸ Multiset.mem_cons_of_mem hj)
  · exact hk.since
  · intro hf
    rw [Multiset.cons_add, ← Multiset.add_cons, hp]
    exact hk.ledger hf

/-- All the items are in hand when the session ends. -/
theorem giveAll (hk : Kept base 0 s h) : Kept base (s.held + 0) ⟨s.engines, []⟩ h where
  sorted := .nil
  whole _ hi := absurd hi (Multiset.notMem_zero _)
  since := hk.since
  ledger hf := by
    have hl := hk.ledger hf
    rw [Multiset.zero_add] at hl
    have hnone : State.held ⟨s.engines, []⟩ = 0 := rfl
    rwa [hnone, Multiset.add_zero, Multiset.add_zero]

/-- What had the name is in hand then. -/
theorem put (hk : Kept base (i ::ₘ hand) s h) (hi : (i.handle? 0).isSome) (name : String) :
    Kept base (↑(s.items.lookup name).toList + hand) (s.keeping name i) h := by
  have hp : ↑(s.items.lookup name).toList + (s.keeping name i).held = i ::ₘ s.held := by
    rw [State.held, Multiset.coe_add]
    exact Multiset.coe_eq_coe.mpr (insertItem_perm hk.sorted name i)
  constructor
  · exact hk.sorted.insertItem name i
  · intro j hj
    have hj : j ∈ i ::ₘ s.held := hp ▸ Multiset.mem_add.mpr (.inr hj)
    rcases Multiset.mem_cons.mp hj with rfl | hj
    · exact hi
    · exact hk.whole j hj
  · exact hk.since
  · intro hf
    rw [Multiset.add_comm _ hand, Multiset.add_assoc, hp, Multiset.add_cons, ← Multiset.cons_add]
    exact hk.ledger hf

variable {hand' : Multiset Item} {h' : HostState σ}

/-- What changes no item has to answer for the ledger only. -/
theorem after (hk : Kept base hand s h) {more : List Use}
    (hu : uses h'.calls = uses h.calls ++ more)
    (hl : Fresh (uses h.calls) → Fresh (uses h.calls ++ more) →
      Ledger (hand + s.held) (uses h.calls) → Ledger (hand' + s.held) (uses h.calls ++ more)) :
      Kept base hand' s h' where
  sorted := hk.sorted
  whole := hk.whole
  since := hk.since.trans (hu ▸ List.prefix_append _ _)
  ledger hf := by
    rw [hu] at hf ⊢
    have hbefore := hf.of_prefix (List.prefix_append _ _)
    exact hl hbefore hf (hk.ledger hbefore)

theorem of_uses_eq (hk : Kept base hand s h) (hu : uses h'.calls = uses h.calls) :
    Kept base hand s h' := by
  refine hk.after (hu.trans (List.append_nil _).symm) fun _ _ hl => ?_
  rwa [List.append_nil]

theorem exchange (hk : Kept base (i ::ₘ hand) s h)
    (ho : Fresh (uses h.calls) → ∀ x ∈ liveIn (uses h.calls), i.Owns x → j.Owns x) :
    Kept base (j ::ₘ hand) s h := by
  refine hk.after (List.append_nil _).symm fun hf _ hl => ?_
  rw [Multiset.cons_add] at hl ⊢
  rw [List.append_nil]
  exact hl.exchange (ho hf)

theorem make (hk : Kept base hand s h) {x : Handle} (ho : i.Owns x)
    (hu : uses h'.calls = uses h.calls ++ [.made x]) : Kept base (i ::ₘ hand) s h' := by
  refine hk.after hu fun _ hf hl => ?_
  rw [Multiset.cons_add]
  exact hl.make hf ho

theorem pass (hk : Kept base hand s h) {x : Host σ α} {hs : List Handle} (hx : Passes x hs)
    (hlive : Fresh (uses h.calls) → ∀ y ∈ hs, y ∈ liveIn (uses h.calls)) :
    Kept base hand s (x.run h).2 := by
  obtain ⟨ps, hps, hu⟩ := hx h
  exact hk.after hu fun hf _ hl => hl.pass fun y hy => hlive hf y (hps hy)

theorem free (hk : Kept base (i ::ₘ hand) s h) {x : Host σ α} {y : Handle} (hx : Frees x [y])
    (ho : i.Owns y) (hm : .made y ∈ uses h.calls) : Kept base hand s (x.run h).2 := by
  refine hk.after (hx h) fun hf _ hl => ?_
  rw [Multiset.cons_add] at hl
  exact hl.free hf ho hm

theorem drop (hk : Kept base (i ::ₘ hand) s h) (libs : Libraries σ) (hr : i.isRaw = false) :
    Kept base hand s ((dropItem libs i).run h).2 := by
  have hx := frees_dropItem libs i 0 h
  rw [hr] at hx
  refine hk.after hx fun hf _ hl => ?_
  rw [Multiset.cons_add] at hl
  exact hl.drop hf hr 0

/-- What fits may be used. -/
theorem live_of_fits (hk : Kept base hand s h) {engine : Nat} {e : Engine} {x : Handle}
    (hfit : s.fits (uses h.calls) engine name = true) (he : s.engines[engine]? = some e)
    (hl : s.items.lookup name = some i) (hx : i.handle? e.id = some x) (hf : Fresh (uses h.calls)) :
    x ∈ liveIn (uses h.calls) :=
  (hk.ledger hf).live_of_made hf (Multiset.mem_add.mpr (.inr (State.mem_held hl)))
    (Item.owns_of_handle? hx) (State.made_of_fits hfit he hl hx)

/-- The handle in a wrapper may be used. -/
theorem live_of_wrapper (hk : Kept base hand s h) {x : Handle} (hl : s.items.lookup name = some i)
    (hr : i.isRaw = false) (hx : i.handle? 0 = some x) (hf : Fresh (uses h.calls)) :
    x ∈ liveIn (uses h.calls) := by
  obtain ⟨y, hy, ho⟩ := (hk.ledger hf).exists_live (Multiset.mem_add.mpr (.inr (State.mem_held hl)))
  rw [Item.handle?_eq_of_isRaw hr 0 y.engine, ho] at hx
  cases hx
  exact hy

theorem exists_regex (hk : Kept base hand s h) {r : ScopedRegex}
    (hl : s.items.lookup name = some (.regex r)) : ∃ e p, r = ⟨e, some p⟩ := by
  have hr := hk.whole _ (State.mem_held hl)
  obtain ⟨e, _ | p⟩ := r
  · cases hr
  · exact ⟨e, p, rfl⟩

theorem exists_interned (hk : Kept base hand s h) {t : ScopedText}
    (hl : s.items.lookup name = some (.interned t)) : ∃ u, t.handle = some u := by
  have ht := hk.whole _ (State.mem_held hl)
  obtain ⟨e, _ | u, text⟩ := t
  · cases ht
  · exact ⟨u, rfl⟩

end Kept

end RegexHost.Session

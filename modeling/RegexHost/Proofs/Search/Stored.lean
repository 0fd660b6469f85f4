import RegexHost.Proofs.Engine.Linked
import RegexHost.Proofs.Session.Invariant
import RegexHost.Proofs.Table

/-! What the linked engine keeps behind the handles that a session holds. Each item has memory of
its own, and what was compiled or copied for it stays there until the item is released. -/
namespace RegexHost.Linked

open Session (Item Gains Invariant)
open Host (Keeps)

variable {ρ : Type} {core : Native.Core ρ} {m m' : Multiset Item} {h h' : HostState (Heap ρ)}
  {i j : Item} {a b : Nat}

/-- The program at the address was compiled by the call that handed the address out. -/
structure Compiled (core : Native.Core ρ) (h : HostState (Heap ρ)) (a : Nat)
    (program : ρ) : Prop where
  made : ∃ e pattern, (e, .compile pattern ⟨some a, none⟩) ∈ h.calls ∧
    Native.compileWork core (.given pattern) = .returned program
  lookup : h.libraries.patterns.lookup a = some program

/-- What stands behind an item that may be asked to search or to be searched. A raw text is never
searched through a wrapper. -/
def Behind (core : Native.Core ρ) (h : HostState (Heap ρ)) : Item → Prop
  | .pattern p | .regex ⟨_, some p⟩ => ∃ program, Compiled core h p.address program
  | .interned ⟨_, some t, text⟩ =>
    t.length = text.bytes.length ∧ h.libraries.texts.lookup t.address = some text.bytes
  | .regex ⟨_, none⟩ | .interned ⟨_, none, _⟩ => False
  | .text _ => True

def address? : Item → Option Nat
  | .regex r => r.handle.map PatternHandle.address
  | .interned t => t.handle.map TextHandle.address
  | .pattern p => some p.address
  | .text t => some t.address

structure Stored (core : Native.Core ρ) (m : Multiset Item) (h : HostState (Heap ρ)) : Prop where
  behind : ∀ i ∈ m, Behind core h i
  apart : (m.filterMap address?).Nodup
  below : ∀ a ∈ m.filterMap address?, a < h.libraries.next

/-- The same stands at the address in both heaps. -/
structure Heap.Same (heap heap' : Heap ρ) (a : Nat) : Prop where
  patterns : heap'.patterns.lookup a = heap.patterns.lookup a
  texts : heap'.texts.lookup a = heap.texts.lookup a

theorem lookup_filter_ne {α : Type} (l : List (Nat × α)) (hab : a ≠ b) :
    (l.filter (·.1 ≠ b)).lookup a = l.lookup a :=
  (lookup_filter (fun c => decide (c ≠ b)) l a).trans (if_pos (decide_eq_true hab))

theorem Behind.congr (hb : Behind core h i) (hc : h.calls ⊆ h'.calls)
    (hs : ∀ a, address? i = some a → h.libraries.Same h'.libraries a) : Behind core h' i := by
  have hprogram {p : PatternHandle} (hp : address? i = some p.address)
      (hb : ∃ program, Compiled core h p.address program) :
        ∃ program, Compiled core h' p.address program := by
    obtain ⟨program, ⟨e, pattern, hmem, hw⟩, hl⟩ := hb
    exact ⟨program, ⟨e, pattern, hc hmem, hw⟩, ((hs _ hp).patterns).trans hl⟩
  rcases i with ⟨e, _ | p⟩ | ⟨e, _ | t, text⟩ | p | t
  · exact hb
  · exact hprogram rfl hb
  · exact hb
  · exact ⟨hb.1, ((hs _ rfl).texts).trans hb.2⟩
  · exact hprogram rfl hb
  · exact hb

namespace Stored

theorem nil : Stored core 0 h :=
  ⟨nofun, Multiset.nodup_zero, nofun⟩

theorem less (hm : m ≤ m') (hs : Stored core m' h) : Stored core m h where
  behind i hi := hs.behind i (Multiset.mem_of_le hm hi)
  apart := Multiset.nodup_of_le (Multiset.filterMap_le_filterMap _ hm) hs.apart
  below a ha := hs.below a (Multiset.mem_of_le (Multiset.filterMap_le_filterMap _ hm) ha)

/-- What changes no memory of an item keeps the items. -/
theorem after (hs : Stored core m h) (hc : h.calls ⊆ h'.calls)
    (hn : h.libraries.next ≤ h'.libraries.next)
    (hsame : ∀ a ∈ m.filterMap address?, h.libraries.Same h'.libraries a) : Stored core m h' where
  behind i hi := (hs.behind i hi).congr hc fun a ha =>
    hsame a ((Multiset.mem_filterMap _ _).mpr ⟨i, hi, ha⟩)
  apart := hs.apart
  below a ha := (hs.below a ha).trans_le hn

/-- An item at a new address. -/
theorem gain (hs : Stored core m h') (hi : Behind core h' i) (ha : address? i = some a)
    (hnew : ∀ b ∈ m.filterMap address?, b < a) (hlt : a < h'.libraries.next) :
    Stored core (i ::ₘ m) h' where
  behind := Multiset.forall_mem_cons.mpr ⟨hi, hs.behind⟩
  apart := by
    rw [Multiset.filterMap_cons_some _ _ _ ha]
    exact Multiset.nodup_cons.mpr ⟨fun hmem => Nat.lt_irrefl a (hnew a hmem), hs.apart⟩
  below := by
    rw [Multiset.filterMap_cons_some _ _ _ ha]
    exact Multiset.forall_mem_cons.mpr ⟨hlt, hs.below⟩

theorem exchange (hs : Stored core (i ::ₘ m) h) (ha : address? j = address? i)
    (hb : Behind core h i → Behind core h j) : Stored core (j ::ₘ m) h := by
  have he : (j ::ₘ m).filterMap address? = (i ::ₘ m).filterMap address? := by
    cases hi : address? i with
    | none =>
      rw [Multiset.filterMap_cons_none _ _ hi, Multiset.filterMap_cons_none _ _ (ha.trans hi)]
    | some a =>
      rw [Multiset.filterMap_cons_some _ _ _ hi, Multiset.filterMap_cons_some _ _ _ (ha.trans hi)]
  obtain ⟨hi, hm⟩ := Multiset.forall_mem_cons.mp hs.behind
  exact ⟨Multiset.forall_mem_cons.mpr ⟨hb hi, hm⟩, he ▸ hs.apart, he ▸ hs.below⟩

/-- What is freed is the memory of the first item only. -/
theorem free (hs : Stored core (i ::ₘ m) h) (ha : address? i = some a) (hc : h.calls ⊆ h'.calls)
    (hn : h'.libraries.next = h.libraries.next)
    (hsame : ∀ b, b ≠ a → h.libraries.Same h'.libraries b) : Stored core m h' := by
  refine (hs.less (Multiset.le_cons_self m i)).after hc hn.ge fun b hb => hsame b ?_
  rintro rfl
  have hd := hs.apart
  rw [Multiset.filterMap_cons_some _ _ _ ha] at hd
  exact (Multiset.nodup_cons.mp hd).1 hb

end Stored

theorem subset_calls_called (s : HostState (Heap ρ)) (e : EngineId) (heap : Heap ρ)
    (calls : List Call) : s.calls ⊆ (s.called e heap calls).calls :=
  List.subset_append_left _ _

theorem Replies.same {heap : Heap ρ} {work : Native.Work (Option Native.Region)}
    {ran : Found × Heap ρ} (hr : Replies heap work ran) :
    heap.next ≤ ran.2.next ∧ ∀ a, heap.Same ran.2 a := by
  cases hr with
  | noMatch => exact ⟨le_rfl, fun a => ⟨rfl, rfl⟩⟩
  | fault | matched => exact ⟨Nat.le_add_right _ 1, fun a => ⟨rfl, rfl⟩⟩

variable (core)

theorem keep_stored (m : Multiset Item) : (libraries core).Keep (Stored core m) where
  search e p text offset options := by
    intro s hs
    rcases Nat.lt_or_ge text.length offset with h | h
    · rw [Engine.search_run_of_lt _ e s p options h]
      exact hs
    · obtain ⟨hn, hsame⟩ := (replies_search core s.libraries p.address text offset options).same
      rw [Engine.search_run _ e s p options h]
      exact hs.after (subset_calls_called s _ _ _) hn fun a _ => hsame a
  searchText e p t offset options := by
    intro s hs
    rcases Nat.lt_or_ge t.length offset with h | h
    · rw [Engine.searchText_run_of_lt _ e s p options h]
      exact hs
    · obtain ⟨hn, hsame⟩ :=
        (replies_searchString core s.libraries p.address t.address offset options).same
      rw [Engine.searchText_run _ e s p options h]
      exact hs.after (subset_calls_called s _ _ _) hn fun a _ => hsame a

/-- A refusal takes an address for its message, and nothing else. -/
theorem Stored.refused (hs : Stored core m h) (e : EngineId) (calls : List Call) :
    Stored core m (h.called e (h.libraries.skip 1) calls) :=
  hs.after (subset_calls_called h _ _ _) (Nat.le_add_right _ 1) fun _ _ => ⟨rfl, rfl⟩

theorem gains_compile (e : Engine) (pattern : Bytes) :
    Gains (Stored core) (e.compile (libraries core) pattern) .pattern := by
  intro m s hs
  have hfault {f : Native.Fault} (hf : (Native.compileWork core (.given pattern)).fault? = some f) :
      ((libraries core).compile e.id pattern).run s.libraries = _ :=
        compile_run_of_fault core s.libraries hf
  rw [Engine.compile_run]
  cases hw : Native.compileWork core (.given pattern) with
  | failed f =>
    rw [hfault (f := f) (by rw [hw]; rfl)]
    exact hs.refused core e.id _
  | crashed p =>
    rw [hfault (f := .ofPayload p) (by rw [hw]; rfl)]
    exact hs.refused core e.id _
  | returned program =>
    have hc : ((libraries core).compile e.id pattern).run s.libraries = _ :=
      compile_run_of_returned core s.libraries hw
    rw [hc]
    have hs' : Stored core m (s.called e.id
        { s.libraries.skip 1 with patterns := (s.libraries.next, program) :: s.libraries.patterns }
        [.compile pattern ⟨some s.libraries.next, none⟩]) := by
      refine hs.after (subset_calls_called s _ _ _) (Nat.le_add_right _ 1) fun a ha => ⟨?_, rfl⟩
      exact (List.lookup_cons ..).trans (by rw [beq_false_of_ne (hs.below a ha).ne])
    have hmade : ∃ e' pattern', (e', Call.compile pattern' ⟨some s.libraries.next, none⟩) ∈
        s.calls ++ [(e.id, Call.compile pattern ⟨some s.libraries.next, none⟩)] ∧
        Native.compileWork core (.given pattern') = .returned program :=
      ⟨e.id, pattern, List.mem_append_right _ List.mem_cons_self, hw⟩
    exact hs'.gain (i := .pattern ⟨s.libraries.next⟩) ⟨program, hmade, List.lookup_cons_self⟩ rfl
      hs.below (Nat.lt_succ_self _)

/-- The text that is kept is a copy. `item` says how it is held. -/
theorem gains_internText (e : Engine) (text : Bytes) {item : TextHandle → Item}
    (ha : ∀ t, address? (item t) = some t.address)
    (hb : ∀ t h, t.length = text.length → h.libraries.texts.lookup t.address = some text →
      Behind core h (item t)) : Gains (Stored core) (e.internText (libraries core) text) item := by
  intro m s hs
  rw [Engine.internText_run]
  cases ht : Utf8.fault? text with
  | some f =>
    have hc : ((libraries core).createString e.id text).run s.libraries = _ :=
      createString_run_of_fault s.libraries (Native.textWork_of_fault ht)
    rw [hc]
    exact hs.refused core e.id _
  | none =>
    have hc : ((libraries core).createString e.id text).run s.libraries = _ :=
      createString_run s.libraries ht
    rw [hc]
    have hs' : Stored core m (s.called e.id
        { s.libraries.skip 1 with texts := (s.libraries.next, text) :: s.libraries.texts }
        [.createString text ⟨some s.libraries.next, none⟩]) := by
      refine hs.after (subset_calls_called s _ _ _) (Nat.le_add_right _ 1) fun a ha => ⟨rfl, ?_⟩
      exact (List.lookup_cons ..).trans (by rw [beq_false_of_ne (hs.below a ha).ne])
    exact hs'.gain (hb ⟨s.libraries.next, text.length⟩ _ rfl List.lookup_cons_self) (ha _) hs.below
      (Nat.lt_succ_self s.libraries.next)

theorem invariant_stored : Invariant (libraries core) (Stored core) where
  less := Stored.less
  searches := keep_stored core
  compile := gains_compile core
  internText e text := gains_internText core e text (fun _ => rfl) fun _ _ _ _ => trivial
  interned e text := gains_internText core e text.bytes (fun _ => rfl) fun _ _ hl ht => ⟨hl, ht⟩
  release e p m s hs := by
    rw [Engine.release_run]
    exact hs.free rfl (subset_calls_called s _ _ _) rfl fun b hb => ⟨lookup_filter_ne _ hb, rfl⟩
  releaseText e t m s hs := by
    rw [Engine.releaseText_run]
    exact hs.free rfl (subset_calls_called s _ _ _) rfl fun b hb => ⟨rfl, lookup_filter_ne _ hb⟩
  bound_iff _ _ _ _ := ⟨fun hs => hs.exchange rfl id, fun hs => hs.exchange rfl id⟩
  unwrapped _ _ _ _ _ hs := hs.exchange rfl fun _ => trivial
  resized _ _ _ _ hs := hs.exchange rfl fun _ => trivial

end RegexHost.Linked

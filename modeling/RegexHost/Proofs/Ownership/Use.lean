import Mathlib.Data.List.Induction
import Mathlib.Data.List.Nodup
import RegexHost.Engine.Host

/-! What a record of native calls says of handles: where each one was made, where it was passed and
where it was freed. -/
namespace RegexHost

inductive HandleKind
  | pattern
  | text
  deriving DecidableEq, Repr

structure Handle where
  engine : EngineId
  kind : HandleKind
  address : Nat
  deriving DecidableEq, Repr

inductive Use
  | made (h : Handle)
  | passed (h : Handle)
  | freed (h : Handle)
  deriving DecidableEq, Repr

/-- The export that is called tells the kind of the handle, and its library tells the engine. -/
def Call.uses (e : EngineId) : Call → List Use
  | compile _ reply => reply.handle.toList.map fun a => .made ⟨e, .pattern, a⟩
  | createString _ reply => reply.handle.toList.map fun a => .made ⟨e, .text, a⟩
  | search p .. => [.passed ⟨e, .pattern, p⟩]
  | searchString p t .. => [.passed ⟨e, .pattern, p⟩, .passed ⟨e, .text, t⟩]
  | freeRegex p => [.freed ⟨e, .pattern, p⟩]
  | freeString t => [.freed ⟨e, .text, t⟩]
  | freeCaptures _ | freeError _ => []

def uses (calls : List (EngineId × Call)) : List Use :=
  calls.flatMap fun c => c.2.uses c.1

theorem uses_append (calls more : List (EngineId × Call)) :
    uses (calls ++ more) = uses calls ++ uses more :=
  List.flatMap_append

namespace Use

def made? : Use → Option Handle
  | made h => some h
  | passed _ | freed _ => none

/-- The handle that has to be there for the use. -/
def needs? : Use → Option Handle
  | made _ => none
  | passed h | freed h => some h

end Use

def madeIn (us : List Use) : List Handle :=
  us.filterMap Use.made?

def liveIn (us : List Use) : List Handle :=
  (madeIn us).filter fun h => .freed h ∉ us

/-- No handle is made at the address of an earlier one. -/
def Fresh (us : List Use) : Prop :=
  ((madeIn us).map Handle.address).Nodup

/-- Each handle is made before it is used, and is not used after it was freed. -/
def Sound (us : List Use) : Prop :=
  ∀ before u, before ++ [u] <+: us → ∀ h, u.needs? = some h → .made h ∈ before ∧ .freed h ∉ before

instance (us : List Use) : Decidable (Fresh us) :=
  inferInstanceAs (Decidable (List.Nodup _))

variable {us more : List Use} {h h' : Handle} {u : Use}

@[simp] theorem mem_madeIn : h ∈ madeIn us ↔ .made h ∈ us := by
  rw [madeIn, List.mem_filterMap]
  constructor
  · rintro ⟨u, hu, hh⟩
    cases u with
    | made h' =>
      cases hh
      exact hu
    | passed h' => cases hh
    | freed h' => cases hh
  · exact fun hh => ⟨_, hh, rfl⟩

@[simp] theorem mem_liveIn : h ∈ liveIn us ↔ .made h ∈ us ∧ .freed h ∉ us := by
  simp [liveIn]

theorem madeIn_append : madeIn (us ++ more) = madeIn us ++ madeIn more :=
  List.filterMap_append

namespace Fresh

theorem of_prefix (hf : Fresh more) (hp : us <+: more) : Fresh us := by
  obtain ⟨rest, rfl⟩ := hp
  rw [Fresh, madeIn_append, List.map_append] at hf
  exact List.Nodup.of_append_left hf

theorem nodup (hf : Fresh us) : (liveIn us).Nodup :=
  (List.Nodup.of_map _ hf).filter _

/-- Engines and kinds share the addresses. -/
theorem eq (hf : Fresh us) (hh : .made h ∈ us) (hh' : .made h' ∈ us) (ha : h.address = h'.address) :
    h = h' :=
  List.inj_on_of_nodup_map hf (mem_madeIn.mpr hh) (mem_madeIn.mpr hh') ha

theorem notMem_of_append (hf : Fresh (us ++ [.made h])) : .made h ∉ us := by
  intro hh
  rw [Fresh, madeIn_append, List.map_append] at hf
  exact List.disjoint_of_nodup_append hf (List.mem_map_of_mem (mem_madeIn.mpr hh))
    (List.mem_singleton.mpr rfl)

end Fresh

namespace Sound

theorem nil : Sound [] := by
  intro before u hp
  exact absurd (List.prefix_nil.mp hp)
    (List.append_ne_nil_of_right_ne_nil _ (List.cons_ne_nil u []))

theorem append (hs : Sound us) (hu : ∀ h, u.needs? = some h → .made h ∈ us ∧ .freed h ∉ us) :
    Sound (us ++ [u]) := by
  intro before v hp
  rcases List.prefix_concat_iff.mp hp with he | hp
  · obtain ⟨rfl, hv⟩ := List.append_inj' he rfl
    obtain rfl := List.singleton_inj.mp hv
    exact hu
  · exact hs before v hp

theorem of_prefix (hs : Sound more) (hp : us <+: more) : Sound us :=
  fun before u hb => hs before u (hb.trans hp)

/-- What was used was made. -/
theorem made_of_mem (hs : Sound us) (hu : u ∈ us) (hh : u.needs? = some h) : .made h ∈ us := by
  obtain ⟨before, after, rfl⟩ := List.append_of_mem hu
  have hp : before ++ [u] <+: before ++ u :: after := ⟨after, by simp⟩
  exact List.mem_append_left _ (hs before u hp h hh).1

theorem count_freed_le (hs : Sound us) (h : Handle) : us.count (.freed h) ≤ 1 := by
  induction us using List.reverseRecOn with
  | nil => exact Nat.zero_le 1
  | append_singleton us u ih =>
    rw [List.count_append, List.count_singleton]
    split_ifs with hu
    · rw [beq_iff_eq] at hu
      have hn := (hs us u (List.prefix_refl _) h (hu ▸ rfl)).2
      exact Nat.le_of_eq (congrArg (· + 1) (List.count_eq_zero_of_not_mem hn))
    · exact ih (hs.of_prefix (List.prefix_append us [u]))

/-- A handle that is made is freed exactly once, unless it lives on. -/
theorem count_freed (hs : Sound us) (hh : .made h ∈ us) :
    us.count (.freed h) = if h ∈ liveIn us then 0 else 1 := by
  split_ifs with hl
  · exact List.count_eq_zero_of_not_mem (mem_liveIn.mp hl).2
  · have hf : .freed h ∈ us := by
      by_contra hf
      exact hl (mem_liveIn.mpr ⟨hh, hf⟩)
    have := hs.count_freed_le h
    have := List.count_pos_iff.mpr hf
    omega

end Sound

theorem liveIn_append_made (hs : Sound us) (hf : Fresh (us ++ [.made h])) :
    liveIn (us ++ [.made h]) = liveIn us ++ [h] := by
  have hn : .freed h ∉ us := fun hh => hf.notMem_of_append (hs.made_of_mem hh rfl)
  simp [liveIn, madeIn, Use.made?, hn]

theorem liveIn_append_passed : liveIn (us ++ [.passed h]) = liveIn us := by
  simp [liveIn, madeIn, Use.made?]

theorem liveIn_append_freed : liveIn (us ++ [.freed h]) = (liveIn us).filter (· ≠ h) := by
  simp [liveIn, madeIn, Use.made?, List.filter_filter, and_comm]

end RegexHost

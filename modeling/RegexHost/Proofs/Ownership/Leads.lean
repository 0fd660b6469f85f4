import RegexHost.Proofs.Ownership.Kept

/-! What the actions of a session lead to, taken apart one action after the other. -/
namespace RegexHost.Session

open Host (Asks)

variable {σ α β : Type}

/-- From here the action ends, without asking a wrapper for a handle that is not there, and as `Q`
says. -/
def Leads (m : Run σ α) (s : State) (h : HostState σ) (Q : α → State → HostState σ → Prop) : Prop :=
  ∃ a s' h', (m.run.run s).run h = ((some a, s'), h') ∧ Q a s' h'

namespace Leads

variable {s : State} {h : HostState σ} {Q : α → State → HostState σ → Prop}

theorem pure {a : α} (hq : Q a s h) : Leads (Pure.pure a) s h Q :=
  ⟨a, s, h, rfl, hq⟩

theorem bind {m : Run σ α} {f : α → Run σ β} {Q : β → State → HostState σ → Prop}
    (hm : Leads m s h fun a s' h' => Leads (f a) s' h' Q) : Leads (m >>= f) s h Q := by
  obtain ⟨a, s', h', hrun, b, s'', h'', hrun', hq⟩ := hm
  refine ⟨b, s'', h'', ?_, hq⟩
  rw [OptionT.run_bind, Option.elimM, StateT.run_bind, StateT.run_bind, hrun]
  exact hrun'

theorem mono {m : Run σ α} {Q' : α → State → HostState σ → Prop} (hm : Leads m s h Q)
    (hq : ∀ a s' h', Q a s' h' → Q' a s' h') : Leads m s h Q' := by
  obtain ⟨a, s', h', hrun, ha⟩ := hm
  exact ⟨a, s', h', hrun, hq a s' h' ha⟩

theorem lift {x : Host σ α} (hq : Q (x.run h).1 s (x.run h).2) : Leads (liftM x) s h Q :=
  ⟨_, s, _, rfl, hq⟩

theorem ask {x : Host σ (Option α)} {hs : List Handle} (hx : Asks x hs)
    (hq : ∀ a, Q a s (x.run h).2) : Leads (Session.ask x) s h Q := by
  obtain ⟨a, ha⟩ := Option.isSome_iff_exists.mp (hx.answers h)
  have hrun : ((Session.ask x).run.run s).run h = (((x.run h).1, s), (x.run h).2) := rfl
  exact ⟨a, s, (x.run h).2, by rw [hrun, ha], hq a⟩

theorem forget {name : String} {Q : Unit → State → HostState σ → Prop}
    (hq : Q () (s.without name) h) : Leads (Session.forget name) s h Q :=
  ⟨(), _, h, rfl, hq⟩

section

variable {Q : Answer → State → HostState σ → Prop}

theorem withEngine {i : Nat} {f : Engine → Run σ Answer} (hu : Q .unknown s h)
    (hf : ∀ e, s.engines[i]? = some e → Leads (f e) s h Q) :
    Leads (Session.withEngine i f) s h Q := by
  refine bind ⟨s, s, h, rfl, ?_⟩
  dsimp only
  cases he : s.engines[i]? with
  | none => exact pure hu
  | some e => exact hf e he

variable {name : String}

theorem withPattern {f : PatternHandle → Run σ Answer} (hu : Q .unknown s h)
    (hf : ∀ p, s.items.lookup name = some (.pattern p) → Leads (f p) s h Q) :
    Leads (Session.withPattern name f) s h Q := by
  refine bind ⟨s.items.lookup name, s, h, rfl, ?_⟩
  rcases hl : s.items.lookup name with _ | r | t | p | t
  all_goals first | exact hf _ hl | exact pure hu

theorem withText {f : TextHandle → Run σ Answer} (hu : Q .unknown s h)
    (hf : ∀ t, s.items.lookup name = some (.text t) → Leads (f t) s h Q) :
    Leads (Session.withText name f) s h Q := by
  refine bind ⟨s.items.lookup name, s, h, rfl, ?_⟩
  rcases hl : s.items.lookup name with _ | r | t | p | t
  all_goals first | exact hf _ hl | exact pure hu

theorem withRegex {f : ScopedRegex → Run σ Answer} (hu : Q .unknown s h)
    (hf : ∀ r, s.items.lookup name = some (.regex r) → Leads (f r) s h Q) :
    Leads (Session.withRegex name f) s h Q := by
  refine bind ⟨s.items.lookup name, s, h, rfl, ?_⟩
  rcases hl : s.items.lookup name with _ | r | t | p | t
  all_goals first | exact hf _ hl | exact pure hu

theorem withInterned {f : ScopedText → Run σ Answer} (hu : Q .unknown s h)
    (hf : ∀ t, s.items.lookup name = some (.interned t) → Leads (f t) s h Q) :
    Leads (Session.withInterned name f) s h Q := by
  refine bind ⟨s.items.lookup name, s, h, rfl, ?_⟩
  rcases hl : s.items.lookup name with _ | r | t | p | t
  all_goals first | exact hf _ hl | exact pure hu

end

end Leads

end RegexHost.Session

import RegexHost.Proofs.Ownership.Kept

/-! Invariants of sessions, properties of the items that are held and of the host. What engines keep
while handles are made, passed and released, every step of a session keeps. -/
namespace RegexHost

variable {σ α β : Type}

namespace Host

/-- From a state with the property the action leads to one with the property. -/
def Keeps (P : HostState σ → Prop) (x : Host σ α) : Prop :=
  ∀ h, P h → P (x.run h).2

namespace Keeps

variable {P : HostState σ → Prop}

theorem pure (a : α) : Keeps P (Pure.pure a : Host σ α) :=
  fun _ hp => hp

theorem bind {x : Host σ α} {f : α → Host σ β} (hx : Keeps P x) (hf : ∀ a, Keeps P (f a)) :
    Keeps P (x >>= f) :=
  fun h hp => hf (x.run h).1 (x.run h).2 (hx h hp)

end Keeps
end Host

open Host (Keeps)

/-- Every search of every engine keeps the property. -/
structure Libraries.Keep (libs : Libraries σ) (P : HostState σ → Prop) : Prop where
  search : ∀ (e : Engine) p text offset options, Keeps P (e.search libs p text offset options)
  searchText : ∀ (e : Engine) p t offset options, Keeps P (e.searchText libs p t offset options)

namespace Libraries.Keep

variable {libs : Libraries σ} {P : HostState σ → Prop} (hl : libs.Keep P)
include hl

theorem regexSearch (r : Regex) (text : UnitText) (offset : Nat) (options : SearchOptions) :
    Keeps P (r.search libs text offset options) := by
  unfold Regex.search
  cases Regex.startOf text offset with
  | error f => exact .pure _
  | ok start => exact (hl.search r.engine r.handle text.bytes start options).bind fun _ => .pure _

theorem regexSearchInterned (r : Regex) (t : InternedText) (offset : Nat)
    (options : SearchOptions) : Keeps P (r.searchInterned libs t offset options) := by
  unfold Regex.searchInterned
  split_ifs
  · exact .pure _
  · cases Regex.startOf t.text offset with
    | error f => exact .pure _
    | ok start =>
      exact (hl.searchText r.engine r.handle t.handle start options).bind fun _ => .pure _

theorem findFrom (r : Regex) (text : UnitText) (options : SearchOptions) (turns offset : Nat) :
    Keeps P (r.findFrom libs text options turns offset) := by
  induction turns generalizing offset with
  | zero => exact .pure _
  | succ turns ih =>
    unfold Regex.findFrom
    split_ifs
    · exact .pure _
    · refine (hl.regexSearch r text offset options).bind fun found => ?_
      rcases found with f | _ | m
      · exact .pure _
      · exact .pure _
      · dsimp only
        cases m.whole?.bind Capture.range? with
        | none => exact .pure _
        | some range => exact (ih _).bind fun _ => .pure _

theorem scopedSearch (r : ScopedRegex) (text : UnitText) (offset : Nat) (options : SearchOptions) :
    Keeps P (r.search libs text offset options) := by
  unfold ScopedRegex.search
  cases Regex.startOf text offset with
  | error f => exact .pure _
  | ok start =>
    cases r.regex? with
    | none => exact .pure _
    | some x => exact (hl.regexSearch x text offset options).bind fun _ => .pure _

theorem scopedSearchBytes (r : ScopedRegex) (text : Bytes) (offset : Nat)
    (options : SearchOptions) : Keeps P (r.searchBytes libs text offset options) := by
  unfold ScopedRegex.searchBytes
  cases r.regex? with
  | none => exact .pure _
  | some x => exact (hl.search x.engine x.handle text offset options).bind fun _ => .pure _

theorem scopedSearchInterned (r : ScopedRegex) (t : ScopedText) (offset : Nat)
    (options : SearchOptions) : Keeps P (r.searchInterned libs t offset options) := by
  unfold ScopedRegex.searchInterned
  split_ifs
  · exact .pure _
  · cases Regex.startOf t.text offset with
    | error f => exact .pure _
    | ok start =>
      cases r.regex? with
      | none => exact .pure _
      | some x =>
        cases t.interned? with
        | none => exact .pure _
        | some u => exact (hl.regexSearchInterned x u offset options).bind fun _ => .pure _

theorem scopedFindAll (r : ScopedRegex) (text : UnitText) (options : SearchOptions) (turns : Nat) :
    Keeps P (r.findAll libs text options turns) := by
  unfold ScopedRegex.findAll
  cases r.regex? with
  | none => exact .pure _
  | some x => exact (hl.findFrom x text options turns 0).bind fun _ => .pure _

end Libraries.Keep

namespace Session

/-- Wherever the action stops, `J` holds; and if it ends, what it returns is as `Q` says. -/
def Ends (J : State → HostState σ → Prop) (m : Run σ α) (s : State) (h : HostState σ)
    (Q : α → State → HostState σ → Prop) : Prop :=
  let r := (m.run.run s).run h
  r.1.1.elim (J r.1.2 r.2) fun a => Q a r.1.2 r.2

namespace Ends

variable {J : State → HostState σ → Prop} {s : State} {h : HostState σ}
  {Q : α → State → HostState σ → Prop}

theorem pure {a : α} (hq : Q a s h) : Ends J (Pure.pure a) s h Q :=
  hq

theorem bind {m : Run σ α} {f : α → Run σ β} {Q : β → State → HostState σ → Prop}
    (hm : Ends J m s h fun a s' h' => Ends J (f a) s' h' Q) : Ends J (m >>= f) s h Q := by
  unfold Ends at hm ⊢
  rw [OptionT.run_bind, Option.elimM, StateT.run_bind, StateT.run_bind]
  generalize (m.run.run s).run h = r at hm ⊢
  obtain ⟨⟨_ | a, s'⟩, h'⟩ := r
  · exact hm
  · exact hm

theorem mono {m : Run σ α} {Q' : α → State → HostState σ → Prop} (hm : Ends J m s h Q)
    (hq : ∀ a s' h', Q a s' h' → Q' a s' h') : Ends J m s h Q' := by
  unfold Ends at hm ⊢
  generalize (m.run.run s).run h = r at hm ⊢
  obtain ⟨⟨_ | a, s'⟩, h'⟩ := r
  · exact hm
  · exact hq a s' h' hm

theorem lift {x : Host σ α} (hq : Q (x.run h).1 s (x.run h).2) : Ends J (liftM x) s h Q :=
  hq

theorem state {f : State → Run σ α} (hf : Ends J (f s) s h Q) : Ends J (get >>= f) s h Q :=
  bind hf

theorem ask {x : Host σ (Option α)} (hj : J s (x.run h).2) (hq : ∀ a, Q a s (x.run h).2) :
    Ends J (Session.ask x) s h Q := by
  change (x.run h).1.elim (J s (x.run h).2) fun a => Q a s (x.run h).2
  cases (x.run h).1 with
  | none => exact hj
  | some a => exact hq a

theorem forget {name : String} {Q : Unit → State → HostState σ → Prop}
    (hq : Q () (s.without name) h) : Ends J (Session.forget name) s h Q :=
  hq

section

variable {Q : Answer → State → HostState σ → Prop} {name : String}

theorem withItem {f : Option Item → Run σ Answer} (hf : Ends J (f (s.items.lookup name)) s h Q) :
    Ends J (item? name >>= f) s h Q :=
  bind hf

variable (hu : Q .unknown s h)
include hu

theorem withEngine {i : Nat} {f : Engine → Run σ Answer} (hf : ∀ e, Ends J (f e) s h Q) :
    Ends J (Session.withEngine i f) s h Q := by
  refine state ?_
  cases s.engines[i]? with
  | none => exact hu
  | some e => exact hf e

theorem withPattern {f : PatternHandle → Run σ Answer}
    (hf : ∀ p, s.items.lookup name = some (.pattern p) → Ends J (f p) s h Q) :
    Ends J (Session.withPattern name f) s h Q := by
  refine withItem ?_
  rcases hl : s.items.lookup name with _ | r | t | p | t
  all_goals first | exact hf _ hl | exact hu

theorem withText {f : TextHandle → Run σ Answer}
    (hf : ∀ t, s.items.lookup name = some (.text t) → Ends J (f t) s h Q) :
    Ends J (Session.withText name f) s h Q := by
  refine withItem ?_
  rcases hl : s.items.lookup name with _ | r | t | p | t
  all_goals first | exact hf _ hl | exact hu

theorem withRegex {f : ScopedRegex → Run σ Answer}
    (hf : ∀ r, s.items.lookup name = some (.regex r) → Ends J (f r) s h Q) :
    Ends J (Session.withRegex name f) s h Q := by
  refine withItem ?_
  rcases hl : s.items.lookup name with _ | r | t | p | t
  all_goals first | exact hf _ hl | exact hu

theorem withInterned {f : ScopedText → Run σ Answer}
    (hf : ∀ t, s.items.lookup name = some (.interned t) → Ends J (f t) s h Q) :
    Ends J (Session.withInterned name f) s h Q := by
  refine withItem ?_
  rcases hl : s.items.lookup name with _ | r | t | p | t
  all_goals first | exact hf _ hl | exact hu

end

end Ends

variable {K : Multiset Item → HostState σ → Prop} {m hand : Multiset Item} {s : State}
  {h h' : HostState σ} {name : String} {i j : Item}

/-- Where the action succeeds, what it makes is held too. -/
def Gains (K : Multiset Item → HostState σ → Prop) (x : Host σ (Except Error α))
    (item : α → Item) : Prop :=
  ∀ m h, K m h → (x.run h).1.toOption.elim (K m (x.run h).2) fun a => K (item a ::ₘ m) (x.run h).2

/-- What makes a wrapper gains it. -/
theorem Gains.bind {x : Host σ (Except Error α)} {item : α → Item} (hx : Gains K x item)
    {g : Except Error α → Host σ (Except Error β)} {f : α → β} {item' : β → Item}
    (hok : ∀ a, g (.ok a) = pure (.ok (f a))) (herror : ∀ e, g (.error e) = pure (.error e))
    (hi : ∀ a m h, K (item a ::ₘ m) h → K (item' (f a) ::ₘ m) h) : Gains K (x >>= g) item' := by
  intro m h hk
  have hrun : (x >>= g).run h = (g (x.run h).1).run (x.run h).2 := rfl
  have hx := hx m h hk
  rw [hrun]
  cases hr : (x.run h).1 with
  | error f =>
    rw [hr] at hx
    rw [herror]
    exact hx
  | ok a =>
    rw [hr] at hx
    rw [hok]
    exact hi a m _ hx

/-- What has to be shown of engines for sessions to have an invariant. Items may be lost, and are
bound to engines and taken back without a call. -/
structure Invariant (libs : Libraries σ) (K : Multiset Item → HostState σ → Prop) : Prop where
  less : ∀ {m m' h}, m ≤ m' → K m' h → K m h
  searches : ∀ m, libs.Keep (K m)
  compile : ∀ (e : Engine) pattern, Gains K (e.compile libs pattern) .pattern
  internText : ∀ (e : Engine) text, Gains K (e.internText libs text) .text
  interned : ∀ (e : Engine) (text : UnitText),
    Gains K (e.internText libs text.bytes) fun t => .interned ⟨e, some t, text⟩
  release : ∀ (e : Engine) p m h, K (.pattern p ::ₘ m) h → K m ((e.release libs p).run h).2
  releaseText : ∀ (e : Engine) t m h, K (.text t ::ₘ m) h → K m ((e.releaseText libs t).run h).2
  bound_iff : ∀ e p m h, K (.regex ⟨e, some p⟩ ::ₘ m) h ↔ K (.pattern p ::ₘ m) h
  unwrapped : ∀ e t text m h, K (.interned ⟨e, some t, text⟩ ::ₘ m) h → K (.text t ::ₘ m) h
  resized : ∀ t length m h, K (.text t ::ₘ m) h → K (.text ⟨t.address, length⟩ ::ₘ m) h

/-- The session has its items and, for a moment, some in hand, and they have the property. -/
structure Holds (K : Multiset Item → HostState σ → Prop) (hand : Multiset Item) (s : State)
    (h : HostState σ) : Prop where
  sorted : Sorted s.items
  holds : K (hand + s.held) h

namespace Holds

theorem start (engines : List Engine) (hk : K 0 h) : Holds K 0 ⟨engines, []⟩ h :=
  ⟨.nil, hk⟩

theorem keeps {x : Host σ α} (hs : Holds K hand s h) (hx : ∀ m, Keeps (K m) x) :
    Holds K hand s (x.run h).2 :=
  ⟨hs.sorted, hx _ h hs.holds⟩

theorem take (hs : Holds K 0 s h) (hl : s.items.lookup name = some i) :
    Holds K {i} (s.without name) h where
  sorted := hs.sorted.filter _
  holds := by
    have hp : i ::ₘ (s.without name).held = s.held :=
      Multiset.coe_eq_coe.mpr (filter_perm hs.sorted hl)
    rw [Multiset.singleton_add, hp, ← Multiset.zero_add s.held]
    exact hs.holds

theorem exchange (hs : Holds K {i} s h) (hij : ∀ m, K (i ::ₘ m) h → K (j ::ₘ m) h) :
    Holds K {j} s h where
  sorted := hs.sorted
  holds := by
    rw [Multiset.singleton_add]
    exact hij _ hs.holds

theorem put (hs : Holds K {i} s h) (name : String) :
    Holds K ↑(s.items.lookup name).toList (s.keeping name i) h where
  sorted := hs.sorted.insertItem name i
  holds := by
    have hp : ↑(s.items.lookup name).toList + (s.keeping name i).held = i ::ₘ s.held := by
      rw [State.held, Multiset.coe_add]
      exact Multiset.coe_eq_coe.mpr (insertItem_perm hs.sorted name i)
    rw [hp]
    exact hs.holds

theorem release (hs : Holds K {i} s h) (hi : ∀ m, K (i ::ₘ m) h → K m h') : Holds K 0 s h' where
  sorted := hs.sorted
  holds := by
    rw [Multiset.zero_add]
    exact hi _ hs.holds

theorem ends_ask {x : Host σ (Option α)} (hs : Holds K 0 s h) (hx : ∀ m, Keeps (K m) x)
    (answer : α → Answer) :
    Ends (Holds K 0) (ask x >>= fun a => pure (answer a)) s h fun _ => Holds K 0 :=
  .bind (.ask (hs.keeps hx) fun _ => hs.keeps hx)

end Holds

namespace Invariant

section

variable {libs : Libraries σ}

/-- An invariant that says nothing of items. -/
theorem of_host {P : HostState σ → Prop} (hs : libs.Keep P)
    (hc : ∀ (e : Engine) pattern, Keeps P (e.compile libs pattern))
    (ht : ∀ (e : Engine) text, Keeps P (e.internText libs text))
    (hr : ∀ (e : Engine) p, Keeps P (e.release libs p))
    (hrt : ∀ (e : Engine) t, Keeps P (e.releaseText libs t)) : Invariant libs fun _ => P := by
  have hgains {α : Type} {x : Host σ (Except Error α)} (hx : Keeps P x) (item : α → Item) :
      Gains (fun _ => P) x item := by
    intro m h hp
    cases (x.run h).1 <;> exact hx h hp
  exact {
    less := fun _ hp => hp
    searches := fun _ => hs
    compile := fun e pattern => hgains (hc e pattern) _
    internText := fun e text => hgains (ht e text) _
    interned := fun e text => hgains (ht e text.bytes) _
    release := fun e p _ h hp => hr e p h hp
    releaseText := fun e t _ h hp => hrt e t h hp
    bound_iff := fun _ _ _ _ => .rfl
    unwrapped := fun _ _ _ _ _ hp => hp
    resized := fun _ _ _ _ hp => hp }

variable (hi : Invariant libs K)
include hi

theorem makeRegex (e : Engine) (pattern : String) :
    Gains K (ScopedRegex.make libs e pattern) .regex := by
  have hr : Gains K (Regex.make libs e pattern) fun r => .regex ⟨r.engine, some r.handle⟩ :=
    (hi.compile e _).bind (f := Regex.mk e) (fun _ => rfl) (fun _ => rfl) fun p m h hk =>
      (hi.bound_iff e p m h).mpr hk
  exact hr.bind (fun _ => rfl) (fun _ => rfl) fun _ _ _ hk => hk

theorem makeText (e : Engine) (text : UnitText) :
    Gains K (ScopedText.make libs e text) .interned := by
  have ht : Gains K (InternedText.make libs e text)
      fun t => .interned ⟨t.engine, some t.handle, t.text⟩ :=
    (hi.interned e text).bind (f := fun t => InternedText.mk e t text) (fun _ => rfl) (fun _ => rfl)
      fun _ _ _ hk => hk
  exact ht.bind (fun _ => rfl) (fun _ => rfl) fun _ _ _ hk => hk

theorem drop (hk : K (i ::ₘ m) h) : K m ((dropItem libs i).run h).2 := by
  have hless := hi.less (Multiset.le_cons_self m i) hk
  cases i with
  | regex r =>
    obtain ⟨e, _ | p⟩ := r
    · exact hless
    · exact hi.release e p m h ((hi.bound_iff e p m h).mp hk)
  | interned t =>
    obtain ⟨e, _ | t, text⟩ := t
    · exact hless
    · exact hi.releaseText e t m h (hi.unwrapped e t text m h hk)
  | pattern p => exact hless
  | text t => exact hless

theorem dropAll {items : List (String × Item)} (hk : K (items.map Prod.snd : Multiset Item) h) :
    K 0 ((Session.dropAll libs items).run h).2 := by
  induction items generalizing h with
  | nil => exact hk
  | cons x rest ih => exact ih (hi.drop hk)

theorem forget (hs : Holds K hand s h) : Holds K 0 s h :=
  ⟨hs.sorted, hi.less (Multiset.add_le_add_right (Multiset.zero_le hand)) hs.holds⟩

theorem ends_keep (hs : Holds K {i} s h) (name : String) (answer : Answer) :
    Ends (Holds K 0) (do keep libs name i; return answer) s h fun _ => Holds K 0 := by
  have hp := hs.put name
  refine .bind (.state (.bind (m := set (s.keeping name i)) ?_))
  cases hl : s.items.lookup name with
  | none => exact hi.forget hp
  | some old =>
    rw [hl] at hp
    exact hp.release fun m hk => hi.drop hk

theorem ends_keepMade (hs : Holds K 0 s h) {x : Host σ (Except Error α)} {item : α → Item}
    (hx : Gains K x item) (name : String) (answer : α → Answer) :
    Ends (Holds K 0) (liftM x >>= fun made => keepMade libs made name item answer) s h fun _ =>
      Holds K 0 := by
  have hx := hx _ h hs.holds
  refine .bind (.lift ?_)
  cases hr : (x.run h).1 with
  | error f =>
    rw [hr] at hx
    exact ⟨hs.sorted, hx⟩
  | ok a =>
    rw [hr] at hx
    exact hi.ends_keep ⟨hs.sorted, Multiset.zero_add s.held ▸ hx⟩ name _

theorem ends_step (hs : Holds K 0 s h) (extra : Nat) (x : Step) :
    Ends (Holds K 0) (step libs extra x) s h fun _ => Holds K 0 := by
  cases x with
  | compile i name pattern =>
    exact .withEngine hs fun e => hi.ends_keepMade hs (hi.compile e pattern) name _
  | intern i name text =>
    exact .withEngine hs fun e => hi.ends_keepMade hs (hi.internText e text) name _
  | search i p text offset options =>
    exact .withEngine hs fun e => .withPattern hs fun y _ => .bind (.lift (.pure
      (hs.keeps fun m => (hi.searches m).search e y text offset options)))
  | searchText i p t offset options =>
    exact .withEngine hs fun e => .withPattern hs fun y _ => .withText hs fun z _ =>
      .bind (.lift (.pure (hs.keeps fun m => (hi.searches m).searchText e y z offset options)))
  | release i p =>
    exact .withEngine hs fun e => .withPattern hs fun y hl => .bind (.forget (.bind (.lift (.pure
      ((hs.take hl).release fun m hk => hi.release e y m h hk)))))
  | releaseText i t =>
    exact .withEngine hs fun e => .withText hs fun y hl => .bind (.forget (.bind (.lift (.pure
      ((hs.take hl).release fun m hk => hi.releaseText e y m h hk)))))
  | remake p name =>
    exact .withPattern hs fun y hl => .bind (.forget (hi.ends_keep (hs.take hl) name .done))
  | remakeText t name length =>
    exact .withText hs fun y hl => .bind (.forget
      (hi.ends_keep ((hs.take hl).exchange fun m hk => hi.resized y _ m h hk) name .done))
  | nullHandles => exact hs
  | describe i => exact .withEngine hs fun e => hs
  | regex i name pattern =>
    exact .withEngine hs fun e => hi.ends_keepMade hs (hi.makeRegex e pattern) name _
  | adopt i p name =>
    exact .withEngine hs fun e => .withPattern hs fun y hl => .bind (.forget
      (hi.ends_keep ((hs.take hl).exchange fun m hk => (hi.bound_iff e y m h).mpr hk) name .done))
  | giveUp r name =>
    refine .withRegex hs fun x hl => .bind (.forget (.bind ?_))
    have hx := hs.take hl
    obtain ⟨e, _ | p⟩ := x
    · exact hi.forget hx
    · exact hi.ends_keep (hx.exchange fun m hk => (hi.bound_iff e p m h).mp hk) name .done
  | interned i name text =>
    exact .withEngine hs fun e => hi.ends_keepMade hs (hi.makeText e text) name _
  | find r text offset options =>
    exact .withRegex hs fun x _ =>
      hs.ends_ask (fun m => (hi.searches m).scopedSearch x text offset options) _
  | findBytes r text offset options =>
    exact .withRegex hs fun x _ =>
      hs.ends_ask (fun m => (hi.searches m).scopedSearchBytes x text offset options) _
  | findInterned r t offset options =>
    exact .withRegex hs fun x _ => .withInterned hs fun u _ =>
      hs.ends_ask (fun m => (hi.searches m).scopedSearchInterned x u offset options) _
  | findAll r text options =>
    refine .withRegex hs fun x _ => .bind ?_
    have hx := hs.keeps fun m => (hi.searches m).scopedFindAll x text options
      (text.length + extra + 2)
    refine .ask hx fun ms => ?_
    rcases ms with _ | _ | ms <;> exact hx
  | drop name =>
    refine .withItem ?_
    cases hl : s.items.lookup name with
    | none => exact hs
    | some i =>
      exact .bind (.forget (.bind (.lift (.pure ((hs.take hl).release fun m hk => hi.drop hk)))))

theorem ends_steps (hs : Holds K 0 s h) (extra : Nat) (steps : List Step) :
    Ends (Holds K 0) (steps.mapM (step libs extra)) s h fun _ => Holds K 0 := by
  induction steps generalizing s h with
  | nil => exact hs
  | cons x steps ih =>
    rw [List.mapM_cons]
    exact .bind ((hi.ends_step hs extra x).mono fun _ _ _ hs =>
      .bind ((ih hs).mono fun _ _ _ hs => hs))

/-- Wherever the steps stop, the invariant holds. -/
theorem holds_steps (hs : Holds K 0 s h) (extra : Nat) (steps : List Step) :
    Holds K 0 (((steps.mapM (step libs extra)).run.run s).run h).1.2
      (((steps.mapM (step libs extra)).run.run s).run h).2 := by
  have he := hi.ends_steps hs extra steps
  unfold Ends at he
  generalize ((steps.mapM (step libs extra)).run.run s).run h = r at he ⊢
  obtain ⟨⟨_ | a, s'⟩, h'⟩ := r
  · exact he
  · exact he

theorem holds_run (extra : Nat) (engines : List Engine) (steps : List Step) {libraries : σ}
    (hk : K 0 ⟨libraries, []⟩) : K 0 ((run libs extra engines steps).run ⟨libraries, []⟩).2 := by
  have hs := (hi.holds_steps (.start engines hk) extra steps).holds
  rw [Multiset.zero_add] at hs
  exact hi.dropAll hs

end

end Invariant
end Session
end RegexHost

import RegexHost.Proofs.Ownership.Leads

/-! Whole sessions keep their accounts: each step does, so every session does, over any libraries
and with any failures. -/
namespace RegexHost.Session

open Host (Makes Asks)

variable {σ α : Type} (libs : Libraries σ) {base : List Use} {s : State} {h : HostState σ}
  {name : String}

/-- What an item leaves behind when its name goes to another. -/
def dropOld (old : Option Item) (h : HostState σ) : HostState σ :=
  match old with
  | some i => ((dropItem libs i).run h).2
  | none => h

theorem keep_run (name : String) (i : Item) (s : State) (h : HostState σ) :
    ((keep libs name i).run.run s).run h =
      ((some (), s.keeping name i), dropOld libs (s.items.lookup name) h) := by
  change ((match s.items.lookup name with
    | some old => liftM (dropItem libs old)
    | none => pure () : Run σ Unit).run.run (s.keeping name i)).run h = _
  cases s.items.lookup name <;> rfl

theorem Kept.leads_keep {i : Item} (hk : Kept base (i ::ₘ 0) s h) (hi : (i.handle? 0).isSome)
    (hs : s.spares name = true) (answer : Answer) :
    Leads (do keep libs name i; return answer) s h fun _ s' h' => Kept base 0 s' h' := by
  refine .bind ⟨(), _, _, keep_run libs name i s h, .pure ?_⟩
  have hkeep := hk.put hi name
  rw [Multiset.add_zero] at hkeep
  cases hl : s.items.lookup name with
  | none =>
    rw [hl] at hkeep
    exact hkeep
  | some old =>
    rw [hl] at hkeep
    exact (show Kept base (old ::ₘ 0) (s.keeping name i) h from hkeep).drop libs
      (State.spares_eq hs hl)

/-- Something new gets the name, or nothing is made. -/
theorem Kept.leads_keepMade (hk : Kept base 0 s h) (hs : s.spares name = true) {e : EngineId}
    {x : Host σ (Except Error α)} {item : α → Item} (hx : Makes e x item) (answer : α → Answer) :
    Leads (liftM x >>= fun made => keepMade libs made name item answer) s h fun _ s' h' =>
      Kept base 0 s' h' := by
  refine .bind (.lift ?_)
  rcases hx h with ⟨a, y, ha, hy, hu⟩ | ⟨f, hf, hu⟩
  · have hi : ((item a).handle? 0).isSome := by
      rw [Item.isSome_handle? _ 0 e, hy]
      rfl
    rw [ha]
    exact (hk.make (Item.owns_of_handle? hy) hu).leads_keep libs hi hs _
  · rw [hf]
    exact .pure (hk.of_uses_eq hu)

theorem Kept.leads_ask (hk : Kept base 0 s h) {x : Host σ (Option α)} {hs : List Handle}
    (hx : Asks x hs) (hlive : Fresh (uses h.calls) → ∀ y ∈ hs, y ∈ liveIn (uses h.calls))
    (answer : α → Answer) :
    Leads (ask x >>= fun a => pure (answer a)) s h fun _ s' h' => Kept base 0 s' h' :=
  .bind (.ask hx fun _ => .pure (hk.pass hx.passes hlive))

/-- What a session may do of its own: it uses a raw handle only with the engine that has made it,
and does not lose it. -/
def Step.allowed (s : State) (us : List Use) : Step → Bool
  | .compile _ name _ | .intern _ name _ | .regex _ name _ | .interned _ name _ => s.spares name
  | .search i p _ _ _ | .release i p => s.fits us i p
  | .searchText i p t _ _ => s.fits us i p && s.fits us i t
  | .releaseText i t => s.fits us i t
  | .remake p name | .remakeText p name _ => (s.without p).spares name
  | .adopt i p name => s.fits us i p && (s.without p).spares name
  | .giveUp r name => (s.without r).spares name
  | .drop name => s.spares name
  | .nullHandles | .describe _ | .find .. | .findBytes .. | .findInterned .. | .findAll .. => true

theorem Kept.leads_step (hk : Kept base 0 s h) (extra : Nat) {x : Step}
    (ha : x.allowed s (uses h.calls) = true) :
    Leads (step libs extra x) s h fun _ s' h' => Kept base 0 s' h' := by
  cases x with
  | compile i name pattern =>
    exact .withEngine hk fun e _ =>
      leads_keepMade libs hk ha (Engine.makes_compile libs e pattern) _
  | intern i name text =>
    exact .withEngine hk fun e _ =>
      leads_keepMade libs hk ha (Engine.makes_internText libs e text) _
  | search i p text offset options =>
    refine .withEngine hk fun e he => .withPattern hk fun y hl => .bind (.lift (.pure ?_))
    refine hk.pass (Engine.passes_search libs e y offset options text) fun hf => ?_
    exact List.forall_mem_singleton.mpr (hk.live_of_fits ha he hl rfl hf)
  | searchText i p t offset options =>
    refine .withEngine hk fun e he => .withPattern hk fun y hy => .withText hk fun z hz =>
      .bind (.lift (.pure ?_))
    obtain ⟨hp, ht⟩ := (Bool.and_eq_true _ _).mp ha
    refine hk.pass (Engine.passes_searchText libs e y offset options z) fun hf => ?_
    exact List.forall_mem_cons.mpr ⟨hk.live_of_fits hp he hy rfl hf,
      List.forall_mem_singleton.mpr (hk.live_of_fits ht he hz rfl hf)⟩
  | release i p =>
    refine .withEngine hk fun e he => .withPattern hk fun y hl =>
      .bind (.forget (.bind (.lift (.pure ?_))))
    exact (hk.take hl).free (Engine.frees_release libs e y) rfl (State.made_of_fits ha he hl rfl)
  | releaseText i t =>
    refine .withEngine hk fun e he => .withText hk fun y hl =>
      .bind (.forget (.bind (.lift (.pure ?_))))
    exact (hk.take hl).free (Engine.frees_releaseText libs e y) rfl
      (State.made_of_fits ha he hl rfl)
  | remake p name =>
    refine .withPattern hk fun y hl => .bind (.forget ?_)
    exact (hk.take hl).leads_keep libs rfl ha .done
  | remakeText t name length =>
    refine .withText hk fun y hl => .bind (.forget ?_)
    have hk :=
      (hk.take hl).exchange (j := .text ⟨y.address, length.getD y.length⟩) fun _ _ _ ho => ho
    exact hk.leads_keep libs rfl ha .done
  | nullHandles => exact .pure hk
  | describe i => exact .withEngine hk fun e _ => .pure hk
  | regex i name pattern =>
    exact .withEngine hk fun e _ =>
      leads_keepMade libs hk ha (ScopedRegex.makes_make libs e pattern) _
  | adopt i p name =>
    refine .withEngine hk fun e he => .withPattern hk fun y hl => .bind (.forget ?_)
    obtain ⟨hp, hn⟩ := (Bool.and_eq_true _ _).mp ha
    have hm : .made ⟨e.id, .pattern, y.address⟩ ∈ uses h.calls := State.made_of_fits hp he hl rfl
    have hk := (hk.take hl).exchange (j := .regex (.ofHandle e y)) fun hf x hx ho => by
      rw [← hf.eq hm (mem_liveIn.mp hx).1 (Item.Owns.address_eq (i := .pattern y) rfl ho)]
      rfl
    exact hk.leads_keep libs rfl hn .done
  | giveUp r name =>
    refine .withRegex hk fun x hl => .bind (.forget ?_)
    obtain ⟨e, p, rfl⟩ := hk.exists_regex hl
    refine .bind ⟨p, s.without r, h, rfl, ?_⟩
    have hk := (hk.take hl).exchange (j := .pattern p) fun _ x _ ho => by
      cases ho
      rfl
    exact hk.leads_keep libs rfl ha .done
  | interned i name text =>
    exact .withEngine hk fun e _ => leads_keepMade libs hk ha (ScopedText.makes_make libs e text) _
  | find r text offset options =>
    refine .withRegex hk fun x hl => ?_
    obtain ⟨e, p, rfl⟩ := hk.exists_regex hl
    refine hk.leads_ask (ScopedRegex.asks_search libs e p options text offset)
      (fun hf => ?_) ofSearch
    exact List.forall_mem_singleton.mpr (hk.live_of_wrapper hl rfl rfl hf)
  | findBytes r text offset options =>
    refine .withRegex hk fun x hl => ?_
    obtain ⟨e, p, rfl⟩ := hk.exists_regex hl
    refine hk.leads_ask (ScopedRegex.asks_searchBytes libs e p options text offset)
      (fun hf => ?_) ofSearch
    exact List.forall_mem_singleton.mpr (hk.live_of_wrapper hl rfl rfl hf)
  | findInterned r t offset options =>
    refine .withRegex hk fun x hl => .withInterned hk fun u hu => ?_
    obtain ⟨e, p, rfl⟩ := hk.exists_regex hl
    obtain ⟨y, hy⟩ := hk.exists_interned hu
    refine hk.leads_ask (ScopedRegex.asks_searchInterned libs e p options u hy offset)
      (fun hf => ?_) ofSearch
    refine List.forall_mem_cons.mpr ⟨hk.live_of_wrapper hl rfl rfl hf,
      List.forall_mem_singleton.mpr ?_⟩
    exact hk.live_of_wrapper hu rfl (congrArg (Option.map _) hy) hf
  | findAll r text options =>
    refine .withRegex hk fun x hl => ?_
    obtain ⟨e, p, rfl⟩ := hk.exists_regex hl
    have hx := ScopedRegex.asks_findAll libs e p options text (text.length + extra + 2)
    refine .bind (.ask hx fun found => ?_)
    have hk := hk.pass hx.passes fun hf =>
      List.forall_mem_singleton.mpr (hk.live_of_wrapper hl rfl rfl hf)
    rcases found with _ | _ | ms <;> exact .pure hk
  | drop name =>
    refine .bind ⟨s.items.lookup name, s, h, rfl, ?_⟩
    cases hl : s.items.lookup name with
    | none => exact .pure hk
    | some i =>
      refine .bind (.forget (.bind (.lift (.pure ?_))))
      exact (hk.take hl).drop libs (State.spares_eq ha hl)

/-- All steps of a session are allowed where they are taken. -/
def allowed (extra : Nat) : List Step → State → HostState σ → Bool
  | [], _, _ => true
  | x :: rest, s, h =>
    x.allowed s (uses h.calls) &&
      let ((_, s'), h') := ((step libs extra x).run.run s).run h
      allowed extra rest s' h'

/-- Some of the steps, and what is allowed after them. -/
theorem Kept.leads_steps (hk : Kept base 0 s h) (extra : Nat) (done rest : List Step)
    (ha : allowed libs extra (done ++ rest) s h = true) :
    Leads (done.mapM (step libs extra)) s h fun _ s' h' =>
      Kept base 0 s' h' ∧ allowed libs extra rest s' h' = true := by
  induction done generalizing s h with
  | nil => exact .pure ⟨hk, ha⟩
  | cons x done ih =>
    obtain ⟨hx, hdone⟩ := (Bool.and_eq_true _ _).mp ha
    obtain ⟨a, s', h', hrun, hk'⟩ := hk.leads_step libs extra hx
    rw [hrun] at hdone
    rw [List.mapM_cons]
    exact .bind ⟨a, s', h', hrun, .bind ((ih hk' hdone).mono fun _ _ _ hk => .pure hk)⟩

/-- What is dropped at the end frees its handles, and the raw ones remain. -/
theorem Kept.dropAll {items : List (String × Item)} {hand : Multiset Item}
    (hk : Kept base ((items.map Prod.snd : Multiset Item) + hand) s h) :
    Kept base ((items.map Prod.snd : Multiset Item).filter (·.isRaw) + hand) s
      ((Session.dropAll libs items).run h).2 := by
  induction items generalizing h hand with
  | nil => exact hk
  | cons x rest ih =>
    have hrun : ((Session.dropAll libs (x :: rest)).run h).2 =
      ((Session.dropAll libs rest).run ((dropItem libs x.2).run h).2).2 := rfl
    rw [List.map_cons, ← Multiset.cons_coe, Multiset.cons_add] at hk
    rw [hrun, List.map_cons, ← Multiset.cons_coe]
    cases hr : x.2.isRaw with
    | true =>
      have hu := frees_dropItem libs x.2 0 h
      rw [if_pos hr, List.map_nil, List.append_nil] at hu
      rw [Multiset.filter_cons_of_pos (p := fun i : Item => i.isRaw) _ hr, Multiset.cons_add,
        ← Multiset.add_cons]
      rw [← Multiset.add_cons] at hk
      exact ih (hk.of_uses_eq hu)
    | false =>
      rw [Multiset.filter_cons_of_neg (p := fun i : Item => i.isRaw) _ (Bool.eq_false_iff.mp hr)]
      exact ih (hk.drop libs hr)

def Step.constructs : Step → Bool
  | .compile .. | .intern .. | .regex .. | .interned .. => true
  | _ => false

theorem leads_failed_keepMade {e : EngineId} {x : Host σ (Except Error α)} {item : α → Item}
    (hx : Makes e x item) {answer : α → Answer} (hanswer : ∀ a f, answer a ≠ .error f)
    (name : String) (s : State) (h : HostState σ) :
    Leads (liftM x >>= fun made => keepMade libs made name item answer) s h fun a s' h' =>
      ∀ f, a = .error f → s' = s ∧ uses h'.calls = uses h.calls := by
  refine .bind (.lift ?_)
  rcases hx h with ⟨a, y, ha, -, -⟩ | ⟨f, hf, hu⟩
  · rw [ha]
    exact .bind ⟨(), _, _, keep_run libs name (item a) s _,
      .pure fun f hf => absurd hf (hanswer a f)⟩
  · rw [hf]
    exact .pure fun _ _ => ⟨rfl, hu⟩

/-- A construction that fails leaves no trace in the items or in the account. -/
theorem leads_failed {x : Step} (hx : x.constructs = true) (extra : Nat) (s : State)
    (h : HostState σ) :
    Leads (step libs extra x) s h fun a s' h' =>
      ∀ f, a = .error f → s' = s ∧ uses h'.calls = uses h.calls := by
  cases x with
  | compile i name pattern =>
    exact .withEngine nofun fun e _ =>
      leads_failed_keepMade libs (Engine.makes_compile libs e pattern) (by nofun) name s h
  | intern i name text =>
    exact .withEngine nofun fun e _ =>
      leads_failed_keepMade libs (Engine.makes_internText libs e text) (by nofun) name s h
  | regex i name pattern =>
    exact .withEngine nofun fun e _ =>
      leads_failed_keepMade libs (ScopedRegex.makes_make libs e pattern) (by nofun) name s h
  | interned i name text =>
    exact .withEngine nofun fun e _ =>
      leads_failed_keepMade libs (ScopedText.makes_make libs e text) (by nofun) name s h
  | _ => cases hx

/-- Where a session stands after some steps. -/
def Reaches (extra : Nat) (engines : List Engine) (libraries : σ) (steps : List Step)
    (answers : List Answer) (s : State) (h : HostState σ) : Prop :=
  ((steps.mapM (step libs extra)).run.run ⟨engines, []⟩).run ⟨libraries, []⟩ =
    ((some answers, s), h)

theorem run_eq_of_reaches {extra : Nat} {engines : List Engine} {libraries : σ} {steps : List Step}
    {answers : List Answer} (hr : Reaches libs extra engines libraries steps answers s h) :
    (run libs extra engines steps).run ⟨libraries, []⟩ =
      (some answers, ((dropAll libs s.items).run h).2) := by
  rw [run, StateT.run_bind, hr]
  rfl

/-- The calls up to any point of a session are the first ones of its record. -/
theorem exists_reaches_prefix (extra : Nat) (engines : List Engine) (libraries : σ)
    (done rest : List Step)
    (ha : allowed libs extra (done ++ rest) ⟨engines, []⟩ ⟨libraries, []⟩ = true) :
    ∃ answers s h, Reaches libs extra engines libraries done answers s h ∧ Kept [] 0 s h ∧
      uses h.calls <+:
        uses ((run libs extra engines (done ++ rest)).run ⟨libraries, []⟩).2.calls := by
  obtain ⟨answers, s, h, hrun, hk, hrest⟩ :=
    (Kept.start engines libraries).leads_steps libs extra done rest ha
  rw [← List.append_nil rest] at hrest
  obtain ⟨more, s', h', hmore, hk', -⟩ := hk.rebase.leads_steps libs extra rest [] hrest
  have hall : Reaches libs extra engines libraries (done ++ rest) (answers ++ more) s' h' := by
    rw [Reaches, List.mapM_append, OptionT.run_bind, Option.elimM, StateT.run_bind,
      StateT.run_bind, hrun]
    change
      ((rest.mapM (step libs extra) >>= fun more => pure (answers ++ more)).run.run s).run h = _
    rw [OptionT.run_bind, Option.elimM, StateT.run_bind, StateT.run_bind, hmore]
    rfl
  refine ⟨answers, s, h, hrun, hk, ?_⟩
  rw [run_eq_of_reaches libs hall]
  exact (hk'.giveAll.dropAll libs).since

/-- A session that is allowed never asks a wrapper for a handle that is not there. After any number
of its steps each live handle is that of one item, and a construction that fails changes nothing.
After the last drop the raw handles are what is left. -/
theorem run_accounted (extra : Nat) (engines : List Engine) (steps : List Step) (libraries : σ)
    (ha : allowed libs extra steps ⟨engines, []⟩ ⟨libraries, []⟩ = true)
    (hf : Fresh (uses ((run libs extra engines steps).run ⟨libraries, []⟩).2.calls)) :
    (∀ done, done <+: steps → ∃ answers s h, Reaches libs extra engines libraries done answers s h ∧
      Accounted s.held (uses h.calls) ∧
      ∀ x : Step, x.constructs = true → ∀ f s' h',
        ((step libs extra x).run.run s).run h = ((some (.error f), s'), h') →
        s' = s ∧ uses h'.calls = uses h.calls) ∧
    ∃ answers s h h', Reaches libs extra engines libraries steps answers s h ∧
      (run libs extra engines steps).run ⟨libraries, []⟩ = (some answers, h') ∧
      Accounted (s.held.filter (·.isRaw)) (uses h'.calls) := by
  constructor
  · rintro done ⟨rest, rfl⟩
    obtain ⟨answers, s, h, hr, hk, hp⟩ :=
      exists_reaches_prefix libs extra engines libraries done rest ha
    have hf := hf.of_prefix hp
    have hl := hk.ledger hf
    rw [Multiset.zero_add] at hl
    refine ⟨answers, s, h, hr, hl.accounted hf, ?_⟩
    intro x hx f s' h' hstep
    obtain ⟨a, t, g, hstep', hq⟩ := leads_failed libs hx extra s h
    rw [hstep] at hstep'
    cases hstep'
    exact hq f rfl
  · rw [← List.append_nil steps] at ha
    obtain ⟨answers, s, h, hr, hk, -⟩ :=
      exists_reaches_prefix libs extra engines libraries steps [] ha
    have hend := run_eq_of_reaches libs hr
    rw [hend] at hf
    have hl := (hk.giveAll.dropAll libs).ledger hf
    exact ⟨answers, s, h, _, hr, hend, Ledger.accounted (by simpa [State.held] using hl) hf⟩

/-- Two engines. The first one's text is searched with patterns of both, one pattern is given up and
released, and the second engine refuses a text. -/
def handover : List Step :=
  [.regex 0 "r" "a", .compile 1 "p" [], .adopt 1 "p" "q", .interned 0 "t" (.ofUnits [0x61]),
    .findInterned "r" "t" 0 .standard, .findInterned "q" "t" 0 .standard, .giveUp "r" "p",
    .release 0 "p", .interned 1 "u" (.ofUnits []), .drop "q"]

def handoverScript : Scripted.Script :=
  Scripted.begin [] [.handle, .refusal none] [⟨Native.matched, some [0, 1], none⟩]

theorem run_accounted_handover :
    ∃ answers h raw,
      (run (libraries fun _ => .scripted) 0 [⟨0, true⟩, ⟨1, true⟩] handover).run
        ⟨⟨.empty, handoverScript⟩, []⟩ = (some answers, h) ∧
      (∀ i ∈ raw, i.isRaw = true) ∧ Accounted raw (uses h.calls) := by
  obtain ⟨-, answers, s, -, h, -, hrun, hl⟩ :=
    run_accounted (libraries fun _ => .scripted) 0 [⟨0, true⟩, ⟨1, true⟩] handover
      ⟨.empty, handoverScript⟩ (by decide +kernel) (by decide +kernel)
  exact ⟨answers, h, _, hrun, fun i hi => (Multiset.mem_filter.mp hi).2, hl⟩

end RegexHost.Session

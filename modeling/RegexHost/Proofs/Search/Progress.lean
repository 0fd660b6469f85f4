import RegexHost.Proofs.Search.Checks
import RegexHost.Proofs.Search.Scan

/-! The searches by which all matches of a text are found. Each begins behind the one before it, so
there is an end to them, and no match reaches back over another one. -/
namespace RegexHost.Regex

variable {σ : Type}

/-- One search: where it began, in code units, and what it told. -/
structure Probe where
  offset : Nat
  result : Except Error (Option Match)

/-- The native search that a search in code units comes to. -/
def Probe.Asks (r : Regex) (options : SearchOptions) (t : UnitText) (p : Probe)
    (c : EngineId × Call) : Prop :=
  ∃ reply, c = (r.engine.id, .search r.handle.address t.bytes (t.byteOffset p.offset) options reply)

/-- The searches made from an offset on and what comes of them. A whole match leads on to another
search, and an error, no match or a match without a range is the end. -/
inductive Finds (libs : Libraries σ) (r : Regex) (options : SearchOptions) (t : UnitText) :
    Nat → HostState σ → List Probe → Except Error (List Match) → HostState σ → Prop
  | past {i : Nat} {s : HostState σ} (hi : t.length < i) : Finds libs r options t i s [] (.ok []) s
  | failed {i : Nat} {s s' : HostState σ} {f : Error} (hi : i ≤ t.length)
      (hs : (r.search libs t i options).run s = (.error f, s')) :
      Finds libs r options t i s [⟨i, .error f⟩] (.error f) s'
  | ended {i : Nat} {s s' : HostState σ} {found : Option Match} (hi : i ≤ t.length)
      (hs : (r.search libs t i options).run s = (.ok found, s'))
      (hn : ∀ m ∈ found, m.whole?.bind Capture.range? = none) :
      Finds libs r options t i s [⟨i, .ok found⟩] (.ok []) s'
  | found {i start stop : Nat} {s s' s'' : HostState σ} {m : Match} {probes : List Probe}
      {result : Except Error (List Match)} (hi : i ≤ t.length)
      (hs : (r.search libs t i options).run s = (.ok (some m), s'))
      (hw : m.whole?.bind Capture.range? = some (start, stop))
      (rest : Finds libs r options t (nextOffset t start stop) s' probes result s'') :
      Finds libs r options t i s (⟨i, .ok (some m)⟩ :: probes) (result.map (m :: ·)) s''

/-- One range after another: it begins and ends no earlier than the other one ends, and is not the
same. -/
def Follows (before after : Nat × Nat) : Prop :=
  before.2 ≤ after.1 ∧ before.2 ≤ after.2 ∧ before ≠ after

variable {libs : Libraries σ} {r : Regex} {options : SearchOptions} {t : UnitText}

theorem nextOffset_bounds (t : UnitText) (start stop : Nat) :
    min start stop < nextOffset t start stop ∧ stop ≤ nextOffset t start stop := by
  have hnext := Utf16.lt_next t.units stop
  unfold nextOffset
  split_ifs <;> omega

/-- What is found from the next offset on lies behind the match, and not in the same range. -/
theorem follows_of_nextOffset_le {start stop : Nat} {range : Nat × Nat}
    (hstart : nextOffset t start stop ≤ range.1) (hstop : nextOffset t start stop ≤ range.2) :
    Follows (start, stop) range := by
  obtain ⟨hmin, hle⟩ := nextOffset_bounds t start stop
  have hne : (start, stop) ≠ range := by
    rintro rfl
    dsimp only at hstart hstop
    omega
  exact ⟨le_trans hle hstart, le_trans hle hstop, hne⟩

theorem exists_of_inUnits_eq {inBytes : Except Error (Option Match)} {m : Match}
    (h : inUnits t inBytes = .ok (some m)) :
    ∃ m', inBytes = .ok (some m') ∧ m = m'.toUnits t.bytes := by
  rcases inBytes with f | _ | m'
  · cases h
  · cases h
  · cases h
    exact ⟨m', rfl, rfl⟩

/-- A match in code units lies at or behind the offset that was searched from. -/
theorem Advances.le_range (hm : r.Advances libs options t.bytes) {i start stop : Nat}
    (hi : i ≤ t.length) {s s' : HostState σ} {m : Match}
    (hs : (r.search libs t i options).run s = (.ok (some m), s'))
    (hw : m.whole?.bind Capture.range? = some (start, stop)) : i ≤ start ∧ i ≤ stop := by
  -- the step over a lone high surrogate can end inside a pair, so the search in bytes may begin at
  -- a later place
  obtain ⟨j, hij, hj⟩ := UnitText.Place.exists_byteOffset t hi
  rw [search_eq libs r options t hi, StateT.run_map] at hs
  obtain ⟨m', hbytes, rfl⟩ := exists_of_inUnits_eq (congrArg Prod.fst hs)
  cases hw' : m'.whole?.bind Capture.range? with
  | none =>
    rw [whole?_toUnits_none hw'] at hw
    cases hw
  | some range =>
    obtain ⟨k, n, hk, hn, hjk, hjn⟩ := hm.exists_places hj hbytes hw'
    rw [whole?_toUnits hk hn hw', Option.some.injEq, Prod.mk.injEq] at hw
    obtain ⟨rfl, rfl⟩ := hw
    omega

theorem Advances.lt_nextOffset (hm : r.Advances libs options t.bytes) {i start stop : Nat}
    (hi : i ≤ t.length) {s s' : HostState σ} {m : Match}
    (hs : (r.search libs t i options).run s = (.ok (some m), s'))
    (hw : m.whole?.bind Capture.range? = some (start, stop)) : i < nextOffset t start stop := by
  have hrange := hm.le_range hi hs hw
  have hnext := nextOffset_bounds t start stop
  omega

/-- The searches come to an end, from any offset and state. -/
theorem exists_finds (hm : r.Advances libs options t.bytes) (turns : Nat) {i : Nat}
    (hturns : t.length < i + turns)
    (s : HostState σ) : ∃ probes result s', Finds libs r options t i s probes result s' := by
  induction turns generalizing i s with
  | zero => exact ⟨[], .ok [], s, .past hturns⟩
  | succ turns ih =>
    rcases Nat.lt_or_ge t.length i with hi | hi
    · exact ⟨[], .ok [], s, .past hi⟩
    rcases hs : (r.search libs t i options).run s with ⟨f | found, s'⟩
    · exact ⟨_, _, _, .failed hi hs⟩
    by_cases hn : ∀ m ∈ found, m.whole?.bind Capture.range? = none
    · exact ⟨_, _, _, .ended hi hs hn⟩
    · push Not at hn
      obtain ⟨m, hfound, hne⟩ := hn
      obtain ⟨⟨start, stop⟩, hw⟩ := Option.ne_none_iff_exists'.mp hne
      rw [Option.mem_def.mp hfound] at hs
      have hlt := hm.lt_nextOffset hi hs hw
      obtain ⟨probes, result, s'', hrest⟩ := ih (i := nextOffset t start stop) (by omega) s'
      exact ⟨_, _, _, .found hi hs hw hrest⟩

section

variable (libs : Libraries σ) (r : Regex) (options : SearchOptions) {i : Nat}

/-- A search at an offset in the text is one native search. -/
theorem exists_search_calls (hi : i ≤ t.length) (s : HostState σ) :
    ∃ reply calls, ((r.search libs t i options).run s).2.calls = s.calls ++ calls ∧
      calls.filter (fun c => c.2.isSearch) =
        [(r.engine.id, Call.search r.handle.address t.bytes (t.byteOffset i) options reply)] := by
  obtain ⟨reply, more, hcalls, hsearch, hmore⟩ := (checkedOnce_search libs r options s t i).once hi
  refine ⟨reply, _, hcalls, ?_⟩
  have hnone : more.filter (fun c => c.2.isSearch) = [] :=
    List.filter_eq_nil_iff.mpr fun c hc => by simp [hmore c hc]
  rw [List.filter_cons, if_pos hsearch, hnone]

end

namespace Finds

variable {i : Nat} {s s' : HostState σ} {probes : List Probe} {result : Except Error (List Match)}

/-- The loop makes these searches, if it may make as many. -/
theorem findFrom_run_eq (h : Finds libs r options t i s probes result s') {turns : Nat}
    (hturns : probes.length ≤ turns) :
    (r.findFrom libs t options turns i).run s = (some result, s') := by
  induction h generalizing turns with
  | past hi =>
    cases turns with
    | zero => rw [findFrom, if_pos hi]; rfl
    | succ turns => rw [findFrom, if_pos hi]; rfl
  | failed hi hs =>
    obtain ⟨turns, rfl⟩ := Nat.exists_eq_add_one_of_ne_zero (Nat.ne_zero_of_lt hturns)
    rw [findFrom_run libs r options hi, hs]
    rfl
  | @ended i s s' found hi hs hn =>
    obtain ⟨turns, rfl⟩ := Nat.exists_eq_add_one_of_ne_zero (Nat.ne_zero_of_lt hturns)
    rw [findFrom_run libs r options hi, hs]
    cases found with
    | none => rfl
    | some m => rw [turn, hn m rfl]
  | found hi hs hw _ ih =>
    obtain ⟨turns, rfl⟩ := Nat.exists_eq_add_one_of_ne_zero (Nat.ne_zero_of_lt hturns)
    rw [List.length_cons] at hturns
    rw [findFrom_run libs r options hi, hs, turn, hw]
    dsimp only
    rw [ih (by omega)]
    rfl

theorem le_offset (hm : r.Advances libs options t.bytes)
    (h : Finds libs r options t i s probes result s') : ∀ p ∈ probes, i ≤ p.offset := by
  induction h with
  | past hi => exact nofun
  | failed hi hs => simp
  | ended hi hs hn => simp
  | found hi hs hw _ ih =>
    have hlt := hm.lt_nextOffset hi hs hw
    exact List.forall_mem_cons.mpr ⟨le_refl _, fun p hp => le_trans hlt.le (ih p hp)⟩

/-- Each search begins behind the one before it. -/
theorem ascending (hm : r.Advances libs options t.bytes)
    (h : Finds libs r options t i s probes result s') :
    probes.Pairwise fun p q => p.offset < q.offset := by
  induction h with
  | past hi => exact .nil
  | failed hi hs => exact List.pairwise_singleton _ _
  | ended hi hs hn => exact List.pairwise_singleton _ _
  | found hi hs hw rest ih =>
    have hlt := hm.lt_nextOffset hi hs hw
    exact .cons (fun p hp => lt_of_lt_of_le hlt (rest.le_offset hm p hp)) ih

/-- There are as many searches at most as there are offsets left. -/
theorem length_le (hm : r.Advances libs options t.bytes)
    (h : Finds libs r options t i s probes result s') : probes.length ≤ t.length + 1 - i := by
  induction h with
  | past hi => exact Nat.zero_le _
  | failed hi hs => rw [List.length_singleton]; omega
  | ended hi hs hn => rw [List.length_singleton]; omega
  | found hi hs hw _ ih =>
    have hlt := hm.lt_nextOffset hi hs hw
    rw [List.length_cons]
    omega

/-- An error is the end of the searches, and of the whole. -/
theorem error_iff (h : Finds libs r options t i s probes result s') (f : Error) :
    result = .error f ↔ ∃ p ∈ probes, p.result = .error f := by
  induction h with
  | past hi => simp
  | failed hi hs => simp
  | ended hi hs hn => simp
  | @found i start stop s s' s'' m probes result hi hs hw _ ih =>
    have hmap : result.map (m :: ·) = .error f ↔ result = .error f := by
      cases result <;> simp [Except.map]
    simp [hmap, ih]

/-- The ranges of what is found, none of which reaches back before the offset or over another
one. -/
theorem exists_ranges (hm : r.Advances libs options t.bytes)
    (h : Finds libs r options t i s probes result s') {ms : List Match} (hms : result = .ok ms) :
    ∃ ranges : List (Nat × Nat), ms.map (fun m => m.whole?.bind Capture.range?) = ranges.map some ∧
      ranges.Pairwise Follows ∧ ∀ range ∈ ranges, i ≤ range.1 ∧ i ≤ range.2 := by
  induction h generalizing ms with
  | past hi =>
    cases hms
    exact ⟨[], rfl, .nil, nofun⟩
  | failed hi hs => cases hms
  | ended hi hs hn =>
    cases hms
    exact ⟨[], rfl, .nil, nofun⟩
  | @found i start stop s s' s'' m probes result hi hs hw _ ih =>
    cases result with
    | error f => cases hms
    | ok rest =>
      cases hms
      obtain ⟨ranges, hmap, hpairwise, hbehind⟩ := ih rfl
      have hrange := hm.le_range hi hs hw
      have hlt := hm.lt_nextOffset hi hs hw
      refine ⟨(start, stop) :: ranges, by rw [List.map_cons, hw, hmap, List.map_cons],
        .cons ?_ hpairwise, ?_⟩
      · exact fun range hmem => follows_of_nextOffset_le (hbehind range hmem).1
          (hbehind range hmem).2
      · refine List.forall_mem_cons.mpr ⟨hrange, fun range hmem => ?_⟩
        exact ⟨le_trans hlt.le (hbehind range hmem).1, le_trans hlt.le (hbehind range hmem).2⟩

/-- The native searches are these and no others. -/
theorem exists_calls (h : Finds libs r options t i s probes result s') :
    ∃ calls, s'.calls = s.calls ++ calls ∧
      List.Forall₂ (Probe.Asks r options t) probes (calls.filter fun c => c.2.isSearch) := by
  induction h with
  | past hi => exact ⟨[], (List.append_nil _).symm, .nil⟩
  | @failed i s s' f hi hs =>
    obtain ⟨reply, calls, hcalls, hfilter⟩ := exists_search_calls libs r options hi s
    rw [hs] at hcalls
    exact ⟨calls, hcalls, hfilter ▸ .cons ⟨reply, rfl⟩ .nil⟩
  | @ended i s s' found hi hs hn =>
    obtain ⟨reply, calls, hcalls, hfilter⟩ := exists_search_calls libs r options hi s
    rw [hs] at hcalls
    exact ⟨calls, hcalls, hfilter ▸ .cons ⟨reply, rfl⟩ .nil⟩
  | @found i start stop s s' s'' m probes result hi hs hw _ ih =>
    obtain ⟨reply, calls, hcalls, hfilter⟩ := exists_search_calls libs r options hi s
    obtain ⟨more, hmore, hprobes⟩ := ih
    rw [hs] at hcalls
    refine ⟨calls ++ more, by rw [hmore, hcalls, List.append_assoc], ?_⟩
    rw [List.filter_append, hfilter, List.singleton_append]
    exact .cons ⟨reply, rfl⟩ hprobes

end Finds

/-- All matches are found by searches that begin each behind the one before it, so at most one for
each offset, as long as the ends of whole matches are boundaries and none is before the position
that was asked from. An error is the result. Without one, each whole match begins and ends at or
behind the end of every one before it, and none has its range. -/
theorem findAll_advances (hm : r.Advances libs options t.bytes) (s : HostState σ) :
    ∃ probes result s', Finds libs r options t 0 s probes result s' ∧
      (∀ turns, probes.length ≤ turns →
        (r.findAll libs t options turns).run s = (some result, s')) ∧ probes.length ≤ t.length + 1 ∧
      probes.Pairwise (fun p q => p.offset < q.offset) ∧
      (∃ calls, s'.calls = s.calls ++ calls ∧
        List.Forall₂ (Probe.Asks r options t) probes (calls.filter fun c => c.2.isSearch)) ∧
      (∀ f, result = .error f ↔ ∃ p ∈ probes, p.result = .error f) ∧
      ∀ ms, result = .ok ms → ∃ ranges : List (Nat × Nat),
        ms.map (fun m => m.whole?.bind Capture.range?) = ranges.map some ∧
          ranges.Pairwise Follows := by
  obtain ⟨probes, result, s', h⟩ := exists_finds hm (t.length + 1) (i := 0) (by omega) s
  refine ⟨probes, result, s', h, fun turns hturns => h.findFrom_run_eq hturns, h.length_le hm,
    h.ascending hm, h.exists_calls, h.error_iff, ?_⟩
  intro ms hms
  obtain ⟨ranges, hranges, hpairwise, -⟩ := h.exists_ranges hm hms
  exact ⟨ranges, hranges, hpairwise⟩

/-- A match that ends before it begins, in front of a surrogate pair, and a letter behind the
pair. -/
theorem findAll_advances_inverted :
    let t := UnitText.ofUnits [0x61, 0xD83D, 0xDEA7, 0x62]
    let libs := Libraries.answering fun o => if o = 0 then some [5, 1]
      else if o ≤ 5 then some [5, 6] else none
    let r : Regex := ⟨⟨0, true⟩, ⟨1⟩⟩
    r.Advances libs .standard t.bytes ∧ ∃ probes s',
      Finds libs r .standard t 0 ⟨(), []⟩ probes (.ok [⟨[⟨3, 1⟩]⟩, ⟨[⟨3, 4⟩]⟩]) s' ∧
      probes.length ≤ 5 ∧ probes.Pairwise fun p q => p.offset < q.offset := by
  intro t libs r
  have hbefore : (Match.ofFlat [5, 1]).whole?.bind Capture.range? = some (5, 1) := by decide
  have hletter : (Match.ofFlat [5, 6]).whole?.bind Capture.range? = some (5, 6) := by decide
  have hboundary : ∀ d ∈ [1, 5, 6], Utf8.isBoundary t.bytes d = true := by decide +kernel
  have hm : r.Advances libs .standard t.bytes := by
    intro o s m start stop ho hf hw
    rw [searchBytes_answering _ r .standard t.bytes (Utf8.le_of_isBoundary ho)] at hf
    split_ifs at hf with h0 h5
    · cases hf
      rw [hbefore, Option.some.injEq, Prod.mk.injEq] at hw
      obtain ⟨rfl, rfl⟩ := hw
      exact ⟨hboundary 5 (by simp), hboundary 1 (by simp), by omega, by omega⟩
    · cases hf
      rw [hletter, Option.some.injEq, Prod.mk.injEq] at hw
      obtain ⟨rfl, rfl⟩ := hw
      exact ⟨hboundary 5 (by simp), hboundary 6 (by simp), by omega, by omega⟩
    · cases hf
  obtain ⟨probes, result, s', h, hrun, hlength, hascending, -⟩ := findAll_advances hm ⟨(), []⟩
  have hresult : ((r.findAll libs t .standard 5).run ⟨(), []⟩).1 =
      some (.ok [⟨[⟨3, 1⟩]⟩, ⟨[⟨3, 4⟩]⟩]) := by
    decide +kernel
  rw [hrun 5 hlength, Option.some.injEq] at hresult
  exact ⟨hm, probes, s', hresult ▸ h, hlength, hascending⟩

end RegexHost.Regex

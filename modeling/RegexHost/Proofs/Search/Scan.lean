import RegexHost.Proofs.Search.Captures

/-! All matches of a text in code units beside those of a scan of its bytes. They are the same if
and only if each high surrogate has its low one, since the step past an empty match takes a high
surrogate for half of a pair. -/
namespace RegexHost.Regex

variable {σ : Type} (libs : Libraries σ) (r : Regex) (options : SearchOptions)

def nextByte (bytes : Bytes) (start stop : Nat) : Nat :=
  if start < stop then stop else Utf8.nextBoundary bytes stop

/-- All matches in bytes from `b` on, unless `turns` searches are too few. -/
def scanFrom (bytes : Bytes) : Nat → Nat → Host σ (Option (Except Error (List Match)))
  | 0, b => return if bytes.length < b then some (.ok []) else none
  | turns + 1, b =>
    if bytes.length < b then return some (.ok [])
    else do
      match ← r.searchBytes libs bytes b options with
      | .error f => return some (.error f)
      | .ok none => return some (.ok [])
      | .ok (some m) =>
        match m.whole?.bind Capture.range? with
        | none => return some (.ok [])
        | some (start, stop) => do
          let rest ← scanFrom bytes turns (nextByte bytes start stop)
          return rest.map fun result => result.map (m :: ·)

def scan (bytes : Bytes) (turns : Nat) : Host σ (Option (Except Error (List Match))) :=
  scanFrom libs r options bytes turns 0

/-- Whole matches end on boundaries, none of them before the position that was asked from. -/
def Advances (bytes : Bytes) : Prop :=
  ∀ b s m start stop, Utf8.isBoundary bytes b = true →
    ((r.searchBytes libs bytes b options).run s).1 = .ok (some m) →
    m.whole?.bind Capture.range? = some (start, stop) →
    Utf8.isBoundary bytes start = true ∧ Utf8.isBoundary bytes stop = true ∧ b ≤ start ∧ b ≤ stop

def allInUnits (t : UnitText) (found : Option (Except Error (List Match))) :
    Option (Except Error (List Match)) :=
  found.map fun result => result.map fun ms => ms.map (Match.toUnits t.bytes)

/-- One place, or a position past the text on both sides. -/
def Level (t : UnitText) (i b : Nat) : Prop :=
  t.Place i b ∨ t.length < i ∧ t.bytes.length < b

theorem Level.past_iff {t : UnitText} {i b : Nat} (h : Level t i b) :
    t.length < i ↔ t.bytes.length < b := by
  rcases h with h | ⟨hi, hb⟩
  · have := h.le_length
    have := h.le_bytes
    omega
  · exact ⟨fun _ => hb, fun _ => hi⟩

theorem whole?_toUnits {t : UnitText} {m : Match} {i j b d : Nat} (hi : t.Place i b)
    (hj : t.Place j d) (h : m.whole?.bind Capture.range? = some (b, d)) :
    (m.toUnits t.bytes).whole?.bind Capture.range? = some (i, j) := by
  obtain ⟨c, hc, hr⟩ := Option.bind_eq_some_iff.mp h
  have hw : (m.toUnits t.bytes).whole? = some (c.map (Match.unitEnd t.bytes)) := by
    rw [Match.whole?] at hc
    rw [Match.whole?, Match.toUnits, Match.mapOffsets, List.head?_map, hc, Option.map_some]
  obtain ⟨hs, he⟩ := (Capture.range?_eq_some_iff c b d).mp hr
  rw [hw, Option.bind_some, Capture.map_of_range? hr, Capture.range?_eq_some_iff]
  exact ⟨Match.unitEnd_toInt hi hs, Match.unitEnd_toInt hj he⟩

theorem whole?_toUnits_none {bytes : Bytes} {m : Match} (h : m.whole?.bind Capture.range? = none) :
    (m.toUnits bytes).whole?.bind Capture.range? = none := by
  rcases m with ⟨_ | ⟨c, cs⟩⟩
  · rfl
  · have hc : c.isMatched = false := by
      by_contra hm
      simp [Match.whole?, Capture.range?, hm] at h
    simp [Match.whole?, Match.toUnits, Match.mapOffsets, Capture.map, hc, Capture.range?]

/-- What a turn makes of its search, `more` being the turns after it. -/
def turn (more : Nat → Nat → HostState σ → Option (Except Error (List Match)) × HostState σ) :
    Except Error (Option Match) × HostState σ → Option (Except Error (List Match)) × HostState σ
  | (.error f, s) => (some (.error f), s)
  | (.ok none, s) => (some (.ok []), s)
  | (.ok (some m), s) =>
    match m.whole?.bind Capture.range? with
    | none => (some (.ok []), s)
    | some (start, stop) =>
      ((more start stop s).1.map fun result => result.map (m :: ·), (more start stop s).2)

theorem findFrom_run {t : UnitText} {i : Nat} (h : i ≤ t.length) (turns : Nat) (s : HostState σ) :
    (r.findFrom libs t options (turns + 1) i).run s =
      turn (fun start stop => (r.findFrom libs t options turns (nextOffset t start stop)).run)
        ((r.search libs t i options).run s) := by
  rw [findFrom, if_neg (by omega)]
  simp only [StateT.run_bind]
  rcases (r.search libs t i options).run s with ⟨f | _ | m, s'⟩
  · rfl
  · rfl
  · change StateT.run (match m.whole?.bind Capture.range? with
      | none => _
      | some (start, stop) => _) s' = _
    rw [turn]
    cases m.whole?.bind Capture.range? <;> rfl

theorem scanFrom_run {bytes : Bytes} {b : Nat} (h : b ≤ bytes.length) (turns : Nat)
    (s : HostState σ) :
    (r.scanFrom libs options bytes (turns + 1) b).run s =
      turn (fun start stop => (r.scanFrom libs options bytes turns (nextByte bytes start stop)).run)
        ((r.searchBytes libs bytes b options).run s) := by
  rw [scanFrom, if_neg (by omega)]
  simp only [StateT.run_bind]
  rcases (r.searchBytes libs bytes b options).run s with ⟨f | _ | m, s'⟩
  · rfl
  · rfl
  · change StateT.run (match m.whole?.bind Capture.range? with
      | none => _
      | some (start, stop) => _) s' = _
    rw [turn]
    cases m.whole?.bind Capture.range? <;> rfl

theorem turn_inUnits {t : UnitText} {result : Except Error (Option Match)} {s : HostState σ}
    {more more' : Nat → Nat → HostState σ → Option (Except Error (List Match)) × HostState σ}
    (h : ∀ m b d, result = .ok (some m) → m.whole?.bind Capture.range? = some (b, d) →
      ∃ i j, t.Place i b ∧ t.Place j d ∧
        more i j s = (allInUnits t (more' b d s).1, (more' b d s).2)) :
    turn more (inUnits t result, s) =
      (allInUnits t (turn more' (result, s)).1, (turn more' (result, s)).2) := by
  rcases result with f | _ | m
  · rfl
  · rfl
  · change turn more (.ok (some (m.toUnits t.bytes)), s) = _
    rw [turn, turn]
    cases hw : m.whole?.bind Capture.range? with
    | none =>
      rw [whole?_toUnits_none hw]
      rfl
    | some w =>
      obtain ⟨b, d⟩ := w
      obtain ⟨i, j, hi, hj, hmore⟩ := h m b d rfl hw
      rw [whole?_toUnits hi hj hw]
      simp only [hmore]
      rcases (more' b d s).1 with _ | _ | ms <;> rfl

theorem turn_none {result : Except Error (Option Match) × HostState σ}
    {more : Nat → Nat → HostState σ → Option (Except Error (List Match)) × HostState σ}
    (hf : result.1 = .ok none) : (turn more result).1 = some (.ok []) := by
  obtain ⟨_, s⟩ := result
  cases hf
  rfl

theorem turn_found {result : Except Error (Option Match) × HostState σ} {m : Match} {b d : Nat}
    {ms : List Match}
    {more : Nat → Nat → HostState σ → Option (Except Error (List Match)) × HostState σ}
    (hf : result.1 = .ok (some m)) (hw : m.whole?.bind Capture.range? = some (b, d))
    (h : ∀ s, (more b d s).1 = some (.ok ms)) : (turn more result).1 = some (.ok (m :: ms)) := by
  obtain ⟨_, s⟩ := result
  cases hf
  rw [turn, hw]
  simp only [h]
  rfl

theorem turn_isSome {result : Except Error (Option Match) × HostState σ}
    {more : Nat → Nat → HostState σ → Option (Except Error (List Match)) × HostState σ}
    (h : ∀ m b d, result.1 = .ok (some m) → m.whole?.bind Capture.range? = some (b, d) →
      (more b d result.2).1.isSome) : (turn more result).1.isSome := by
  rcases result with ⟨f | _ | m, s⟩
  · rfl
  · rfl
  · rw [turn]
    cases hw : m.whole?.bind Capture.range? with
    | none => rfl
    | some w =>
      rw [Option.isSome_map]
      exact h m w.1 w.2 rfl hw

/-- After a match the scan goes on at a later place, and so does the search in code units unless it
takes a lone high surrogate for half of a pair. -/
theorem exists_level_next {t : UnitText} {i j b d : Nat} (hi : t.Place i b) (hj : t.Place j d) :
    ∃ k, Level t k (nextByte t.bytes b d) ∧ min i j < k ∧
      (Utf16.loneHigh t.units j = false → nextOffset t i j = k) := by
  unfold nextOffset nextByte
  by_cases hlt : i < j
  · rw [if_pos hlt, if_pos ((hi.lt_iff hj).mp hlt)]
    exact ⟨j, .inl hj, by omega, fun _ => rfl⟩
  rw [if_neg hlt, if_neg (mt (hi.lt_iff hj).mpr hlt)]
  rcases Nat.lt_or_ge d t.bytes.length with hd | hd
  · obtain ⟨l, c, rest, ht, rfl, rfl, hn⟩ := hj.next hd
    refine ⟨_, .inl hn, ?_, Utf16.next_eq (t.toList_text.symm.trans ht)⟩
    have := (hj.lt_iff hn).mpr (Utf8.lt_nextBoundary _ _)
    omega
  · have hl := (UnitText.Place.finish t).le_iff hj
    have hu := Utf16.lt_next t.units j
    have hb := Utf8.lt_nextBoundary t.bytes d
    exact ⟨_, .inr (by omega), by omega, fun _ => rfl⟩

variable {libs r options}

/-- A whole match in bytes lies between two places, neither of them before the one it was searched
from. -/
theorem Advances.exists_places {t : UnitText} (hm : r.Advances libs options t.bytes) {i b d e : Nat}
    (h : t.Place i b) {s : HostState σ} {m : Match}
    (hf : ((r.searchBytes libs t.bytes b options).run s).1 = .ok (some m))
    (hw : m.whole?.bind Capture.range? = some (d, e)) :
    ∃ j k, t.Place j d ∧ t.Place k e ∧ i ≤ j ∧ i ≤ k := by
  obtain ⟨hd, he, hbd, hbe⟩ := hm b s m d e h.isBoundary hf hw
  obtain ⟨j, hj⟩ := UnitText.Place.of_isBoundary hd
  obtain ⟨k, hk⟩ := UnitText.Place.of_isBoundary he
  exact ⟨j, k, hj, hk, (h.le_iff hj).mpr hbd, (h.le_iff hk).mpr hbe⟩

theorem Advances.exists_level {t : UnitText} (hm : r.Advances libs options t.bytes) {i b d e : Nat}
    (h : t.Place i b) {s : HostState σ} {m : Match}
    (hf : ((r.searchBytes libs t.bytes b options).run s).1 = .ok (some m))
    (hw : m.whole?.bind Capture.range? = some (d, e)) :
    ∃ j k n, t.Place j d ∧ t.Place k e ∧ Level t n (nextByte t.bytes d e) ∧ i < n ∧
      (Utf16.loneHigh t.units k = false → nextOffset t j k = n) := by
  obtain ⟨j, k, hj, hk, hij, hik⟩ := hm.exists_places h hf hw
  obtain ⟨n, hn, hlt, hnext⟩ := exists_level_next hj hk
  exact ⟨j, k, n, hj, hk, hn, by omega, hnext⟩

/-- Each turn begins behind the turn before it. -/
theorem scanFrom_isSome {t : UnitText} (hm : r.Advances libs options t.bytes)
    (turns : Nat) {i b : Nat} (h : Level t i b) (hturns : t.length < i + turns) (s : HostState σ) :
    ((r.scanFrom libs options t.bytes turns b).run s).1.isSome := by
  induction turns generalizing i b s with
  | zero =>
    rw [scanFrom, if_pos (h.past_iff.mp hturns)]
    rfl
  | succ turns ih =>
    rcases h with h | ⟨-, hb⟩
    · rw [scanFrom_run libs r options h.le_bytes]
      refine turn_isSome ?_
      intro m d e hf hw
      obtain ⟨-, -, n, -, -, hn, hlt, -⟩ := hm.exists_level h hf hw
      exact ih hn (by omega) _
    · rw [scanFrom, if_pos hb]
      rfl

theorem findFrom_eq {t : UnitText} (hm : r.Advances libs options t.bytes)
    (hp : ∀ i, Utf16.loneHigh t.units i = false) (turns : Nat) {i b : Nat} (h : Level t i b)
    (s : HostState σ) : (r.findFrom libs t options turns i).run s =
      (allInUnits t <$> r.scanFrom libs options t.bytes turns b).run s := by
  induction turns generalizing i b s with
  | zero =>
    simp only [findFrom, scanFrom, h.past_iff]
    split_ifs <;> rfl
  | succ turns ih =>
    rcases h with h | ⟨hi, hb⟩
    · rw [StateT.run_map, findFrom_run libs r options h.le_length,
        scanFrom_run libs r options h.le_bytes, search_eq libs r options t h.le_length,
        show t.byteOffset i = b from h.byteOffset_eq]
      refine turn_inUnits ?_
      intro m d e hf hw
      obtain ⟨j, k, n, hj, hk, hn, -, hnext⟩ := hm.exists_level h hf hw
      refine ⟨j, k, hj, hk, ?_⟩
      rw [hnext (hp k)]
      exact ih hn _
    · rw [findFrom, if_pos hi, scanFrom, if_pos hb]
      rfl

theorem findAll_eq {t : UnitText} (hm : r.Advances libs options t.bytes)
    (hp : ∀ i, Utf16.loneHigh t.units i = false) (turns : Nat) :
    r.findAll libs t options turns = allInUnits t <$> r.scan libs options t.bytes turns :=
  funext fun s => findFrom_eq hm hp turns (.inl (.start t)) s

/-! A lone high surrogate makes the two differ -/

/-- An empty match at `b`, then an empty match at `d`. -/
def emptyAt (b d o : Nat) : Option (List Int32) :=
  if o ≤ b then some [.ofNat b, .ofNat b] else if o ≤ d then some [.ofNat d, .ofNat d] else none

theorem whole?_ofFlat {b d : Nat} (hb : b < 2 ^ 31) (hd : d < 2 ^ 31) :
    (Match.ofFlat [.ofNat b, .ofNat d]).whole?.bind Capture.range? = some (b, d) :=
  (Capture.range?_eq_some_iff _ b d).mpr ⟨Int32.toInt_ofNat_of_lt hb, Int32.toInt_ofNat_of_lt hd⟩

theorem advances_emptyAt (r : Regex) (options : SearchOptions) {bytes : Bytes} {b d : Nat}
    (hb : Utf8.isBoundary bytes b = true) (hd : Utf8.isBoundary bytes d = true) (hb31 : b < 2 ^ 31)
    (hd31 : d < 2 ^ 31) : r.Advances (.answering (emptyAt b d)) options bytes := by
  intro o s m start stop ho hf hw
  rw [searchBytes_answering _ r options bytes (Utf8.le_of_isBoundary ho), Except.ok.injEq,
    emptyAt] at hf
  split_ifs at hf with h1 h2
  · obtain rfl := Option.some.inj hf
    rw [whole?_ofFlat hb31 hb31, Option.some.injEq, Prod.mk.injEq] at hw
    obtain ⟨rfl, rfl⟩ := hw
    exact ⟨hb, hb, h1, h1⟩
  · obtain rfl := Option.some.inj hf
    rw [whole?_ofFlat hd31 hd31, Option.some.injEq, Prod.mk.injEq] at hw
    obtain ⟨rfl, rfl⟩ := hw
    exact ⟨hd, hd, h2, h2⟩
  · cases hf

section EmptyAt

variable (r : Regex) (options : SearchOptions) {t : UnitText} {i j b d : Nat}

theorem search_emptyAt (hi : i ≤ t.length) (s : HostState Unit) :
    ((r.search (.answering (emptyAt b d)) t i options).run s).1 =
      .ok ((emptyAt b d (t.byteOffset i)).map fun ends => (Match.ofFlat ends).toUnits t.bytes) := by
  obtain ⟨_, -, hj⟩ := UnitText.Place.exists_byteOffset t hi
  have hb := searchBytes_answering (emptyAt b d) r options t.bytes hj.le_bytes s
  rw [search_eq _ r options t hi, StateT.run_map]
  change inUnits t _ = _
  rw [hb]
  cases emptyAt b d (t.byteOffset i) <;> rfl

theorem scan_emptyAt {bytes : Bytes} (hd : Utf8.nextBoundary bytes b = d) (hle : d ≤ bytes.length)
    (hsize : bytes.length < 2 ^ 31) (s : HostState Unit) :
    ∃ m m', ((r.scan (.answering (emptyAt b d)) options bytes 3).run s).1 = some (.ok [m, m']) := by
  have hbd : b < d := hd ▸ Utf8.lt_nextBoundary bytes b
  have hlt := Utf8.lt_nextBoundary bytes d
  have hend (s : HostState Unit) : ((r.scanFrom (.answering (emptyAt b d)) options bytes 1
      (nextByte bytes d d)).run s).1 = some (.ok []) := by
    rw [nextByte, if_neg (lt_irrefl d)]
    rcases Nat.lt_or_ge bytes.length (Utf8.nextBoundary bytes d) with hp | hp
    · rw [scanFrom, if_pos hp]
      rfl
    · rw [scanFrom_run _ r options hp]
      refine turn_none ?_
      rw [searchBytes_answering _ r options bytes hp, emptyAt, if_neg (by omega), if_neg (by omega)]
      rfl
  have hsecond (s : HostState Unit) : ((r.scanFrom (.answering (emptyAt b d)) options bytes 2
      (nextByte bytes b b)).run s).1 = some (.ok [.ofFlat [.ofNat d, .ofNat d]]) := by
    rw [nextByte, if_neg (lt_irrefl b), hd, scanFrom_run _ r options hle]
    refine turn_found ?_ (whole?_ofFlat (by omega) (by omega)) hend
    rw [searchBytes_answering _ r options bytes hle, emptyAt, if_neg (by omega), if_pos (le_refl d)]
    rfl
  refine ⟨.ofFlat [.ofNat b, .ofNat b], .ofFlat [.ofNat d, .ofNat d], ?_⟩
  rw [scan, scanFrom_run _ r options (Nat.zero_le _)]
  refine turn_found ?_ (whole?_ofFlat (by omega) (by omega)) hsecond
  rw [searchBytes_answering _ r options bytes (Nat.zero_le _), emptyAt, if_pos (Nat.zero_le b)]
  rfl

theorem findAll_emptyAt (hi : t.Place i b) (hj : t.Place (i + 1) d)
    (hnext : Utf16.next t.units i = i + 2) (hsize : t.bytes.length < 2 ^ 31) (s : HostState Unit) :
    ∃ m, ((r.findAll (.answering (emptyAt b d)) t options 3).run s).1 = some (.ok [m]) := by
  have hb := hi.le_bytes
  have hbd := (hi.lt_iff hj).mp (Nat.lt_succ_self i)
  have hend (s : HostState Unit) : ((r.findFrom (.answering (emptyAt b d)) t options 2
      (nextOffset t i i)).run s).1 = some (.ok []) := by
    rw [nextOffset, if_neg (lt_irrefl i), hnext]
    rcases Nat.lt_or_ge t.length (i + 2) with hp | hp
    · rw [findFrom, if_pos hp]
      rfl
    · obtain ⟨k, hik, hk⟩ := UnitText.Place.exists_byteOffset t hp
      have hdk := (hj.lt_iff hk).mp (by omega)
      rw [findFrom_run _ r options hp]
      refine turn_none ?_
      rw [search_emptyAt r options hp, emptyAt, if_neg (by omega), if_neg (by omega)]
      rfl
  refine ⟨(Match.ofFlat [.ofNat b, .ofNat b]).toUnits t.bytes, ?_⟩
  rw [findAll, findFrom_run _ r options (Nat.zero_le _)]
  refine turn_found ?_ (whole?_toUnits hi hi (whole?_ofFlat (by omega) (by omega))) hend
  rw [search_emptyAt r options (Nat.zero_le _), UnitText.byteOffset, byteOffset_zero, emptyAt,
    if_pos (Nat.zero_le b)]
  rfl

end EmptyAt

theorem exists_findAll_ne {t : UnitText} {i : Nat} (h : Utf16.loneHigh t.units i = true)
    (hsize : t.bytes.length < 2 ^ 31) (r : Regex) (options : SearchOptions) :
    ∃ libs : Libraries Unit, r.Advances libs options t.bytes ∧
      r.findAll libs t options 3 ≠ allInUnits t <$> r.scan libs options t.bytes 3 := by
  obtain ⟨hlt, hout⟩ := Utf16.insidePair_of_loneHigh h
  have hi := UnitText.Place.of_insidePair hlt.le hout
  obtain ⟨l, c, rest, ht, rfl, hb, hj⟩ := hi.next (((hi.lt_iff (.finish t)).mp hlt))
  rw [Utf16.encode_append, List.length_append, Utf16.encode_cons, Utf16.encode_nil, List.append_nil,
    Utf16.encodeChar_length, Utf16.width_of_loneHigh (t.toList_text.symm.trans ht) h] at hj
  have hjb := hj.le_bytes
  have hib := hi.le_bytes
  refine ⟨.answering (emptyAt _ _),
    advances_emptyAt r options hi.isBoundary hj.isBoundary (by omega) (by omega), fun heq => ?_⟩
  obtain ⟨m, hm⟩ := findAll_emptyAt r options hi hj (Utf16.next_of_loneHigh h) hsize ⟨(), []⟩
  obtain ⟨m1, m2, hm'⟩ := scan_emptyAt r options rfl hjb hsize ⟨(), []⟩
  rw [heq, StateT.run_map] at hm
  change allInUnits t _ = _ at hm
  rw [hm'] at hm
  simp [allInUnits, Except.map] at hm

/-- What a search in code units finds is what the scan in bytes finds, and the search ends, just if
no high surrogate stands without its low one. -/
theorem findAll_eq_scan_iff (t : UnitText) (hsize : t.bytes.length < 2 ^ 31) :
    (∀ (σ : Type) (libs : Libraries σ) (r : Regex) (options : SearchOptions),
      r.Advances libs options t.bytes → ∀ turns,
        r.findAll libs t options turns = allInUnits t <$> r.scan libs options t.bytes turns ∧
          (t.length < turns → ∀ s, ((r.findAll libs t options turns).run s).1.isSome)) ↔
      ∀ i, Utf16.loneHigh t.units i = false := by
  constructor
  · intro h i
    by_contra hi
    obtain ⟨libs, hm, hne⟩ :=
      exists_findAll_ne (by simpa using hi) hsize ⟨⟨0, true⟩, ⟨1⟩⟩ .standard
    exact hne (h Unit libs _ _ hm 3).1
  · intro hp σ libs r options hm turns
    have heq := findAll_eq hm hp turns
    refine ⟨heq, fun hlt s => ?_⟩
    have hsome := scanFrom_isSome hm turns (.inl (.start t)) (by omega) s
    rw [heq, StateT.run_map]
    change (allInUnits t _).isSome
    rw [allInUnits, Option.isSome_map]
    exact hsome

/-- A pair is passed over as one character, whatever the engine. -/
theorem findAll_eq_scan_iff_pair :
    (UnitText.ofUnits [0xD83D, 0xDEA7, 0x78]).bytes.length < 2 ^ 31 ∧
      ∀ (σ : Type) (libs : Libraries σ) (r : Regex) (options : SearchOptions),
        r.Advances libs options (UnitText.ofUnits [0xD83D, 0xDEA7, 0x78]).bytes → ∀ turns,
          r.findAll libs (.ofUnits [0xD83D, 0xDEA7, 0x78]) options turns =
              allInUnits (.ofUnits [0xD83D, 0xDEA7, 0x78]) <$>
                r.scan libs options (UnitText.ofUnits [0xD83D, 0xDEA7, 0x78]).bytes turns ∧
            (3 < turns →
              ∀ s, ((r.findAll libs (.ofUnits [0xD83D, 0xDEA7, 0x78]) options turns).run
                s).1.isSome) := by
  have hsize : (UnitText.ofUnits [0xD83D, 0xDEA7, 0x78]).bytes.length < 2 ^ 31 := by decide +kernel
  refine ⟨hsize, (findAll_eq_scan_iff _ hsize).mpr fun i => ?_⟩
  rcases i with _ | _ | _ | i
  · decide
  · decide
  · decide
  · rfl

/-- The letter after a lone surrogate, which `a*` matches, is passed over. -/
theorem findAll_passes_over_letter :
    let t := UnitText.ofUnits [0xD800, 0x61]
    let libs := Libraries.answering fun o => some [.ofNat o, .ofNat (if o = 3 then 4 else o)]
    let r : Regex := ⟨⟨0, true⟩, ⟨1⟩⟩
    r.Advances libs .standard t.bytes ∧
      ((r.findAll libs t .standard 4).run ⟨(), []⟩).1 = some (.ok [⟨[⟨0, 0⟩]⟩, ⟨[⟨2, 2⟩]⟩]) ∧
      ((allInUnits t <$> r.scan libs .standard t.bytes 4).run ⟨(), []⟩).1 =
        some (.ok [⟨[⟨0, 0⟩]⟩, ⟨[⟨1, 2⟩]⟩, ⟨[⟨2, 2⟩]⟩]) := by
  intro t libs r
  refine ⟨?_, ?_, ?_⟩
  · intro o s m start stop ho hf hw
    have hle := Utf8.le_of_isBoundary ho
    have hlen : t.bytes.length = 4 := by decide +kernel
    have hend : Utf8.isBoundary t.bytes 4 = true := by decide +kernel
    rw [searchBytes_answering _ r .standard t.bytes hle] at hf
    cases hf
    rw [whole?_ofFlat (by omega) (by split_ifs <;> omega), Option.some.injEq, Prod.mk.injEq] at hw
    obtain ⟨rfl, rfl⟩ := hw
    refine ⟨ho, ?_, le_refl o, by split_ifs <;> omega⟩
    split_ifs
    · exact hend
    · exact ho
  · decide +kernel
  · decide +kernel

end RegexHost.Regex

import RegexHost.Proofs.Native.Outcome

/-! Which arguments an export refuses, and what it does with the others. The faults are in the order
of the checks: a search looks at its pattern first, then at its text, its size and the place to
start, and only then asks the engine inside. -/
namespace RegexHost.Native

variable {ρ κ α : Type}

/-- The text that a pointer and a length stand for. -/
inductive Data.Reads : Data → Bytes → Prop
  | empty : Reads (.null 0) []
  | given {bytes : Bytes} (utf8 : Utf8.fault? bytes = none) : Reads (.given bytes) bytes

/-- An argument that is no text, and why. -/
inductive Data.Unreadable (argument : String) : Data → Fault → Prop
  | null {length : Nat} (some : length ≠ 0) :
      Unreadable argument (.null length) (.nullPointer argument)
  | notUtf8 {bytes : Bytes} {f : Utf8.Fault} (fault : Utf8.fault? bytes = some f) :
      Unreadable argument (.given bytes) (.notUtf8 f)

theorem readText_given_eq (argument : String) (bytes : Bytes) :
    readText argument (.given bytes) =
      match Utf8.fault? bytes with
      | some f => .error (.notUtf8 f)
      | none => .ok bytes := by
  simp only [readText, Data.read, bind, Except.bind]
  cases Utf8.fault? bytes <;> rfl

theorem readText_eq_ok_iff {argument : String} {data : Data} {bytes : Bytes} :
    readText argument data = .ok bytes ↔ data.Reads bytes := by
  constructor
  · intro h
    match data with
    | .null 0 =>
      cases h
      exact .empty
    | .null (length + 1) => cases h
    | .given given =>
      rw [readText_given_eq] at h
      cases hu : Utf8.fault? given with
      | none =>
        rw [hu] at h
        cases h
        exact .given hu
      | some f =>
        rw [hu] at h
        cases h
  · rintro (_ | hu)
    · rfl
    · rw [readText_given_eq, hu]

theorem readText_eq_error_iff {argument : String} {data : Data} {f : Fault} :
    readText argument data = .error f ↔ data.Unreadable argument f := by
  constructor
  · intro h
    match data with
    | .null 0 => cases h
    | .null (length + 1) =>
      cases h
      exact .null length.succ_ne_zero
    | .given given =>
      rw [readText_given_eq] at h
      cases hu : Utf8.fault? given with
      | none =>
        rw [hu] at h
        cases h
      | some f =>
        rw [hu] at h
        cases h
        exact .notUtf8 hu
  · rintro (hl | hu)
    · obtain ⟨length, rfl⟩ := Nat.exists_eq_succ_of_ne_zero hl
      rfl
    · rw [readText_given_eq, hu]

namespace Work

theorem fault?_bind_eq_some_iff {w : Work κ} {g : κ → Work α} {f : Fault} :
    (w >>= g).fault? = some f ↔ w.fault? = some f ∨ ∃ a, w = .returned a ∧
      (g a).fault? = some f := by
  cases w with
  | returned a => simp [Bind.bind, bind, fault?]
  | failed f' => simp [Bind.bind, bind, fault?]
  | crashed p => simp [Bind.bind, bind, fault?]

theorem bind_eq_returned_iff {w : Work κ} {g : κ → Work α} {b : α} :
    w >>= g = .returned b ↔ ∃ a, w = .returned a ∧ g a = .returned b := by
  cases w with
  | returned a => simp [Bind.bind, bind]
  | failed f' => simp [Bind.bind, bind]
  | crashed p => simp [Bind.bind, bind]

theorem fault?_ofExcept_eq_some_iff {r : Except Fault α} {f : Fault} :
    (ofExcept r).fault? = some f ↔ r = .error f := by
  cases r <;> simp [ofExcept, fault?]

theorem ofExcept_eq_returned_iff {r : Except Fault α} {a : α} :
    ofExcept r = .returned a ↔ r = .ok a := by
  cases r <;> simp [ofExcept]

end Work

theorem captureFault?_eq_some_iff {work : Work (Option Region)} {out : OutSlot} {f : Fault} :
    captureFault? work out = some f ↔
      work.fault? = some f ∨
        (∃ region, work = .returned (some region)) ∧ out = none ∧
          f = .nullPointer "capture buffer" := by
  match work, out with
  | .returned none, out => simp [captureFault?, Work.fault?]
  | .returned (some region), none => simp [captureFault?, Work.fault?, eq_comm]
  | .returned (some region), some old => simp [captureFault?, Work.fault?]
  | .failed f', out => simp [captureFault?, Work.fault?]
  | .crashed p, out => simp [captureFault?, Work.fault?]

section

variable (core : Core ρ) (regex : Option ρ) (unread : Fault → Prop) (reads : Bytes → Prop)
  (offset : Nat) (beginPosition beginString : Bool) (out : OutSlot)

/-- A search whose checks are all passed, and how the engine inside ends it. `reads` says which text
it is of. -/
def Asks (work : Work (Option Region)) : Prop :=
  ∃ r text, regex = some r ∧ reads text ∧ text.length ≤ textLimit ∧ offset ≤ text.length ∧
    core.search r text offset beginPosition beginString = work

/-- The faults of a search, in the order of its checks. `unread` are those of its text. -/
inductive SearchFault : Fault → Prop
  | noPattern (none : regex = none) : SearchFault (.nullPointer "pattern handle")
  | noText {f : Fault} (live : regex ≠ none) (text : unread f) : SearchFault f
  | tooLarge {text : Bytes} (live : regex ≠ none) (read : reads text)
      (large : textLimit < text.length) :
      SearchFault (.textTooLarge text.length)
  | pastEnd {text : Bytes} (live : regex ≠ none) (read : reads text)
      (size : text.length ≤ textLimit) (past : text.length < offset) :
      SearchFault (.offsetOutOfBounds offset text.length)
  | inside {work : Work (Option Region)} {f : Fault}
      (asks : Asks core regex reads offset beginPosition beginString work)
      (fault : work.fault? = some f) :
      SearchFault f
  | noBuffer {region : Region}
      (asks : Asks core regex reads offset beginPosition beginString (.returned (some region)))
      (none : out = none) : SearchFault (.nullPointer "capture buffer")

/-- What a search without a fault returns and leaves of the captures. -/
inductive SearchResult : Int32 × OutSlot → Prop
  | noMatch (asks : Asks core regex reads offset beginPosition beginString (.returned none)) :
      SearchResult (noMatch, out)
  | matched {region : Region} {old : Option (List Int32)}
      (asks : Asks core regex reads offset beginPosition beginString (.returned (some region)))
      (buffer : out = some old) : SearchResult (matched, some (some (flatten region)))

end

theorem fault?_checkedSearch_iff {core : Core ρ} {r : ρ} {text : Bytes} {offset : Nat}
    {beginPosition beginString : Bool} {f : Fault} :
    (checkedSearch core r text offset beginPosition beginString).fault? = some f ↔
      textLimit < text.length ∧ f = .textTooLarge text.length ∨
      text.length ≤ textLimit ∧ text.length < offset ∧ f = .offsetOutOfBounds offset text.length ∨
      text.length ≤ textLimit ∧ offset ≤ text.length ∧
        (core.search r text offset beginPosition beginString).fault? = some f := by
  unfold checkedSearch
  split_ifs with hl ho
  · simp [Work.fault?, hl, Nat.not_le.mpr hl, eq_comm]
  · simp [Work.fault?, hl, Nat.not_lt.mp hl, ho, Nat.not_le.mpr ho, eq_comm]
  · simp [hl, Nat.not_lt.mp hl, ho, Nat.not_lt.mp ho]

theorem checkedSearch_eq_returned_iff {core : Core ρ} {r : ρ} {text : Bytes} {offset : Nat}
    {beginPosition beginString : Bool} {found : Option Region} :
    checkedSearch core r text offset beginPosition beginString = .returned found ↔
      text.length ≤ textLimit ∧ offset ≤ text.length ∧
        core.search r text offset beginPosition beginString = .returned found := by
  unfold checkedSearch
  split_ifs with hl ho
  · simp [Nat.not_le.mpr hl]
  · simp [Nat.not_le.mpr ho]
  · simp [Nat.not_lt.mp hl, Nat.not_lt.mp ho]

theorem regexOf_eq_returned_iff {regex : Option ρ} {r : ρ} :
    regexOf regex = .returned r ↔ regex = some r := by
  cases regex <;> simp [regexOf]

theorem fault?_regexOf_iff {regex : Option ρ} {f : Fault} :
    (regexOf regex).fault? = some f ↔ regex = none ∧ f = .nullPointer "pattern handle" := by
  cases regex <;> simp [regexOf, Work.fault?, eq_comm]

theorem textOf_eq_returned_iff {text : Option Bytes} {bytes : Bytes} :
    textOf text = .returned bytes ↔ text = some bytes := by
  cases text <;> simp [textOf]

theorem fault?_textOf_iff {text : Option Bytes} {f : Fault} :
    (textOf text).fault? = some f ↔ text = none ∧ f = .nullPointer "text handle" := by
  cases text <;> simp [textOf, Work.fault?, eq_comm]

/-- The work inside a search, for text that is at hand or still to be read. -/
def searchOf (core : Core ρ) (regex : Option ρ) (text : Work Bytes) (offset : Nat)
    (beginPosition beginString : Bool) : Work (Option Region) := do
  let r ← regexOf regex
  let bytes ← text
  checkedSearch core r bytes offset beginPosition beginString

section

variable {core : Core ρ} {regex : Option ρ} {text : Work Bytes} {unread : Fault → Prop}
  {reads : Bytes → Prop} {offset : Nat} {beginPosition beginString : Bool} {out : OutSlot}

theorem searchOf_eq_returned_iff (hreads : ∀ bytes, text = .returned bytes ↔ reads bytes)
    {found : Option Region} :
    searchOf core regex text offset beginPosition beginString = .returned found ↔
      Asks core regex reads offset beginPosition beginString (.returned found) := by
  simp only [searchOf, Work.bind_eq_returned_iff, regexOf_eq_returned_iff, hreads,
    checkedSearch_eq_returned_iff]
  constructor
  · rintro ⟨r, hr, bytes, hb, hs, ho, hf⟩
    exact ⟨r, bytes, hr, hb, hs, ho, hf⟩
  · rintro ⟨r, bytes, hr, hb, hs, ho, hf⟩
    exact ⟨r, hr, bytes, hb, hs, ho, hf⟩

/-- A search is refused for these faults and no others. -/
theorem captureFault?_searchOf_iff (hreads : ∀ bytes, text = .returned bytes ↔ reads bytes)
    (hunread : ∀ f, text.fault? = some f ↔ unread f) {f : Fault} :
    captureFault? (searchOf core regex text offset beginPosition beginString) out = some f ↔
      SearchFault core regex unread reads offset beginPosition beginString out f := by
  simp only [captureFault?_eq_some_iff, searchOf_eq_returned_iff hreads]
  simp only [searchOf, Work.fault?_bind_eq_some_iff, fault?_regexOf_iff,
    regexOf_eq_returned_iff, hunread, hreads, fault?_checkedSearch_iff]
  constructor
  · rintro ((⟨hn, rfl⟩ | ⟨r, hr, hu | ⟨bytes, hb, hc⟩⟩) | ⟨⟨region, ha⟩, ho, rfl⟩)
    · exact .noPattern hn
    · exact .noText (by simp [hr]) hu
    · obtain ⟨hl, rfl⟩ | ⟨hs, hp, rfl⟩ | ⟨hs, hw, hf⟩ := hc
      · exact .tooLarge (by simp [hr]) hb hl
      · exact .pastEnd (by simp [hr]) hb hs hp
      · exact .inside ⟨r, bytes, hr, hb, hs, hw, rfl⟩ hf
    · exact .noBuffer ha ho
  · intro h
    cases h with
    | noPattern hn => exact .inl (.inl ⟨hn, rfl⟩)
    | noText hr hu =>
      obtain ⟨r, hr⟩ := Option.ne_none_iff_exists'.mp hr
      exact .inl (.inr ⟨r, hr, .inl hu⟩)
    | tooLarge hr hb hl =>
      obtain ⟨r, hr⟩ := Option.ne_none_iff_exists'.mp hr
      exact .inl (.inr ⟨r, hr, .inr ⟨_, hb, .inl ⟨hl, rfl⟩⟩⟩)
    | pastEnd hr hb hs hp =>
      obtain ⟨r, hr⟩ := Option.ne_none_iff_exists'.mp hr
      exact .inl (.inr ⟨r, hr, .inr ⟨_, hb, .inr (.inl ⟨hs, hp, rfl⟩)⟩⟩)
    | inside ha hf =>
      obtain ⟨r, bytes, hr, hb, hs, hw, rfl⟩ := ha
      exact .inl (.inr ⟨r, hr, .inr ⟨bytes, hb, .inr (.inr ⟨hs, hw, hf⟩)⟩⟩)
    | noBuffer ha ho => exact .inr ⟨⟨_, ha⟩, ho, rfl⟩

end

/-- How an export ends for its arguments. With no fault it gives one of its results and leaves the
error slot alone; else it returns its fallback, and the message of its fault goes where there is a
place for it. -/
structure EndsFor (results : α → Prop) (faults : Fault → Prop) (fallback : α) (error : ErrorSlot)
    (ended : α × ErrorSlot) : Prop where
  done : (∀ f, ¬ faults f) → results ended.1 ∧ ended.2 = error
  refused : ∀ f, faults f → ended = (fallback, error.map fun _ => some (messageBytes f))
  apart : ¬ results fallback

theorem endsFor_makingCall {work : Work κ} {results : κ → Prop} {faults : Fault → Prop}
    (hresults : ∀ k, work = .returned k ↔ results k)
    (hfaults : ∀ f, work.fault? = some f ↔ faults f) (error : ErrorSlot) :
    let ended := makingCall work ⟨none, error, []⟩
    EndsFor (fun handle => ∃ k, results k ∧ handle = some k) faults none error
      (ended.1, ended.2.error) where
  done hnone := by
    cases work with
    | returned k => exact ⟨⟨k, (hresults k).mp rfl, rfl⟩, rfl⟩
    | failed f => exact absurd ((hfaults f).mp rfl) (hnone f)
    | crashed p => exact absurd ((hfaults _).mp rfl) (hnone _)
  refused f hf := by
    have hended := makingCall_of_fault ((hfaults f).mpr hf) ⟨none, error, []⟩
    exact congrArg (fun ended => (ended.1, ended.2.error)) hended
  apart := by
    rintro ⟨k, -, hk⟩
    cases hk

theorem endsFor_searchingCall {core : Core ρ} {regex : Option ρ} {text : Work Bytes}
    {unread : Fault → Prop} {reads : Bytes → Prop}
    (hreads : ∀ bytes, text = .returned bytes ↔ reads bytes)
    (hunread : ∀ f, text.fault? = some f ↔ unread f) (offset : Nat)
    (beginPosition beginString : Bool) (out : OutSlot) (error : ErrorSlot) :
    let ended := searchingCall (searchOf core regex text offset beginPosition beginString)
      (⟨out, error, []⟩ : Frame ρ)
    EndsFor (SearchResult core regex reads offset beginPosition beginString out)
      (SearchFault core regex unread reads offset beginPosition beginString out)
      (searchError, out) error
      ((ended.1, ended.2.out), ended.2.error) where
  done hnone := by
    have hfault (f : Fault) :
        captureFault? (searchOf core regex text offset beginPosition beginString) out ≠ some f :=
      fun hf => hnone f ((captureFault?_searchOf_iff hreads hunread).mp hf)
    have hasks (found : Option Region)
        (hw : searchOf core regex text offset beginPosition beginString = .returned found) :
        Asks core regex reads offset beginPosition beginString (.returned found) :=
      (searchOf_eq_returned_iff hreads).mp hw
    generalize searchOf core regex text offset beginPosition beginString = work at hfault hasks ⊢
    match work, out with
    | .returned none, out => exact ⟨.noMatch (hasks none rfl), rfl⟩
    | .returned (some region), some old => exact ⟨.matched (hasks (some region) rfl) rfl, rfl⟩
    | .returned (some region), none => exact absurd rfl (hfault (.nullPointer "capture buffer"))
    | .failed f, _ => exact absurd rfl (hfault f)
    | .crashed p, _ => exact absurd rfl (hfault (.ofPayload p))
  refused f hf := by
    have hended : searchingCall _ (⟨out, error, []⟩ : Frame ρ) = _ :=
      searchingCall_of_fault ((captureFault?_searchOf_iff hreads hunread).mpr hf)
    exact congrArg (fun ended => ((ended.1, ended.2.out), ended.2.error)) hended
  apart h := by cases h

/-- Each export hands out what it is for, or refuses its arguments for exactly these faults. -/
theorem exports_end_for_arguments (core : Core ρ) (error : ErrorSlot) :
    (∀ pattern : Data,
      EndsFor
        (fun handle => ∃ regex,
          (∃ text, pattern.Reads text ∧ core.compile (Utf8.decode text) = .returned regex) ∧
            handle = some regex)
        (fun f => pattern.Unreadable "pattern" f ∨
          ∃ text, pattern.Reads text ∧ (core.compile (Utf8.decode text)).fault? = some f)
        none error (compile core pattern error)) ∧
    (∀ utf8 : Data,
      EndsFor (fun handle => ∃ text, utf8.Reads text ∧ handle = some text)
        (utf8.Unreadable "text") none error (createString utf8 error)) ∧
    (∀ (regex : Option ρ) (text : Data) (offset : Nat) (beginPosition beginString : Bool)
      (out : OutSlot),
      EndsFor (SearchResult core regex text.Reads offset beginPosition beginString out)
        (SearchFault core regex (text.Unreadable "text") text.Reads offset beginPosition
          beginString out)
        (searchError, out) error
        (search core regex text offset beginPosition beginString out error)) ∧
    (∀ (regex : Option ρ) (text : Option Bytes) (offset : Nat) (beginPosition beginString : Bool)
      (out : OutSlot),
      EndsFor (SearchResult core regex (text = some ·) offset beginPosition beginString out)
        (SearchFault core regex (fun f => text = none ∧ f = .nullPointer "text handle")
          (text = some ·) offset beginPosition beginString out)
        (searchError, out) error
        (searchString core regex text offset beginPosition beginString out error)) := by
  refine ⟨fun pattern => ?_, fun utf8 => ?_,
    fun regex text offset beginPosition beginString out => ?_,
    fun regex text offset beginPosition beginString out => ?_⟩
  · refine endsFor_makingCall (fun regex => ?_) (fun f => ?_) error
    · simp only [compileWork, Work.bind_eq_returned_iff, Work.ofExcept_eq_returned_iff,
        readText_eq_ok_iff]
    · simp only [compileWork, Work.fault?_bind_eq_some_iff, Work.fault?_ofExcept_eq_some_iff,
        Work.ofExcept_eq_returned_iff, readText_eq_error_iff, readText_eq_ok_iff]
  · refine endsFor_makingCall (fun text => ?_) (fun f => ?_) error
    · rw [textWork, Work.ofExcept_eq_returned_iff, readText_eq_ok_iff]
    · rw [textWork, Work.fault?_ofExcept_eq_some_iff, readText_eq_error_iff]
  · refine endsFor_searchingCall (fun bytes => ?_) (fun f => ?_) offset beginPosition
      beginString out error
    · rw [Work.ofExcept_eq_returned_iff, readText_eq_ok_iff]
    · rw [Work.fault?_ofExcept_eq_some_iff, readText_eq_error_iff]
  · exact endsFor_searchingCall (fun _ => textOf_eq_returned_iff)
      (fun _ => fault?_textOf_iff) offset beginPosition beginString out error

end RegexHost.Native

import RegexHost.Proofs.Engine.Linked

/-! The words of a fault inside the linked engine on their way to the caller of an action. They are
handed out as bytes that a NUL ends, read up to the NUL, decoded and given back, and are still all
there. -/
namespace RegexHost

open Native

variable {ρ α : Type}

/-- A space stands for each NUL, and all other characters are where they were. -/
theorem Native.getElem?_heard (f : Fault) (i : Nat) :
    (heard f).toList[i]? = f.message.toList[i]?.map fun c => if c = '\x00' then ' ' else c := by
  rw [heard, String.toList_ofList, List.getElem?_map]

theorem Native.messageBytes_eq (f : Fault) : messageBytes f = Utf8.encode (heard f).toList := by
  rw [heard, String.toList_ofList, messageBytes]

namespace Linked

variable {σ : Type}

/-- An action that fails for the faults of the work inside, and for nothing else. Its error has the
words of the fault. The library has lent them, to the last character, as the message of its reply,
and gets the message back. -/
structure Hears (e : Engine) (s : HostState σ) (fault? : Option Fault) (error : String → Error)
    (call : Block Bytes → Call) (ended : Except Error α × HostState σ) : Prop where
  error_iff : ∀ err, ended.1 = .error err ↔ ∃ f, fault? = some f ∧ err = error (heard f)
  told : ∀ f, fault? = some f → ∃ m : Block Bytes, m.content = Utf8.encode (heard f).toList ∧
    ended.2.calls = s.calls ++ [(e.id, call m), (e.id, .freeError m)]

variable {e : Engine} {s : HostState σ} {fault? : Option Fault} {error : String → Error}
  {call : Block Bytes → Call}

theorem hears_of_fault {f : Fault} (hf : fault? = some f) (address : Nat) (libraries : σ) :
    Hears e s fault? error call
      ((.error (error (Engine.messageText (messageBytes f))) : Except Error α),
        s.called e.id libraries [call ⟨address, messageBytes f⟩,
          .freeError ⟨address, messageBytes f⟩]) where
  error_iff err := by
    rw [messageText_messageBytes, Except.error.injEq, hf]
    constructor
    · rintro rfl
      exact ⟨f, rfl, rfl⟩
    · rintro ⟨_, ⟨⟩, rfl⟩
      rfl
  told f' hf' := by
    cases hf.symm.trans hf'
    exact ⟨_, messageBytes_eq f, rfl⟩

theorem hears_of_none (hf : fault? = none) (a : α) (s' : HostState σ) :
    Hears e s fault? error call ((.ok a : Except Error α), s') where
  error_iff err := by simp [hf]
  told f hf' := by cases hf.symm.trans hf'

variable (core : Core ρ) (e : Engine) (s : HostState (Heap ρ))

theorem hears_compile (pattern : Bytes) :
    Hears e s (compileWork core (.given pattern)).fault? .compile
      (fun m => .compile pattern ⟨none, some m⟩) ((e.compile (libraries core) pattern).run s) := by
  cases hf : (compileWork core (.given pattern)).fault? with
  | some f =>
    have hran : ((libraries core).compile e.id pattern).run s.libraries = _ :=
      compile_run_of_fault core s.libraries hf
    rw [Engine.compile_run, hran]
    exact hears_of_fault rfl _ _
  | none =>
    cases hw : compileWork core (.given pattern) with
    | returned regex =>
      have hran : ((libraries core).compile e.id pattern).run s.libraries = _ :=
        compile_run_of_returned core s.libraries hw
      rw [Engine.compile_run, hran]
      exact hears_of_none rfl _ _
    | _ =>
      rw [hw] at hf
      cases hf

theorem hears_internText (text : Bytes) :
    Hears e s (textWork (.given text)).fault? .native (fun m => .createString text ⟨none, some m⟩)
      ((e.internText (libraries core) text).run s) := by
  cases ht : Utf8.fault? text with
  | some f =>
    have hf := textWork_of_fault ht
    have hran : ((libraries core).createString e.id text).run s.libraries = _ :=
      createString_run_of_fault s.libraries hf
    rw [Engine.internText_run, hran, hf]
    exact hears_of_fault rfl _ _
  | none =>
    have hw : (textWork (.given text)).fault? = none := by
      rw [textWork, readText_given _ ht]
      rfl
    have hran : ((libraries core).createString e.id text).run s.libraries = _ :=
      createString_run s.libraries ht
    rw [Engine.internText_run, hran, hw]
    exact hears_of_none rfl _ _

/-- How a search ends, whichever way its text was given. -/
theorem hears_answer {work : Work (Option Region)} {heap : Heap ρ} {ran : Found × Heap ρ}
    (h : Replies heap work ran) (call : Found → Call) :
    Hears e s work.fault? .native (fun m => call ⟨searchError, none, some m⟩)
      (Engine.answer ran.1, s.called e.id ran.2 (call ran.1 :: Engine.foundBack ran.1)) := by
  cases h with
  | fault hf => exact hears_of_fault hf _ _
  | noMatch | matched => exact hears_of_none rfl _ _

theorem hears_search (p : PatternHandle) (text : Bytes) {offset : Nat} (options : SearchOptions)
    (h : offset ≤ text.length) :
    Hears e s
      (searchWork core (s.libraries.patterns.lookup p.address) (.given text) offset
        options.beginPosition options.beginString).fault? .native
      (fun m => .search p.address text offset options ⟨searchError, none, some m⟩)
      ((e.search (libraries core) p text offset options).run s) := by
  rw [Engine.search_run _ _ _ _ _ h]
  exact hears_answer e s (replies_search core s.libraries p.address text offset options) _

theorem hears_searchText (p : PatternHandle) (t : TextHandle) {offset : Nat}
    (options : SearchOptions) (h : offset ≤ t.length) :
    Hears e s
      (searchStringWork core (s.libraries.patterns.lookup p.address)
        (s.libraries.texts.lookup t.address) offset options.beginPosition
        options.beginString).fault? .native
      (fun m => .searchString p.address t.address offset options ⟨searchError, none, some m⟩)
      ((e.searchText (libraries core) p t offset options).run s) := by
  rw [Engine.searchText_run _ _ _ _ _ h]
  exact hears_answer e s
    (replies_searchString core s.libraries p.address t.address offset options) _

/-- Each action fails for the faults inside the exports that it calls, with an error that has the
fault's own words, a space for each NUL in them and nothing else changed. They are the words of the
message that the export has handed out, so it is never the words for a missing message that are
told. -/
theorem faults_are_heard :
    (∀ pattern, Hears e s (compileWork core (.given pattern)).fault? .compile
      (fun m => .compile pattern ⟨none, some m⟩) ((e.compile (libraries core) pattern).run s)) ∧
    (∀ text, Hears e s (textWork (.given text)).fault? .native
      (fun m => .createString text ⟨none, some m⟩) ((e.internText (libraries core) text).run s)) ∧
    (∀ (p : PatternHandle) (text : Bytes) (offset : Nat) (options : SearchOptions),
      offset ≤ text.length →
      Hears e s
        (searchWork core (s.libraries.patterns.lookup p.address) (.given text) offset
          options.beginPosition options.beginString).fault? .native
        (fun m => .search p.address text offset options ⟨searchError, none, some m⟩)
        ((e.search (libraries core) p text offset options).run s)) ∧
    (∀ (p : PatternHandle) (t : TextHandle) (offset : Nat) (options : SearchOptions),
      offset ≤ t.length →
      Hears e s
        (searchStringWork core (s.libraries.patterns.lookup p.address)
          (s.libraries.texts.lookup t.address) offset options.beginPosition
          options.beginString).fault? .native
        (fun m => .searchString p.address t.address offset options ⟨searchError, none, some m⟩)
        ((e.searchText (libraries core) p t offset options).run s)) ∧
    ∀ (f : Fault) (i : Nat),
      (heard f).toList[i]? = f.message.toList[i]?.map fun c => if c = '\x00' then ' ' else c :=
  ⟨hears_compile core e s, hears_internText core e s,
    fun p text _ options => hears_search core e s p text options,
    fun p t _ options => hears_searchText core e s p t options, getElem?_heard⟩

/-- An engine that crashes with these words in each search. -/
def crashing (words : String) : Core Unit where
  compile _ := .returned ()
  search _ _ _ _ _ := .crashed (.text words)

/-- A NUL and a letter of two bytes in the words of a crash. -/
theorem faults_are_heard_crash :
    let heap : Heap Unit := ⟨2, [(1, ())], []⟩
    ((Engine.search (libraries (crashing "é\x00!")) ⟨0, false⟩ ⟨1⟩ [0x61] 1 .standard).run
      ⟨heap, []⟩).1 = .error (.native "Panic happened: é !") := by
  intro heap
  obtain ⟨-, -, hsearch, -⟩ := faults_are_heard (crashing "é\x00!") ⟨0, false⟩ ⟨heap, []⟩
  have hheard : heard (.crashed "é\x00!") = "Panic happened: é !" := by decide +kernel
  exact ((hsearch ⟨1⟩ [0x61] 1 .standard (by decide)).error_iff _).mpr
    ⟨.crashed "é\x00!", by decide +kernel, by rw [hheard]⟩

end Linked

end RegexHost

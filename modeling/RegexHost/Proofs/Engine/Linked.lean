import Mathlib.Data.List.TakeWhile
import RegexHost.Engine.Linked
import RegexHost.Proofs.Engine.Calls
import RegexHost.Proofs.Native.Arguments

/-! The linked engine as its host meets it. A search of text that its host has checked passes every
check of the exports, so its result is what the engine inside says. -/
namespace RegexHost

namespace Native

variable {ρ κ : Type} (core : Core ρ) {regex : ρ} {text : Bytes} {offset : Nat}
  (beginPosition beginString : Bool)

theorem checkedSearch_eq (hsize : text.length ≤ textLimit) (ho : offset ≤ text.length) :
    checkedSearch core regex text offset beginPosition beginString =
      core.search regex text offset beginPosition beginString := by
  rw [checkedSearch, if_neg (Nat.not_lt.mpr hsize), if_neg (Nat.not_lt.mpr ho)]

theorem readText_given (argument : String) (ht : Utf8.fault? text = none) :
    readText argument (.given text) = .ok text :=
  readText_eq_ok_iff.mpr (.given ht)

theorem textWork_of_fault {f : Utf8.Fault} (ht : Utf8.fault? text = some f) :
    (textWork (.given text)).fault? = some (.notUtf8 f) :=
  Work.fault?_ofExcept_eq_some_iff.mpr (readText_eq_error_iff.mpr (.notUtf8 ht))

/-- A live pattern and UTF-8 text of a size that can be reported leave only the search itself. -/
theorem searchWork_eq (ht : Utf8.fault? text = none) (hsize : text.length ≤ textLimit)
    (ho : offset ≤ text.length) :
    searchWork core (some regex) (.given text) offset beginPosition beginString =
      core.search regex text offset beginPosition beginString := by
  rw [searchWork, readText_given _ ht]
  exact checkedSearch_eq core beginPosition beginString hsize ho

theorem searchStringWork_eq (hsize : text.length ≤ textLimit) (ho : offset ≤ text.length) :
    searchStringWork core (some regex) (some text) offset beginPosition beginString =
      core.search regex text offset beginPosition beginString :=
  checkedSearch_eq core beginPosition beginString hsize ho

/-- The message of a fault as it is read on the other side. -/
def heard (f : Fault) : String :=
  .ofList (f.message.toList.map fun c => if c = '\x00' then ' ' else c)

theorem messageText_messageBytes (f : Fault) : Engine.messageText (messageBytes f) = heard f := by
  have hall : ∀ b ∈ messageBytes f, decide (b ≠ 0) = true := by
    intro b hb
    rw [decide_eq_true_iff]
    rintro rfl
    exact zero_notMem_messageBytes f hb
  rw [Engine.messageText, List.takeWhile_eq_self_iff.mpr hall, messageBytes,
    Utf8.decode_encode, heard]

/-- What the host learns of the work inside a search. -/
def learned : Work (Option Region) → Except Error (Option Match)
  | .returned found => .ok (found.map fun region => .ofFlat (flatten region))
  | .failed f => .error (.native (heard f))
  | .crashed p => .error (.native (heard (.ofPayload p)))

theorem learned_of_fault {work : Work (Option Region)} {f : Fault} (h : work.fault? = some f) :
    learned work = .error (.native (heard f)) := by
  cases work with
  | returned found => cases h
  | failed f' => cases h; rfl
  | crashed p => cases h; rfl

end Native

namespace Linked

open Native

variable {ρ : Type} (core : Core ρ) (heap : Heap ρ)

/-- A heap that has handed out some more addresses. -/
def Heap.skip (heap : Heap ρ) (n : Nat) : Heap ρ :=
  { heap with next := heap.next + n }

/-- What a search replies and leaves of the heap: a message of its fault, nothing, or the captures
of a match. -/
inductive Replies (heap : Heap ρ) : Work (Option Region) → Found × Heap ρ → Prop
  | fault {work : Work (Option Region)} {f : Fault} (hf : work.fault? = some f) :
      Replies heap work (⟨searchError, none, some ⟨heap.next, messageBytes f⟩⟩, heap.skip 1)
  | noMatch : Replies heap (.returned none) (⟨Native.noMatch, none, none⟩, heap)
  | matched {region : Region} :
      Replies heap (.returned (some region))
        (⟨Native.matched, some ⟨heap.next, flatten region⟩, none⟩, heap.skip 1)

/-- The export's outcome, copied out into blocks of the heap. -/
theorem replies_reply (work : Work (Option Region)) :
    let (status, frame) := searchingCall work (⟨some none, some none, []⟩ : Frame ρ)
    Replies heap work ((reply ((status, frame.out), frame.error)).run heap) := by
  cases hf : work.fault? with
  | some f =>
    have hc : captureFault? work (some none) = some f := by
      cases work with
      | returned found => cases hf
      | _ => exact hf
    rw [searchingCall_of_fault hc]
    exact .fault hf
  | none =>
    cases work with
    | returned found =>
      cases found with
      | none => exact .noMatch
      | some region => exact .matched
    | _ => cases hf

theorem replies_search (p : Nat) (text : Bytes) (offset : Nat) (options : SearchOptions) :
    Replies heap
      (searchWork core (heap.patterns.lookup p) (.given text) offset options.beginPosition
        options.beginString)
      ((search core p text offset options).run heap) :=
  replies_reply heap _

theorem replies_searchString (p t offset : Nat) (options : SearchOptions) :
    Replies heap
      (searchStringWork core (heap.patterns.lookup p) (heap.texts.lookup t) offset
        options.beginPosition options.beginString)
      ((searchString core p t offset options).run heap) :=
  replies_reply heap _

theorem Replies.answer {heap : Heap ρ} {work : Work (Option Region)} {ran : Found × Heap ρ}
    (h : Replies heap work ran) : Engine.answer ran.1 = learned work := by
  cases h with
  | fault hf =>
    rw [learned_of_fault hf]
    exact congrArg (fun text => Except.error (Error.native text)) (messageText_messageBytes _)
  | noMatch | matched => rfl

theorem answer_search (p : Nat) (text : Bytes) (offset : Nat) (options : SearchOptions) :
    Engine.answer ((search core p text offset options).run heap).1 =
      learned (searchWork core (heap.patterns.lookup p) (.given text) offset options.beginPosition
        options.beginString) :=
  (replies_search core heap p text offset options).answer

theorem answer_searchString (p t offset : Nat) (options : SearchOptions) :
    Engine.answer ((searchString core p t offset options).run heap).1 =
      learned (searchStringWork core (heap.patterns.lookup p) (heap.texts.lookup t) offset
        options.beginPosition options.beginString) :=
  (replies_searchString core heap p t offset options).answer

theorem compile_run_of_returned {pattern : Bytes} {regex : ρ}
    (hw : compileWork core (.given pattern) = .returned regex) :
    (compile core pattern).run heap =
      (⟨some heap.next, none⟩,
        { heap.skip 1 with patterns := (heap.next, regex) :: heap.patterns }) := by
  rw [compile, Native.compile, hw]
  rfl

theorem compile_run_of_fault {pattern : Bytes} {f : Fault}
    (hw : (compileWork core (.given pattern)).fault? = some f) :
    (compile core pattern).run heap = (⟨none, some ⟨heap.next, messageBytes f⟩⟩, heap.skip 1) := by
  rw [compile, Native.compile, makingCall_of_fault hw]
  rfl

theorem createString_run {text : Bytes} (ht : Utf8.fault? text = none) :
    (createString text).run heap =
      (⟨some heap.next, none⟩, { heap.skip 1 with texts := (heap.next, text) :: heap.texts }) := by
  have hw : textWork (.given text) = .returned text := by
    rw [textWork, readText_given _ ht]
    rfl
  rw [createString, Native.createString, hw]
  rfl

theorem createString_run_of_fault {text : Bytes} {f : Fault}
    (hw : (textWork (.given text)).fault? = some f) :
    (createString text).run heap = (⟨none, some ⟨heap.next, messageBytes f⟩⟩, heap.skip 1) := by
  rw [createString, Native.createString, makingCall_of_fault hw]
  rfl

end Linked
end RegexHost

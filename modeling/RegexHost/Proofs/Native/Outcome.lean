import RegexHost.Native.Exports
import RegexHost.Proofs.Text.Utf8

/-! How a call of an export ends. Either it has done what it is for and no message is written, or it
returns its fallback, a message is the one thing written, and nothing was made. -/
namespace RegexHost

theorem Utf8.eq_nul_of_mem_encodeChar {c : Char} (h : 0 ∈ encodeChar c) : c = '\x00' := by
  have hv : c.toNat < 0xD800 ∨ 0xDFFF < c.toNat ∧ c.toNat < 0x110000 := c.valid
  have hz (n : Nat) : (0 : UInt8) = .ofNat n ↔ n % 256 = 0 := by
    rw [← UInt8.toNat_inj, UInt8.toNat_ofNat', eq_comm]
    rfl
  unfold encodeChar at h
  dsimp only at h
  split_ifs at h with h1 h2 h3
  · rw [List.mem_singleton, hz] at h
    exact Char.toNat_inj.mp (show c.toNat = 0 by omega)
  all_goals
    simp only [List.mem_cons, List.not_mem_nil, or_false, hz] at h
    exfalso
    omega

namespace Native

variable {κ ρ : Type}

theorem zero_notMem_messageBytes (f : Fault) : 0 ∉ messageBytes f := by
  intro h
  obtain ⟨c, hc, h0⟩ := List.mem_flatMap.mp h
  obtain ⟨d, -, rfl⟩ := List.mem_map.mp hc
  have hd := Utf8.eq_nul_of_mem_encodeChar h0
  split_ifs at hd with hn
  · cases hd
  · exact hn hd

namespace Frame

/-- The frame with a message for a fault over what was in the error slot. -/
def told (f : Fault) (frame : Frame κ) : Frame κ :=
  { frame with error := frame.error.map fun _ => some (messageBytes f) }

/-- A message is never refused for a NUL inside. -/
theorem report_eq_told (f : Fault) (frame : Frame κ) : frame.report f = frame.told f := by
  have hm : terminated? (messageBytes f) = some (messageBytes f) :=
    if_neg (zero_notMem_messageBytes f)
  obtain ⟨out, error, made⟩ := frame
  rw [report, told, hm]
  cases error <;> rfl

end Frame

theorem length_flatten (region : Region) : (flatten region).length = 2 * region.length := by
  induction region with
  | nil => rfl
  | cons group region ih =>
    rw [flatten, List.flatMap_cons, List.length_append, ← flatten, ih, List.length_cons]
    cases group <;> simp <;> omega

/-- The object is made and handed out, and nothing else is touched. -/
inductive Makes (work : Work κ) (before : Frame κ) : Option κ × Frame κ → Prop
  | intro {k : κ} (returned : work = .returned k) :
      Makes work before (some k, { before with made := before.made ++ [k] })

/-- Two ends are written for each group of the region, or nothing is found and nothing written. -/
inductive Answers (work : Work (Option Region)) (before : Frame κ) : Int32 × Frame κ → Prop
  | noMatch (returned : work = .returned none) : Answers work before (Native.noMatch, before)
  | matched {region : Region} {ends : List Int32} (returned : work = .returned (some region))
      (buffer : before.out ≠ none) (flat : ends = flatten region)
      (two : ends.length = 2 * region.length) :
      Answers work before (Native.matched, { before with out := some (some ends) })

/-- The fallback is returned for a fault. Nothing is made, and all that is written is a message
without a NUL, if there is a place for it. -/
inductive Refuses {α : Type} (fault : Option Fault) (fallback : α) (before : Frame κ) :
    α × Frame κ → Prop
  | intro {f : Fault} {message : Bytes} (cause : fault = some f) (text : message = messageBytes f)
      (noNul : 0 ∉ message) :
      Refuses fault fallback before
        (fallback, { before with error := before.error.map fun _ => some message })

/-- A match without a place for its captures is a fault of its own. -/
def captureFault? (work : Work (Option Region)) (out : OutSlot) : Option Fault :=
  match work, out with
  | .returned (some _), none => some (.nullPointer "capture buffer")
  | work, _ => work.fault?

theorem refuses_told {α : Type} {fault : Option Fault} {f : Fault} (h : fault = some f)
    (fallback : α) (before : Frame κ) : Refuses fault fallback before (fallback, before.told f) :=
  .intro h rfl (zero_notMem_messageBytes f)

theorem makingCall_of_fault {work : Work κ} {f : Fault} (h : work.fault? = some f)
    (before : Frame κ) : makingCall work before = (none, before.told f) := by
  rw [← Frame.report_eq_told]
  cases work with
  | returned k => cases h
  | failed f' =>
    cases h
    rfl
  | crashed p =>
    cases h
    rfl

theorem searchingCall_of_fault {work : Work (Option Region)} {before : Frame κ} {f : Fault}
    (h : captureFault? work before.out = some f) :
    searchingCall work before = (searchError, before.told f) := by
  rw [← Frame.report_eq_told]
  cases work with
  | returned found =>
    obtain ⟨out, error, made⟩ := before
    cases found with
    | none => cases h
    | some region =>
      cases out with
      | none =>
        cases h
        rfl
      | some old => cases h
  | failed f' =>
    cases h
    rfl
  | crashed p =>
    cases h
    rfl

theorem makingCall_exclusive (work : Work κ) (before : Frame κ) :
    Xor (Makes work before (makingCall work before))
      (Refuses work.fault? none before (makingCall work before)) := by
  cases hf : work.fault? with
  | none =>
    cases work with
    | returned k => exact .inl ⟨.intro rfl, nofun⟩
    | _ => cases hf
  | some f =>
    rw [makingCall_of_fault hf]
    exact .inr ⟨refuses_told rfl none before, nofun⟩

theorem searchingCall_exclusive (work : Work (Option Region)) (before : Frame κ) :
    Xor (Answers work before (searchingCall work before))
      (Refuses (captureFault? work before.out) searchError before (searchingCall work before)) := by
  cases hf : captureFault? work before.out with
  | none =>
    obtain ⟨out, error, made⟩ := before
    cases work with
    | returned found =>
      cases found with
      | none => exact .inl ⟨.noMatch rfl, nofun⟩
      | some region =>
        cases out with
        | none => cases hf
        | some old => exact .inl ⟨.matched rfl nofun rfl (length_flatten region), nofun⟩
    | _ => cases hf
  | some f =>
    rw [searchingCall_of_fault hf]
    exact .inr ⟨refuses_told rfl searchError before, nofun⟩

/-- Whatever the arguments, and whatever the engine inside does, a call ends in one of its two
ways. -/
theorem exports_succeed_or_report (core : Core ρ) :
    (∀ (pattern : Data) (before : Frame ρ),
      let work := compileWork core pattern
      Xor (Makes work before (makingCall work before))
        (Refuses work.fault? none before (makingCall work before))) ∧
    (∀ (utf8 : Data) (before : Frame Bytes),
      let work := textWork utf8
      Xor (Makes work before (makingCall work before))
        (Refuses work.fault? none before (makingCall work before))) ∧
    (∀ (regex : Option ρ) (text : Data) (offset : Nat) (beginPosition beginString : Bool)
      (before : Frame κ),
      let work := searchWork core regex text offset beginPosition beginString
      Xor (Answers work before (searchingCall work before))
        (Refuses (captureFault? work before.out) searchError before (searchingCall work before))) ∧
    (∀ (regex : Option ρ) (text : Option Bytes) (offset : Nat) (beginPosition beginString : Bool)
        (before : Frame κ),
      let work := searchStringWork core regex text offset beginPosition beginString
      Xor (Answers work before (searchingCall work before))
        (Refuses (captureFault? work before.out) searchError before (searchingCall work before))) :=
  ⟨fun _ before => makingCall_exclusive _ before, fun _ before => makingCall_exclusive _ before,
    fun _ _ _ _ _ before => searchingCall_exclusive _ before,
    fun _ _ _ _ _ before => searchingCall_exclusive _ before⟩

end Native
end RegexHost

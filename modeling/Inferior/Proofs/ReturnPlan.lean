import Inferior.Amd64.Returned
import Inferior.Proofs.ArgumentPlanning

/-! Where the parts of a returned value travel, before any of them does.

A value is transferred eightbyte by eightbyte, and each of them is given a register when its turn
comes. Which one depends on the classes and on the length alone, so it can be told beforehand. Types
have few pairs of classes, and none of them is refused on the way.
-/

set_option autoImplicit false

namespace Inferior.Amd64

def returnRegisters : List Nat := integerReturns ++ sseReturns ++ [st 0]

/-- A part of a value, from `start` on, and the place in a register where it is returned. -/
structure ReturnPart where
  eightbyteClass : EightbyteClass
  number : Nat
  offset : Nat
  start : Nat
  length : Nat
  deriving DecidableEq, Repr

namespace ReturnPart

def Apart (first second : ReturnPart) : Prop :=
  first.number ≠ second.number ∨ first.offset + first.length ≤ second.offset ∨
    second.offset + second.length ≤ first.offset

instance (first second : ReturnPart) : Decidable (first.Apart second) :=
  inferInstanceAs (Decidable (_ ∨ _))

/-- The class of a part, and where in the value it starts and stops. -/
def span (part : ReturnPart) : EightbyteClass × Nat × Nat :=
  (part.eightbyteClass, part.start, part.start + part.length)

/-- A part has room in one of the registers for returned values, and in a buffer of two eightbytes. -/
def Fits (part : ReturnPart) : Prop :=
  part.number ∈ returnRegisters ∧ part.offset + part.length ≤ registerFile.width part.number ∧
    part.start + part.length ≤ 16

instance (part : ReturnPart) : Decidable part.Fits := inferInstanceAs (Decidable (_ ∧ _))

end ReturnPart

/-- The parts of a value, given the eightbytes with their indices, as far as the value reaches. -/
def ReturnProgress.plan (progress : ReturnProgress) (classes : Classification) :
    List (EightbyteClass × Nat) → Except ReturnError (List ReturnPart)
  | [] => pure []
  | (eightbyteClass, index) :: rest => do
    if progress.remaining = 0 then return []
    let (place, progress) ← progress.place classes index eightbyteClass
    let others ← plan { progress with remaining := progress.remaining - 8 } classes rest
    return match place with
      | some (number, offset) =>
        ⟨eightbyteClass, number, offset, 8 * index, min progress.remaining 8⟩ :: others
      | none => others

/-- Where an eightbyte of a value starts and stops. Both bytes of an x87 exponent count, however long
the value is. -/
def eightbyteSpan (length : Nat) (eightbyte : EightbyteClass × Nat) : EightbyteClass × Nat × Nat :=
  (eightbyte.1, 8 * eightbyte.2,
    if eightbyte.1 = .x87Up then 10 else min (8 * eightbyte.2 + 8) length)

def returnedSpans (classes : Classification) (length : Nat) : List (EightbyteClass × Nat × Nat) :=
  ((classes.toList.zipIdx.take (eightbytes length)).filter (·.1 ≠ .noClass)).map
    (eightbyteSpan length)

def returnParts (classes : Classification) (length : Nat) : List ReturnPart :=
  ((ReturnProgress.mk 0 0 length).plan classes classes.toList.zipIdx).toOption.getD []

def registerPairs : List Classification :=
  [⟨.integer, .noClass⟩, ⟨.integer, .integer⟩, ⟨.integer, .sse⟩, ⟨.integer, .x87⟩,
    ⟨.sse, .noClass⟩, ⟨.sse, .integer⟩, ⟨.sse, .sse⟩, ⟨.sse, .sseUp⟩, ⟨.sse, .x87⟩,
    ⟨.noClass, .noClass⟩, ⟨.noClass, .integer⟩, ⟨.noClass, .sse⟩, ⟨.noClass, .x87⟩,
    ⟨.x87, .x87Up⟩, ⟨.x87, .integer⟩]

theorem mem_registerPairs {classes : Classification} (wellFormed : classes.WellFormed)
    (inRegisters : classes.first ≠ .memory) : classes ∈ registerPairs := by
  obtain ⟨first, second⟩ := classes
  rw [Classification.wellFormed_iff] at wellFormed
  revert wellFormed inRegisters
  cases first <;> cases second <;> decide

structure Plans (classes : Classification) (length : Nat) (parts : List ReturnPart) : Prop where
  planned : (ReturnProgress.mk 0 0 length).plan classes classes.toList.zipIdx = .ok parts
  spans : parts.map ReturnPart.span = returnedSpans classes length
  fits : ∀ part ∈ parts, part.Fits
  apart : parts.Pairwise ReturnPart.Apart

/-- No eightbyte of a value in registers is refused, and none gets a place that another one has. -/
theorem plans_returnParts {classes : Classification} (wellFormed : classes.WellFormed)
    (inRegisters : classes.first ≠ .memory) {length : Nat} (short : length ≤ 16) :
    Plans classes length (returnParts classes length) := by
  -- There are so few pairs and lengths that each plan can be looked at.
  have all : ∀ classes ∈ registerPairs, ∀ length < 17,
      ((ReturnProgress.mk 0 0 length).plan classes classes.toList.zipIdx).toOption.isSome ∧
        (returnParts classes length).map ReturnPart.span = returnedSpans classes length ∧
        (∀ part ∈ returnParts classes length, part.Fits) ∧
        (returnParts classes length).Pairwise ReturnPart.Apart := by
    decide +kernel
  obtain ⟨accepted, spans, fits, apart⟩ :=
    all classes (mem_registerPairs wellFormed inRegisters) length (Nat.lt_succ_of_le short)
  refine ⟨?_, spans, fits, apart⟩
  unfold returnParts
  cases planned : (ReturnProgress.mk 0 0 length).plan classes classes.toList.zipIdx with
  | error error =>
    rw [planned] at accepted
    cases accepted
  | ok parts => rfl

theorem stop_le_reach_of_pair : ∀ classes ∈ registerPairs, ∀ length < 17,
    ∀ part ∈ returnParts classes length, part.start + part.length ≤
      if length = 9 ∧ classes.second = .x87Up then 10 else length := by
  -- As for the plans themselves, there are few enough pairs and lengths to look at each.
  decide +kernel

/-- Whether the exponent of an x87 number reaches behind the end of a type. -/
def Overreaches (type : DataType) : Prop := type.length = 9 ∧ (classify type).second = .x87Up

instance (type : DataType) : Decidable (Overreaches type) := inferInstanceAs (Decidable (_ ∧ _))

def reach (type : DataType) : Nat := if Overreaches type then 10 else type.length

theorem length_le_reach (type : DataType) : type.length ≤ reach type := by
  unfold reach
  split
  · rename_i overreaches
    rw [overreaches.1]
    decide
  · exact Nat.le_refl _

theorem stop_le_reach {type : DataType} (inRegisters : (classify type).first ≠ .memory)
    (short : type.length ≤ 16) :
    ∀ part ∈ returnParts (classify type) type.length, part.start + part.length ≤ reach type :=
  stop_le_reach_of_pair (classify type) (mem_registerPairs (wellFormed_classify type) inRegisters)
    type.length (Nat.lt_succ_of_le short)

def mantissaPart : ReturnPart := ⟨.x87, st 0, 0, 0, 8⟩

def exponentPart : ReturnPart := ⟨.x87Up, st 0, 8, 8, 2⟩

namespace Overreaches

variable {type : DataType} (overreaches : Overreaches type)
include overreaches

theorem classify_eq : classify type = ⟨.x87, .x87Up⟩ := by
  rw [← (wellFormed_classify type).exponent overreaches.2, ← overreaches.2]

theorem inRegisters : (classify type).first ≠ .memory := by
  rw [overreaches.classify_eq]
  decide

theorem short : type.length ≤ 16 := by
  rw [overreaches.1]
  decide

theorem parts : returnParts (classify type) type.length = [mantissaPart, exponentPart] := by
  rw [overreaches.classify_eq, overreaches.1]
  rfl

end Overreaches

/-- A buffer is as long as the type, but does not have all that is transferred of it. -/
def CutsOff (type : DataType) (buffer : Bytes) : Prop :=
  type.length ≤ buffer.length ∧ buffer.length < reach type

instance (type : DataType) (buffer : Bytes) : Decidable (CutsOff type buffer) :=
  inferInstanceAs (Decidable (_ ∧ _))

/-- It takes the exponent of an x87 number for a buffer of that kind. -/
theorem cutsOff_iff {type : DataType} {buffer : Bytes} :
    CutsOff type buffer ↔ Overreaches type ∧ buffer.length = 9 := by
  unfold CutsOff reach
  by_cases overreaches : Overreaches type
  · have nine := overreaches.1
    rw [if_pos overreaches, nine]
    exact ⟨fun cuts => ⟨overreaches, by omega⟩, fun ⟨_, length⟩ => by omega⟩
  · rw [if_neg overreaches]
    exact iff_of_false (fun cuts => absurd cuts.1 (Nat.not_le.2 cuts.2)) fun both =>
      overreaches both.1

variable {ε τ : Type}

def transferParts (transfer : Transfer) (buffer : Bytes) : List ReturnPart → Transferring ε τ Bytes
  | [] => pure buffer
  | part :: rest => do
    if part.eightbyteClass = .x87 ∧ transfer.isWrite then told occupyStackTop
    let buffer ← transferPart transfer buffer part.number part.offset part.start part.length
    transferParts transfer buffer rest

/-- The x87 stack is only cleared to write to it. -/
theorem transferParts_cons {transfer : Transfer} (other : transfer.isWrite = false)
    (buffer : Bytes) (part : ReturnPart) (rest : List ReturnPart) :
    (transferParts transfer buffer (part :: rest) : Transferring ε τ Bytes) =
      transferPart transfer buffer part.number part.offset part.start part.length >>=
        fun buffer => transferParts transfer buffer rest := by
  have idle : ¬(part.eightbyteClass = .x87 ∧ transfer.isWrite = true) := by
    rw [other]
    exact fun both => Bool.false_ne_true both.2
  exact if_neg idle

theorem run_inspectParts (buffer : Bytes) (parts : List ReturnPart) (machine : Machine registerFile τ) :
    Attempt.run (transferParts .inspect buffer parts : Transferring ε τ Bytes) machine =
      (.ok buffer, machine) := by
  induction parts with
  | nil => rfl
  | cons part rest ih =>
    rw [transferParts_cons rfl]
    exact ih

theorem transferEightbytes_eq {classes : Classification} {progress : ReturnProgress}
    {eightbytes : List (EightbyteClass × Nat)} {parts : List ReturnPart}
    (planned : progress.plan classes eightbytes = .ok parts) (transfer : Transfer)
    (buffer : Bytes) : transferEightbytes transfer classes buffer progress eightbytes =
      (transferParts transfer buffer parts : Transferring ε τ Bytes) := by
  induction eightbytes generalizing progress parts buffer with
  | nil =>
    cases planned
    rfl
  | cons eightbyte rest ih =>
    unfold ReturnProgress.plan at planned
    unfold transferEightbytes
    -- The plan ends where the transfer does, once nothing of the value is left.
    by_cases done : progress.remaining = 0
    · rw [if_pos done] at planned ⊢
      cases planned
      rfl
    · rw [if_neg done] at planned ⊢
      obtain ⟨⟨place, next⟩, here, planned⟩ := bind_eq_ok.1 planned
      obtain ⟨others, there, planned⟩ := bind_eq_ok.1 planned
      rw [here]
      cases place with
      | none =>
        cases planned
        exact ih there buffer
      | some slot =>
        cases planned
        unfold transferParts
        simp only [← ih there]
        rfl

/-- A value in memory is read from where `rax` points. -/
def transferInMemory (target : Target 64 ε τ) (type : DataType) :
    Transfer → Transferring ε τ (ReturnConvention × Bytes)
  | .read buffer => do
    let address ← told (Machine.fromRegisters (·.readUnsigned rax))
    let block ← told (Machine.onMemory (target.read (BitVec.ofNat 64 address) type.length))
    return (.inMemory, buffer.overwrite 0 block.val)
  | transfer => pure (.inMemory, transfer.buffer)

def transferInRegisters (type : DataType) (transfer : Transfer) :
    Transferring ε τ (ReturnConvention × Bytes) := do
  let parts := returnParts (classify type) type.length
  return (.inRegisters, ← transferParts transfer transfer.buffer parts)

/-- A value is refused for its length before any of it is transferred. -/
theorem attemptTransfer_eq (target : Target 64 ε τ) (type : DataType) (transfer : Transfer) :
    attemptTransfer target type transfer =
      if transfer.room?.any (· < type.length) then
        throw (.failed (.internal ReturnError.bufferTooSmall.message))
      else if (classify type).first = .memory then transferInMemory target type transfer
      else if type.length > 16 then throw (.failed (.internal ReturnError.tooLarge.message))
      else transferInRegisters type transfer := by
  have wellFormed := wellFormed_classify type
  unfold attemptTransfer
  by_cases small : transfer.room?.any (· < type.length)
  · rw [if_pos small, if_pos small]
    rfl
  · rw [if_neg small, if_neg small]
    by_cases memory : (classify type).first = .memory
    · rw [if_pos memory, if_pos memory]
      cases transfer <;> rfl
    · have second := memory ∘ wellFormed.whole.2
      rw [if_neg memory, if_neg memory, if_neg second]
      by_cases long : type.length > 16
      · rw [if_pos long, if_pos long]
        rfl
      · have planned := (plans_returnParts wellFormed memory (Nat.not_lt.1 long)).planned
        rw [if_neg long, if_neg long, transferEightbytes_eq planned]
        rfl

end Inferior.Amd64

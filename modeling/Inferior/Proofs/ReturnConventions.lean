import Inferior.Proofs.ReturnedValues

/-! Which types can be returned.

Of the types that are too large for registers, only aggregates are said to be in memory. The others
have no class at all, which reads as if they were returned in registers, and are refused once their
length is looked at.
-/

set_option autoImplicit false

namespace Inferior.Amd64

/-- A type without members that is too large for registers. -/
def Oversized (type : DataType) : Prop :=
  16 < type.length ∧ type.code ∉ [.array, .struct, .union]

instance (type : DataType) : Decidable (Oversized type) := inferInstanceAs (Decidable (_ ∧ _))

theorem oversized_iff {type : DataType} :
    Oversized type ↔ 16 < type.length ∧ (classify type).first ≠ .memory := by
  refine and_congr_right fun long => ?_
  rw [classify_of_long long]
  split
  · rename_i aggregate
    exact iff_of_false (not_not_intro aggregate) (not_not_intro rfl)
  · rename_i scalar
    exact iff_of_true scalar (by decide)

def returnConvention (type : DataType) : ReturnConvention :=
  if (classify type).first = .memory then .inMemory else .inRegisters

/-- A buffer to write from has all that is transferred of a value. -/
def Transfer.Supplies (type : DataType) : Transfer → Prop
  | .inspect => True
  | .read _ => False
  | .write buffer => reach type ≤ buffer.length

variable {ε τ : Type}

theorem Transfer.Supplies.room {type : DataType} {transfer : Transfer}
    (supplies : transfer.Supplies type) : ∀ size ∈ transfer.room?, type.length ≤ size := by
  cases transfer with
  | inspect => nofun
  | read buffer => exact supplies.elim
  | write buffer =>
    rintro _ ⟨⟩
    exact Nat.le_trans (length_le_reach type) supplies

theorem run_transferInRegisters {type : DataType} (inRegisters : (classify type).first ≠ .memory)
    (short : type.length ≤ 16) {transfer : Transfer} (supplies : transfer.Supplies type)
    (machine : Machine registerFile τ) : ∃ after,
      Attempt.run (transferInRegisters type transfer : Transferring ε τ _) machine =
        (.ok (.inRegisters, transfer.buffer), after) := by
  have plans := plans_returnParts (wellFormed_classify type) inRegisters short
  unfold transferInRegisters
  rw [Attempt.run_bind]
  cases transfer with
  | inspect =>
    rw [run_inspectParts]
    exact ⟨machine, rfl⟩
  | read buffer => exact supplies.elim
  | write buffer =>
    have inside : ∀ part ∈ returnParts (classify type) type.length,
        part.start + part.length ≤ buffer.length := fun part listed =>
      Nat.le_trans (stop_le_reach inRegisters short part listed) supplies
    dsimp only [Transfer.buffer]
    rw [run_writeParts plans.fits inside]
    exact ⟨_, rfl⟩

/-- Inspecting and writing a value succeed unless it is oversized. An oversized value is refused
before anything is changed. -/
theorem transferReturned_succeeds (target : Target 64 ε τ) {type : DataType} {transfer : Transfer}
    (supplies : transfer.Supplies type) (machine : Machine registerFile τ) :
    (¬Oversized type → ∃ after, Attempt.run (transferReturned target type transfer) machine =
      (.ok (returnConvention type, transfer.buffer), after)) ∧
    (Oversized type → Attempt.run (transferReturned target type transfer) machine =
      (.error (.internal ReturnError.tooLarge.message), machine)) := by
  rw [oversized_iff, transferReturned, Attempt.run_mapError, attemptTransfer_eq,
    if_neg (Transfer.not_small supplies.room)]
  unfold returnConvention
  constructor
  · intro sized
    by_cases memory : (classify type).first = .memory
    · rw [if_pos memory, if_pos memory]
      refine ⟨machine, ?_⟩
      cases transfer with
      | read buffer => exact supplies.elim
      | inspect | write buffer => rfl
    · have short := Nat.not_lt.1 fun long => sized ⟨long, memory⟩
      rw [if_neg memory, if_neg memory, if_neg (Nat.not_lt.2 short)]
      obtain ⟨after, ran⟩ := @run_transferInRegisters ε τ _ memory short _ supplies machine
      rw [ran]
      exact ⟨after, rfl⟩
  · rintro ⟨long, memory⟩
    rw [if_neg memory, if_pos long]
    rfl

theorem transferReturned_succeeds_wideInteger :
    (∃ after, Attempt.run (transferReturned (Memory.target 64 Empty) (.int 8)
      (.write (Bytes.zeros 8))) sampleMachine = (.ok (.inRegisters, Bytes.zeros 8), after)) ∧
    Attempt.run (transferReturned (Memory.target 64 Empty) (.int 32) .inspect) sampleMachine =
      (.error (.internal ReturnError.tooLarge.message), sampleMachine) := by
  have supplies : (Transfer.write (Bytes.zeros 8)).Supplies (.int 8) :=
    (by decide : reach (.int 8) ≤ (Bytes.zeros 8).length)
  have inspects : Transfer.inspect.Supplies (.int 32) := trivial
  exact ⟨(transferReturned_succeeds (Memory.target 64 Empty) supplies sampleMachine).1 (by decide),
    (transferReturned_succeeds (Memory.target 64 Empty) inspects sampleMachine).2 (by decide)⟩

/-- An integer of 32 bytes cannot even be inspected. -/
theorem not_all_transferReturned :
    ¬∀ (type : DataType) (machine : Machine registerFile (Memory 64 Empty)), ∃ outcome after,
      Attempt.run (transferReturned (Memory.target 64 Empty) type .inspect) machine =
        (.ok outcome, after) := by
  intro all
  obtain ⟨outcome, after, inspected⟩ := all (.int 32) sampleMachine
  cases inspected

end Inferior.Amd64

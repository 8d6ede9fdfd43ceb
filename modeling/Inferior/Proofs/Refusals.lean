import Inferior.Proofs.FailureRelay
import Inferior.Proofs.ReturnPlan

/-! What values are refused for, when they are to be passed or returned.

The classes of a type always fit together, so that nothing is refused because one eightbyte does not go
with the other. What is left are buffers that are too short, values that are too long to be returned
and x87 numbers among arguments.
-/

set_option autoImplicit false

namespace Inferior

def EndsOnly {σ ε α : Type} (allowed : ε → Prop) (attempt : Attempt σ ε α) : Prop :=
  ∀ state error, (Attempt.run attempt state).1 = .error error → allowed error

namespace EndsOnly

variable {σ ε α β : Type} {allowed : ε → Prop}

theorem pure (value : α) : EndsOnly allowed (Pure.pure value : Attempt σ ε α) := nofun

theorem throw {error : ε} (fine : allowed error) :
    EndsOnly allowed (MonadExcept.throw error : Attempt σ ε α) := by
  rintro state _ ⟨⟩
  exact fine

theorem bind_of_ok {attempt : Attempt σ ε α} {next : α → Attempt σ ε β}
    (first : EndsOnly allowed attempt)
    (rest : ∀ {before after value}, Attempt.run attempt before = (.ok value, after) →
      EndsOnly allowed (next value)) : EndsOnly allowed (attempt >>= next) := by
  intro state error ended
  have here := first state error
  rw [Attempt.run_bind] at ended
  rcases ran : Attempt.run attempt state with ⟨other | value, after⟩
  · rw [ran] at here ended
    cases ended
    exact here rfl
  · rw [ran] at ended
    exact rest ran after error ended

theorem bind {attempt : Attempt σ ε α} {next : α → Attempt σ ε β}
    (first : EndsOnly allowed attempt) (rest : ∀ value, EndsOnly allowed (next value)) :
    EndsOnly allowed (attempt >>= next) :=
  first.bind_of_ok fun _ => rest _

theorem ite {condition : Prop} [Decidable condition] {yes no : Attempt σ ε α}
    (first : EndsOnly allowed yes) (second : EndsOnly allowed no) :
    EndsOnly allowed (if condition then yes else no) := by
  split
  · exact first
  · exact second

theorem mapError {ε' : Type} {wrap : ε → ε'} {allowed' : ε' → Prop} {attempt : Attempt σ ε α}
    (ends : EndsOnly allowed attempt) (fine : ∀ error, allowed error → allowed' (wrap error)) :
    EndsOnly allowed' (attempt.mapError wrap) := by
  intro state error ended
  have here := ends state
  change (Attempt.run attempt state).1.mapError wrap = _ at ended
  cases first : (Attempt.run attempt state).1 with
  | ok value =>
    rw [first] at ended
    cases ended
  | error other =>
    rw [first] at ended
    cases ended
    exact fine other (here other first)

end EndsOnly

namespace Machine

variable {file : RegisterFile} {ε τ α : Type}

theorem endsOnly_fromRegisters (look : RegisterCache file → Except RegisterError α) :
    EndsOnly Error.IsAccess (fromRegisters look : Attempt (Machine file τ) (Error ε) α) :=
  fun machine => FailsOnly.mapError (fun _ => trivial) (look machine.registers)

theorem endsOnly_onRegisters
    (change : RegisterCache file → Except RegisterError (RegisterCache file)) :
    EndsOnly Error.IsAccess (onRegisters change : Attempt (Machine file τ) (Error ε) Unit) := by
  intro machine
  unfold onRegisters
  rw [Attempt.run_bind, Attempt.run_get]
  dsimp only
  cases change machine.registers with
  | ok registers => exact failsOnly_ok _
  | error error => exact failsOnly_error trivial

theorem endsOnly_onMemory (access : Attempt τ (TargetError ε) α) :
    EndsOnly Error.IsAccess (onMemory access : Attempt (Machine file τ) (Error ε) α) :=
  fun machine => FailsOnly.mapError (fun _ => trivial) (Attempt.run access machine.memory).1

end Machine

namespace Amd64

variable {ε τ α : Type}

/-- How a transfer of parts of a value ends early: an access fails, or a part reaches behind the end of
the buffer. -/
def EndsEarly (room : Nat) (parts : List ReturnPart) : Halt ε → Prop
  | .failed error => error.IsAccess
  | .outOfRange stop length => length = room ∧ room < stop ∧
    ∃ part ∈ parts, stop = part.start + part.length

section Transfers

open EndsOnly

theorem length_transferPart {transfer : Transfer} {buffer filled : Bytes}
    {number offset start length : Nat} {before after : Machine registerFile τ}
    (ran : Attempt.run (transferPart transfer buffer number offset start length :
      Transferring ε τ Bytes) before = (.ok filled, after)) : filled.length = buffer.length := by
  cases transfer with
  | inspect =>
    cases ran
    rfl
  | read into =>
    obtain ⟨_, _, -, ran⟩ := Attempt.run_bind_eq_ok.1 ran
    obtain ⟨value, _, -, ran⟩ := Attempt.run_bind_eq_ok.1 ran
    cases ran
    exact Bytes.length_overwrite ..
  | write value =>
    obtain ⟨_, _, -, ran⟩ := Attempt.run_bind_eq_ok.1 ran
    obtain ⟨_, _, -, ran⟩ := Attempt.run_bind_eq_ok.1 ran
    cases ran
    rfl

theorem endsOnly_occupyStackTop :
    EndsOnly Error.IsAccess (occupyStackTop : Returning ε τ Unit) := by
  refine (Machine.endsOnly_fromRegisters _).bind fun status => ?_
  have writes (control : Nat) : EndsOnly Error.IsAccess (do
      Machine.onRegisters (·.writeUnsigned fstat (control ||| 7 <<< 11))
      Machine.onRegisters (·.writeUnsigned ftag 0x3fff) : Returning ε τ Unit) :=
    (Machine.endsOnly_onRegisters _).bind fun _ => Machine.endsOnly_onRegisters _
  exact .ite ((Machine.endsOnly_fromRegisters _).bind writes) ((pure _).bind writes)

variable {buffer : Bytes} {parts : List ReturnPart}

theorem endsOnly_told {room : Nat} {access : Returning ε τ α}
    (ends : EndsOnly Error.IsAccess access) : EndsOnly (EndsEarly room parts) (told access) :=
  ends.mapError fun _ => id

theorem endsOnly_needRoom {part : ReturnPart} (listed : part ∈ parts) :
    EndsOnly (EndsEarly buffer.length parts)
      (needRoom buffer (part.start + part.length) : Transferring ε τ Unit) := by
  unfold needRoom
  split
  · rename_i short
    exact throw ⟨rfl, short, part, listed, rfl⟩
  · exact pure _

theorem endsOnly_transferPart (transfer : Transfer) {part : ReturnPart} (listed : part ∈ parts) :
    EndsOnly (EndsEarly buffer.length parts) (transferPart transfer buffer part.number part.offset
      part.start part.length : Transferring ε τ Bytes) := by
  cases transfer with
  | inspect => exact pure buffer
  | read into =>
    exact (endsOnly_needRoom listed).bind fun _ =>
      (endsOnly_told (Machine.endsOnly_fromRegisters _)).bind fun _ => pure _
  | write value =>
    exact (endsOnly_needRoom listed).bind fun _ =>
      (endsOnly_told (Machine.endsOnly_onRegisters _)).bind fun _ => pure _

theorem endsOnly_transferParts (transfer : Transfer) {remaining : List ReturnPart}
    (listed : ∀ part ∈ remaining, part ∈ parts) : EndsOnly (EndsEarly buffer.length parts)
      (transferParts transfer buffer remaining : Transferring ε τ Bytes) := by
  induction remaining generalizing buffer with
  | nil => exact pure buffer
  | cons part rest ih =>
    obtain ⟨here, listed⟩ := List.forall_mem_cons.1 listed
    have further : EndsOnly (EndsEarly buffer.length parts) (do
        let filled ← transferPart transfer buffer part.number part.offset part.start part.length
        transferParts transfer filled rest : Transferring ε τ Bytes) := by
      refine (endsOnly_transferPart transfer here).bind_of_ok fun ran => ?_
      rw [← length_transferPart ran]
      exact ih listed
    exact .ite ((endsOnly_told endsOnly_occupyStackTop).bind fun _ => further) further

theorem endsOnly_transferInRegisters (type : DataType) (transfer : Transfer) :
    EndsOnly (EndsEarly transfer.buffer.length (returnParts (classify type) type.length))
      (transferInRegisters type transfer : Transferring ε τ _) :=
  (endsOnly_transferParts transfer fun _ => id).bind fun _ => pure _

theorem endsOnly_transferInMemory (target : Target 64 ε τ) (type : DataType)
    (transfer : Transfer) : EndsOnly (EndsEarly 0 []) (transferInMemory target type transfer) := by
  cases transfer with
  | inspect | write buffer => exact pure _
  | read buffer =>
    exact (endsOnly_told (Machine.endsOnly_fromRegisters _)).bind fun _ =>
      (endsOnly_told (Machine.endsOnly_onMemory _)).bind fun _ => pure _

end Transfers

inductive EarlyEnd (type : DataType) (transfer : Transfer) : Halt ε → Prop where
  | access {error : Error ε} (failed : error.IsAccess) : EarlyEnd type transfer (.failed error)
  | small (room : transfer.room?.any (· < type.length)) :
    EarlyEnd type transfer (.failed (.internal ReturnError.bufferTooSmall.message))
  | large (long : 16 < type.length) :
    EarlyEnd type transfer (.failed (.internal ReturnError.tooLarge.message))
  | cutOff (cuts : CutsOff type transfer.buffer) : EarlyEnd type transfer (.outOfRange 10 9)

/-- A part that reaches behind the end of the buffer is an exponent that is cut off. -/
theorem EndsEarly.earlyEnd {type : DataType} {transfer : Transfer} {halt : Halt ε}
    (ends : EndsEarly transfer.buffer.length (returnParts (classify type) type.length) halt)
    (inRegisters : (classify type).first ≠ .memory) (short : type.length ≤ 16)
    (room : type.length ≤ transfer.buffer.length) : EarlyEnd type transfer halt := by
  cases halt with
  | failed error => exact .access ends
  | outOfRange stop length =>
    obtain ⟨rfl, behind, part, listed, rfl⟩ := ends
    have cuts : CutsOff type transfer.buffer :=
      ⟨room, Nat.lt_of_lt_of_le behind (stop_le_reach inRegisters short part listed)⟩
    obtain ⟨overreaches, nine⟩ := cutsOff_iff.1 cuts
    have stops : ∀ part ∈ [mantissaPart, exponentPart],
        9 < part.start + part.length → part.start + part.length = 10 := by decide
    rw [overreaches.parts] at listed
    rw [nine] at behind ⊢
    rw [stops part listed behind]
    exact .cutOff cuts

theorem earlyEnd_of_attemptTransfer {target : Target 64 ε τ} {type : DataType} {transfer : Transfer}
    {machine : Machine registerFile τ} {halt : Halt ε}
    (ended : (Attempt.run (attemptTransfer target type transfer) machine).1 = .error halt) :
    EarlyEnd type transfer halt := by
  rw [attemptTransfer_eq] at ended
  split at ended
  · rename_i small
    cases ended
    exact .small small
  · rename_i enough
    split at ended
    · have early := endsOnly_transferInMemory target type transfer machine halt ended
      cases halt with
      | failed error => exact .access early
      | outOfRange stop length =>
        obtain ⟨-, -, _, none, -⟩ := early
        cases none
    · rename_i inRegisters
      split at ended
      · rename_i long
        cases ended
        exact .large long
      · rename_i long
        have early := endsOnly_transferInRegisters type transfer machine halt ended
        cases transfer with
        | inspect =>
          rw [transferInRegisters, Attempt.run_bind, run_inspectParts] at ended
          cases ended
        | read buffer | write buffer =>
          refine early.earlyEnd inRegisters (Nat.not_lt.1 long) (Nat.not_lt.1 ?_)
          simpa [Transfer.room?, Transfer.buffer] using enough

theorem ReturnError.message_injective {first second : ReturnError}
    (same : first.message = second.message) : first = second := by
  revert same
  cases first <;> cases second <;> decide

theorem ReturnError.message_ne (refusal : ReturnError) :
    refusal.message ≠ "range end index 10 out of range for slice of length 9" := by
  cases refusal <;> decide

theorem error_of_transferReturned {target : Target 64 ε τ} {type : DataType} {transfer : Transfer}
    {machine : Machine registerFile τ} {error : Error ε}
    (failed : (Attempt.run (transferReturned target type transfer) machine).1 = .error error) :
    ∃ halt, (Attempt.run (attemptTransfer target type transfer) machine).1 = .error halt ∧
      error = halt.error := by
  change (Attempt.run (attemptTransfer target type transfer) machine).1.mapError Halt.error = _
    at failed
  cases ended : (Attempt.run (attemptTransfer target type transfer) machine).1 with
  | ok value =>
    rw [ended] at failed
    cases failed
  | error halt =>
    rw [ended] at failed
    cases failed
    exact ⟨halt, rfl, rfl⟩

/-- Where a value is, is told by its first eightbyte alone. -/
theorem Classification.WellFormed.isInMemory_iff {classes : Classification}
    (wellFormed : classes.WellFormed) : classes.isInMemory ↔ classes = .inMemory := by
  obtain ⟨first, second⟩ := classes
  have whole := wellFormed.whole
  simp only [isInMemory, decide_eq_true_eq, inMemory, mk.injEq]
  exact ⟨fun memory => ⟨memory, whole.1 memory⟩, And.left⟩

/-- The classes of every type fit together. So the first one tells whether a value is in memory, no
argument is refused but for an eightbyte without a register, and no returned value but for a short
buffer or for its length. -/
theorem classes_fit :
    (∀ type, (classify type).WellFormed ∧
      ((classify type).isInMemory ↔ classify type = .inMemory)) ∧
    (∀ arguments structReturn error,
      layOutArguments arguments structReturn = .error error → error = .noRegister) ∧
    ∀ {ε τ : Type} (target : Target 64 ε τ) type transfer machine (refusal : ReturnError),
      (Attempt.run (transferReturned target type transfer) machine).1 =
        .error (.internal refusal.message) → refusal = .bufferTooSmall ∨ refusal = .tooLarge := by
  refine ⟨fun type => ?_, fun arguments structReturn error refused => ?_,
    fun target type transfer machine refusal refused => ?_⟩
  · have wellFormed := wellFormed_classify type
    exact ⟨wellFormed, wellFormed.isInMemory_iff⟩
  · exact (layOutArguments_error_iff.1 refused).1
  · obtain ⟨halt, ended, same⟩ := error_of_transferReturned refused
    cases earlyEnd_of_attemptTransfer ended with
    | @access error failed =>
      obtain rfl : error = .internal refusal.message := same.symm
      exact failed.elim
    | small room => exact .inl (ReturnError.message_injective (Error.internal.inj same))
    | large long => exact .inr (ReturnError.message_injective (Error.internal.inj same))
    | cutOff cuts => exact absurd (Error.internal.inj same) (ReturnError.message_ne refusal)

/-- A long double over an integer is refused as an argument, and an integer of 32 bytes as a returned
value. -/
theorem classes_fit_overlaidLongDouble :
    (classify overlaidLongDouble.type).WellFormed ∧
    (∃ error, layOutArguments [overlaidLongDouble] false = .error error ∧ error = .noRegister) ∧
    ∃ refusal : ReturnError, (Attempt.run (transferReturned (Memory.target 64 Empty) (.int 32)
        .inspect) sampleMachine).1 = .error (.internal refusal.message) ∧
      (refusal = .bufferTooSmall ∨ refusal = .tooLarge) := by
  obtain ⟨classes, arguments, returned⟩ := classes_fit
  exact ⟨(classes _).1, ⟨_, rfl, arguments [overlaidLongDouble] false _ rfl⟩, .tooLarge, rfl,
    returned (Memory.target 64 Empty) (.int 32) .inspect sampleMachine .tooLarge rfl⟩

end Amd64

end Inferior

import Inferior.Proofs.ReturnedValues

/-! What a transfer touches of the buffer of its caller.

The length of the buffer is compared with that of the type once, before anything is transferred. That
is enough as long as no part of the value reaches behind its end. An x87 exponent is two bytes, however
few of them belong to the type, so there is one length at which it does, and at which a buffer of that
length stops the program.
-/

set_option autoImplicit false

namespace Inferior

theorem Bytes.slice_congr {first second : Bytes} {bound start length : Nat}
    (same : ∀ index < bound, first[index]? = second[index]?) (inside : start + length ≤ bound) :
    first.slice start length = second.slice start length := by
  apply List.ext_getElem?
  intro index
  rw [Bytes.getElem?_slice, Bytes.getElem?_slice]
  split
  · exact same (start + index) (by omega)
  · rfl

theorem Bytes.le_length_of_same {first second : Bytes} {bound : Nat}
    (same : ∀ index < bound, first[index]? = second[index]?) (room : bound ≤ first.length) :
    bound ≤ second.length := by
  refine Nat.not_lt.1 fun short => ?_
  have here := same second.length short
  rw [List.getElem?_eq_none (Nat.le_refl _), List.getElem?_eq_none_iff] at here
  omega

theorem Bytes.overwrite_append (bytes first second : Bytes) (offset : Nat) :
    (bytes.overwrite offset first).overwrite (offset + first.length) second =
      bytes.overwrite offset (first ++ second) := by
  apply List.ext_getElem?
  intro index
  simp only [getElem?_overwrite, length_overwrite, List.length_append, List.getElem?_append]
  grind

namespace Amd64

variable {ε τ α β : Type}

/-- A machine, and the buffer of a caller. The buffer keeps what has been read into it also if the rest
cannot be read. -/
structure Filling (τ : Type) where
  machine : Machine registerFile τ
  buffer : Bytes

namespace Filling

def onMachine (access : Transferring ε τ α) : Attempt (Filling τ) (Halt ε) α :=
  access.zoom machine fun machine filling => { filling with machine }

def overwrite (start : Nat) (bytes : Bytes) : Attempt (Filling τ) (Halt ε) Unit :=
  modify fun filling => { filling with buffer := filling.buffer.overwrite start bytes }

def readPart (part : ReturnPart) : Attempt (Filling τ) (Halt ε) Unit := do
  onMachine (needRoom (← get).buffer (part.start + part.length))
  overwrite part.start (← onMachine (told (Machine.fromRegisters
    (·.readPart part.number part.offset part.length))))

def readInRegisters (type : DataType) : Attempt (Filling τ) (Halt ε) ReturnConvention := do
  (returnParts (classify type) type.length).forM readPart
  return .inRegisters

def readInMemory (target : Target 64 ε τ) (type : DataType) :
    Attempt (Filling τ) (Halt ε) ReturnConvention := do
  let address ← onMachine (told (Machine.fromRegisters (·.readUnsigned rax)))
  let block ← onMachine (told (Machine.onMemory
    (target.read (BitVec.ofNat 64 address) type.length)))
  overwrite 0 block.val
  return .inMemory

def attemptRead (target : Target 64 ε τ) (type : DataType) :
    Attempt (Filling τ) (Halt ε) ReturnConvention := do
  if (← get).buffer.length < type.length then
    throw (.failed (.internal ReturnError.bufferTooSmall.message))
  else if (classify type).first = .memory then readInMemory target type
  else if type.length > 16 then throw (.failed (.internal ReturnError.tooLarge.message))
  else readInRegisters type

def readReturned (target : Target 64 ε τ) (type : DataType) :
    Attempt (Filling τ) (Error ε) ReturnConvention := (attemptRead target type).mapError Halt.error

/-- What comes of it for a caller who gets the buffer back with a success only. -/
def returned {ε' : Type} (outcome : Except ε' α × Filling τ) :
    Except ε' (α × Bytes) × Machine registerFile τ :=
  (outcome.1.map (·, outcome.2.buffer), outcome.2.machine)

theorem run_onMachine (access : Transferring ε τ α) (filling : Filling τ) :
    Attempt.run (onMachine access) filling =
      ((Attempt.run access filling.machine).1,
        { filling with machine := (Attempt.run access filling.machine).2 }) := rfl

section Part

variable {part : ReturnPart} {filling : Filling τ}

theorem run_readPart_of_lt (behind : filling.buffer.length < part.start + part.length) :
    Attempt.run (readPart part : Attempt (Filling τ) (Halt ε) Unit) filling =
      (.error (.outOfRange (part.start + part.length) filling.buffer.length), filling) := by
  unfold readPart
  rw [Attempt.run_bind, Attempt.run_get]
  dsimp only
  rw [Attempt.run_bind, run_onMachine, needRoom_of_lt behind]
  rfl

theorem run_readPart_of_le (room : part.start + part.length ≤ filling.buffer.length) :
    Attempt.run (readPart part : Attempt (Filling τ) (Halt ε) Unit) filling =
      Attempt.run (do
        overwrite part.start (← onMachine (told (Machine.fromRegisters
          (·.readPart part.number part.offset part.length))))) filling := by
  unfold readPart
  rw [Attempt.run_bind, Attempt.run_get]
  dsimp only
  rw [Attempt.run_bind, run_onMachine, needRoom_of_le room]
  rfl

end Part

theorem returned_readParts (into : Bytes) (convention : ReturnConvention) (parts : List ReturnPart)
    (filling : Filling τ) :
    Attempt.run (do return (convention, ← transferParts (.read into) filling.buffer parts) :
      Transferring ε τ (ReturnConvention × Bytes)) filling.machine =
    returned (Attempt.run (do parts.forM readPart; return convention) filling) := by
  induction parts generalizing filling with
  | nil => rfl
  | cons part rest ih =>
    have first : ((part :: rest).forM readPart : Attempt (Filling τ) (Halt ε) Unit) =
        readPart part >>= fun _ => rest.forM readPart := rfl
    rw [transferParts_cons rfl, first, transferPart]
    simp only [bind_assoc, pure_bind]
    rw [Attempt.run_bind (readPart part)]
    by_cases room : part.start + part.length ≤ filling.buffer.length
    · rw [needRoom_bind room, run_readPart_of_le room, Attempt.run_bind, Attempt.run_bind, run_told,
        run_onMachine, run_told, Machine.run_fromRegisters]
      cases filling.machine.registers.readPart part.number part.offset part.length with
      | error error => rfl
      | ok bytes => exact ih { filling with buffer := filling.buffer.overwrite part.start bytes }
    · rw [needRoom_of_lt (Nat.not_le.1 room), run_readPart_of_lt (Nat.not_le.1 room)]
      rfl

theorem returned_readInMemory (target : Target 64 ε τ) (type : DataType) (filling : Filling τ) :
    Attempt.run (transferInMemory target type (.read filling.buffer)) filling.machine =
      returned (Attempt.run (readInMemory target type) filling) := by
  unfold transferInMemory readInMemory
  rw [Attempt.run_bind, Attempt.run_bind, run_onMachine, run_told, Machine.run_fromRegisters]
  cases filling.machine.registers.readUnsigned rax with
  | error error => rfl
  | ok address =>
    dsimp only [mapError_ok]
    rw [Attempt.run_bind, Attempt.run_bind, run_onMachine, run_told, Machine.run_onMemory]
    rcases Attempt.run (target.read (BitVec.ofNat 64 address) type.length) filling.machine.memory
      with ⟨_ | _, _⟩ <;> rfl

theorem returned_attemptRead (target : Target 64 ε τ) (type : DataType) (filling : Filling τ) :
    Attempt.run (attemptTransfer target type (.read filling.buffer)) filling.machine =
      returned (Attempt.run (attemptRead target type) filling) := by
  rw [attemptTransfer_eq]
  unfold attemptRead
  rw [Attempt.run_bind, Attempt.run_get]
  dsimp only
  by_cases small : filling.buffer.length < type.length
  · rw [if_pos small, if_pos (by simpa [Transfer.room?] using small)]
    rfl
  · rw [if_neg small, if_neg (by simpa [Transfer.room?] using small)]
    split
    · exact returned_readInMemory target type filling
    · split
      · rfl
      · exact returned_readParts _ _ _ filling

/-- The caller is told the same as by a transfer that hands the buffer over. -/
theorem returned_readReturned (target : Target 64 ε τ) (type : DataType) (filling : Filling τ) :
    Attempt.run (transferReturned target type (.read filling.buffer)) filling.machine =
      returned (Attempt.run (readReturned target type) filling) := by
  rw [transferReturned, readReturned, Attempt.run_mapError, Attempt.run_mapError,
    returned_attemptRead]
  unfold returned
  dsimp only
  cases (Attempt.run (attemptRead target type) filling).1 <;> rfl

/-- Whatever becomes of an attempt, it leaves the bytes of the buffer from a bound on as they are. -/
def KeepsFrom {ε' : Type} (bound : Nat) (attempt : Attempt (Filling τ) ε' α) : Prop :=
  ∀ filling index, bound ≤ index →
    (Attempt.run attempt filling).2.buffer[index]? = filling.buffer[index]?

namespace KeepsFrom

variable {ε' : Type} {bound : Nat}

theorem same {attempt : Attempt (Filling τ) ε' α}
    (idle : ∀ filling, (Attempt.run attempt filling).2.buffer = filling.buffer) :
    KeepsFrom bound attempt := fun filling index _ => congrArg (·[index]?) (idle filling)

theorem bind {attempt : Attempt (Filling τ) ε' α} {next : α → Attempt (Filling τ) ε' β}
    (first : KeepsFrom bound attempt) (rest : ∀ value, KeepsFrom bound (next value)) :
    KeepsFrom bound (attempt >>= next) := by
  intro filling index behind
  have kept := first filling index behind
  rw [Attempt.run_bind]
  revert kept
  rcases Attempt.run attempt filling with ⟨error | value, after⟩
  · exact id
  · exact fun kept => (rest value after index behind).trans kept

theorem overwrite {start : Nat} {bytes : Bytes} (inside : start + bytes.length ≤ bound) :
    KeepsFrom bound (Filling.overwrite start bytes : Attempt (Filling τ) (Halt ε) Unit) := by
  intro filling index behind
  refine (Bytes.getElem?_overwrite ..).trans (if_neg ?_)
  omega

theorem readPart {part : ReturnPart} (inside : part.start + part.length ≤ bound) :
    KeepsFrom bound (Filling.readPart part : Attempt (Filling τ) (Halt ε) Unit) := by
  intro filling index behind
  by_cases room : part.start + part.length ≤ filling.buffer.length
  · rw [run_readPart_of_le room, Attempt.run_bind, run_onMachine, run_told,
      Machine.run_fromRegisters]
    cases found : filling.machine.registers.readPart part.number part.offset part.length with
    | error error => rfl
    | ok bytes =>
      obtain ⟨-, -, rfl⟩ := RegisterCache.readPart_eq_ok_iff.1 found
      have short := List.length_take_le part.length
        ((filling.machine.registers.bytes part.number).drop part.offset)
      have kept := @overwrite ε τ bound _ _ (Nat.le_trans (Nat.add_le_add_left short _) inside)
      exact kept filling index behind
  · rw [run_readPart_of_lt (Nat.not_le.1 room)]

theorem readParts {parts : List ReturnPart}
    (inside : ∀ part ∈ parts, part.start + part.length ≤ bound) :
    KeepsFrom bound (parts.forM Filling.readPart : Attempt (Filling τ) (Halt ε) Unit) := by
  induction parts with
  | nil => exact .same fun _ => rfl
  | cons part rest ih =>
    obtain ⟨here, inside⟩ := List.forall_mem_cons.1 inside
    exact (readPart here).bind fun _ => ih inside

theorem readInMemory (target : Target 64 ε τ) {type : DataType} (inside : type.length ≤ bound) :
    KeepsFrom bound (Filling.readInMemory target type) := by
  refine .bind (.same fun _ => rfl) fun address => .bind (.same fun _ => rfl) fun block => ?_
  refine .bind (overwrite ?_) fun _ => .same fun _ => rfl
  rw [block.property, Nat.zero_add]
  exact inside

end KeepsFrom

end Filling

theorem withPart_congr {part : ReturnPart} {first second : Bytes}
    (same : part.bytes first = part.bytes second) (registers : RegisterCache registerFile) :
    withPart first registers part = withPart second registers part := by
  unfold withPart
  rw [same]

/-- The transfers of values of a type have nothing to do with the bytes of a buffer from a bound on.
Reading keeps them, and writing does not look at them. No longer buffer stops the program. -/
structure StaysWithin (target : Target 64 ε τ) (type : DataType) (bound : Nat) : Prop where
  parts (inRegisters : (classify type).first ≠ .memory) (short : type.length ≤ 16) :
    ∀ part ∈ returnParts (classify type) type.length, part.start + part.length ≤ bound
  read : Filling.KeepsFrom bound (Filling.readReturned target type)
  write {first second : Bytes} (room : type.length ≤ first.length)
    (room' : type.length ≤ second.length) (same : ∀ index < bound, first[index]? = second[index]?)
    (machine : Machine registerFile τ) :
    (Attempt.run (Prod.fst <$> transferReturned target type (.write first)) machine) =
      (Attempt.run (Prod.fst <$> transferReturned target type (.write second)) machine)
  goesOn {transfer : Transfer} (room : bound ≤ transfer.buffer.length)
    (machine : Machine registerFile τ) (stop length : Nat) :
    (Attempt.run (attemptTransfer target type transfer) machine).1 ≠
      .error (.outOfRange stop length)

theorem keepsFrom_readReturned (target : Target 64 ε τ) {type : DataType} {bound : Nat}
    (inside : reach type ≤ bound) : Filling.KeepsFrom bound (Filling.readReturned target type) := by
  have attempted : Filling.KeepsFrom bound (Filling.attemptRead target type) := by
    refine .bind (.same fun _ => rfl) fun filling => ?_
    split
    · exact .same fun _ => rfl
    · split
      · exact .readInMemory target (Nat.le_trans (length_le_reach type) inside)
      · split
        · exact .same fun _ => rfl
        · rename_i inRegisters long
          refine .bind (.readParts fun part listed => ?_) fun _ => .same fun _ => rfl
          exact Nat.le_trans (stop_le_reach inRegisters (Nat.not_lt.1 long) part listed) inside
  exact attempted

theorem run_transferInRegisters_congr {type : DataType}
    (inRegisters : (classify type).first ≠ .memory) (short : type.length ≤ 16) {first second : Bytes}
    (room : reach type ≤ first.length) (same : ∀ index < reach type, first[index]? = second[index]?)
    (machine : Machine registerFile τ) :
    Attempt.run (Prod.fst <$> transferInRegisters type (.write first) : Transferring ε τ _) machine =
      Attempt.run (Prod.fst <$> transferInRegisters type (.write second)) machine := by
  have plans := plans_returnParts (wellFormed_classify type) inRegisters short
  have inside := stop_le_reach inRegisters short
  have stored : (returnParts (classify type) type.length).foldl (withPart first) machine.registers =
      (returnParts (classify type) type.length).foldl (withPart second) machine.registers := by
    refine List.foldl_ext _ _ _ fun registers part listed => withPart_congr ?_ registers
    exact Bytes.slice_congr same (inside part listed)
  have enough : ∀ part ∈ returnParts (classify type) type.length,
      part.start + part.length ≤ first.length := fun part listed =>
    Nat.le_trans (inside part listed) room
  have enough' : ∀ part ∈ returnParts (classify type) type.length,
      part.start + part.length ≤ second.length := fun part listed =>
    Nat.le_trans (inside part listed) (Bytes.le_length_of_same same room)
  unfold transferInRegisters
  simp only [map_eq_pure_bind, bind_assoc, pure_bind, Transfer.buffer]
  rw [Attempt.run_bind, Attempt.run_bind, run_writeParts plans.fits enough,
    run_writeParts plans.fits enough', stored]

theorem run_write_congr (target : Target 64 ε τ) {type : DataType} {first second : Bytes}
    (room : type.length ≤ first.length) (room' : type.length ≤ second.length)
    (same : ∀ index < reach type, first[index]? = second[index]?) (machine : Machine registerFile τ) :
    Attempt.run (Prod.fst <$> attemptTransfer target type (.write first)) machine =
      Attempt.run (Prod.fst <$> attemptTransfer target type (.write second)) machine := by
  by_cases cuts : CutsOff type first
  · -- There is nothing behind the end of either buffer.
    have equal : first = second := by
      apply List.ext_getElem?
      intro index
      by_cases near : index < reach type
      · exact same index near
      · have short := Nat.lt_of_not_le fun room =>
          Nat.not_lt.2 (Bytes.le_length_of_same (fun index near => (same index near).symm) room)
            cuts.2
        have behind := cuts.2
        rw [List.getElem?_eq_none (by omega), List.getElem?_eq_none (by omega)]
    rw [equal]
  · have enough : ∀ size ∈ (Transfer.write first).room?, type.length ≤ size := by
      rintro _ ⟨⟩
      exact room
    have enough' : ∀ size ∈ (Transfer.write second).room?, type.length ≤ size := by
      rintro _ ⟨⟩
      exact room'
    rw [attemptTransfer_eq, attemptTransfer_eq, if_neg (Transfer.not_small enough),
      if_neg (Transfer.not_small enough')]
    split
    · rfl
    · split
      · rfl
      · rename_i inRegisters long
        exact run_transferInRegisters_congr inRegisters (Nat.not_lt.1 long)
          (Nat.not_lt.1 fun behind => cuts ⟨room, behind⟩) same machine

theorem run_map_mapError {σ ε' : Type} (wrap : ε → ε') (change : α → β)
    (attempt : Attempt σ ε α) (state : σ) :
    Attempt.run (change <$> attempt.mapError wrap) state =
      ((Attempt.run (change <$> attempt) state).1.mapError wrap,
        (Attempt.run (change <$> attempt) state).2) := by
  rw [map_eq_pure_bind, map_eq_pure_bind, Attempt.run_bind, Attempt.run_bind, Attempt.run_mapError]
  rcases Attempt.run attempt state with ⟨_ | _, _⟩ <;> rfl

theorem staysWithin_reach (target : Target 64 ε τ) (type : DataType) :
    StaysWithin target type (reach type) where
  parts := stop_le_reach
  read := keepsFrom_readReturned target (Nat.le_refl _)
  write room room' same machine := by
    rw [transferReturned, transferReturned, run_map_mapError, run_map_mapError,
      run_write_congr target room room' same]
  goesOn room machine stop length stopped := by
    obtain ⟨cuts, -⟩ := (stops_iff target type _ machine).1 ⟨stop, length, stopped⟩
    exact absurd cuts.2 (Nat.not_lt.2 room)

/-- Reading a value keeps the bytes of the buffer behind its end, also if it fails, and writing one does
not look at them. So a buffer of the length of the type is enough, unless the type has nine bytes and
the second eightbyte is that of an x87 exponent. Then there is one more byte to be transferred. -/
theorem transferReturned_staysWithin (target : Target 64 ε τ) (type : DataType) :
    (∀ filling, Attempt.run (transferReturned target type (.read filling.buffer)) filling.machine =
      Filling.returned (Attempt.run (Filling.readReturned target type) filling)) ∧
    StaysWithin target type (reach type) ∧
    (StaysWithin target type type.length ↔ ¬Overreaches type) := by
  refine ⟨Filling.returned_readReturned target type, staysWithin_reach target type, ?_, ?_⟩
  · intro stays overreaches
    have inside := stays.parts overreaches.inRegisters overreaches.short
    rw [overreaches.parts, overreaches.1] at inside
    exact absurd inside (by decide)
  · intro inside
    have stays := staysWithin_reach target type
    rwa [reach, if_neg inside] at stays

/-- Of a type that is too short for its exponent, the number is read as a whole. -/
theorem run_read_of_overreaches (target : Target 64 ε τ) {type : DataType}
    (overreaches : Overreaches type) {machine : Machine registerFile τ}
    (valid : machine.registers.statuses[st 0]? = some .valid) {buffer : Bytes}
    (room : 10 ≤ buffer.length) :
    Attempt.run (transferReturned target type (.read buffer)) machine =
      (.ok (.inRegisters, buffer.overwrite 0 (machine.registers.bytes (st 0))), machine) := by
  have wide : (machine.registers.bytes (st 0)).length = 10 := machine.registers.length_bytes _
  have held : ∀ part ∈ returnParts (classify type) type.length, machine.registers.readPart part.number
      part.offset part.length = .ok (part.bytes (machine.registers.bytes (st 0))) := by
    rw [overreaches.parts]
    exact List.forall_mem_cons.2 ⟨RegisterCache.readPart_eq_ok_iff.2 ⟨valid, by decide, rfl⟩,
      List.forall_mem_singleton.2 (RegisterCache.readPart_eq_ok_iff.2 ⟨valid, by decide, rfl⟩)⟩
  have inside : ∀ part ∈ returnParts (classify type) type.length,
      part.start + part.length ≤ buffer.length := by
    have near : ∀ part ∈ [mantissaPart, exponentPart], part.start + part.length ≤ 10 := by decide
    rw [overreaches.parts]
    exact fun part listed => Nat.le_trans (near part listed) room
  -- The two parts lie side by side, in the buffer as in the register.
  have joined : (buffer.overwrite 0 ((machine.registers.bytes (st 0)).slice 0 8)).overwrite 8
      ((machine.registers.bytes (st 0)).slice 8 2) =
        buffer.overwrite 0 (machine.registers.bytes (st 0)) := by
    have halves : (machine.registers.bytes (st 0)).slice 0 8 ++
        (machine.registers.bytes (st 0)).slice 8 2 = machine.registers.bytes (st 0) := by
      have rest : ((machine.registers.bytes (st 0)).drop 8).length = 2 := by
        rw [List.length_drop, wide]
      rw [Bytes.slice, Bytes.slice, List.drop_zero, ← rest, List.take_length, List.take_append_drop]
    rw [← halves, ← Bytes.overwrite_append, halves, Bytes.length_slice, wide]
    rfl
  have enough : ∀ size ∈ (Transfer.read buffer).room?, type.length ≤ size := by
    rintro _ ⟨⟩
    exact Nat.le_trans (overreaches.1 ▸ by decide) room
  rw [transferReturned, Attempt.run_mapError,
    attemptTransfer_of_room target overreaches.inRegisters overreaches.short enough,
    transferInRegisters, Attempt.run_bind]
  dsimp only [Transfer.buffer]
  rw [run_readParts held buffer inside, overreaches.parts, ← joined]
  rfl

/-- A long double of which the last seven bytes are cut off. -/
def truncatedLongDouble : DataType := .struct 9 [.member (.float 16) 0]

theorem transferReturned_staysWithin_longDouble :
    StaysWithin (Memory.target 64 Empty) (.float 16) 16 ∧
      StaysWithin (Memory.target 64 Empty) truncatedLongDouble 10 ∧
      ¬StaysWithin (Memory.target 64 Empty) truncatedLongDouble 9 := by
  obtain ⟨-, -, whole⟩ := transferReturned_staysWithin (Memory.target 64 Empty) (.float 16)
  obtain ⟨-, stays, tight⟩ := transferReturned_staysWithin (Memory.target 64 Empty) truncatedLongDouble
  exact ⟨whole.2 (by decide), stays, fun stays => tight.1 stays (by decide)⟩

def longDoubleMachine : Machine registerFile (Memory 64 Empty) :=
  ⟨(RegisterCache.empty _).store (st 0) 0 [1, 2, 3, 4, 5, 6, 7, 8, 9, 10] .valid, {}⟩

/-- Reading changes the byte behind a long double that is cut off, and writing takes that byte, or stops
the program if there is none. -/
theorem not_all_staysWithin :
    (¬∀ (type : DataType) (machine : Machine registerFile (Memory 64 Empty)) (buffer : Bytes) result,
      type.length ≤ buffer.length →
        (Attempt.run (transferReturned (Memory.target 64 Empty) type (.read buffer)) machine).1 =
          .ok result →
        ∀ index, type.length ≤ index → result.2[index]? = buffer[index]?) ∧
    (¬∀ (type : DataType) (machine : Machine registerFile (Memory 64 Empty)) (first second : Bytes),
      type.length ≤ first.length → type.length ≤ second.length →
        (∀ index < type.length, first[index]? = second[index]?) →
        (Attempt.run (transferReturned (Memory.target 64 Empty) type (.write first))
          machine).2.registers =
        (Attempt.run (transferReturned (Memory.target 64 Empty) type (.write second))
          machine).2.registers) ∧
    ¬∀ (type : DataType) (machine : Machine registerFile (Memory 64 Empty)) (buffer : Bytes),
      type.length ≤ buffer.length → ∀ stop length,
        (Attempt.run (attemptTransfer (Memory.target 64 Empty) type (.write buffer)) machine).1 ≠
          .error (.outOfRange stop length) := by
  refine ⟨?_, ?_, ?_⟩
  · intro all
    have overreaches : Overreaches truncatedLongDouble := by decide
    have valid : longDoubleMachine.registers.statuses[st 0]? = some .valid := by decide
    have room : 10 ≤ (List.replicate 10 (0xee : UInt8)).length := by decide
    have read := run_read_of_overreaches (Memory.target 64 Empty) overreaches valid room
    have kept := all _ _ _ _ (by decide) (congrArg Prod.fst read) 9 (by decide)
    exact absurd kept (by decide +kernel)
  · intro all
    have written := all truncatedLongDouble sampleMachine (Bytes.zeros 10)
      ((Bytes.zeros 10).overwrite 9 [1]) (by decide) (by decide) (by decide)
    exact absurd (congrArg (·.bytes (st 0)) written) (by decide +kernel)
  · intro all
    have stops := (stops_iff (Memory.target 64 Empty) truncatedLongDouble (.write (Bytes.zeros 9))
      sampleMachine).2 ⟨by decide, .inl rfl⟩
    obtain ⟨stop, length, stopped⟩ := stops
    exact all truncatedLongDouble sampleMachine (Bytes.zeros 9) (by decide) stop length stopped

end Amd64

end Inferior

import Inferior.Proofs.AreaRoundTrip
import Inferior.Proofs.ArgumentDelivery
import Inferior.Proofs.Refusals
import Inferior.Proofs.RegisterIndependence

/-! Returned values are found again where they were put, and nothing else is touched.

Each part of a value has bytes of a register to itself, so that what is put there is still there once
all parts are. Before an x87 number is put on its stack, the stack is made to hold nothing else.
-/

set_option autoImplicit false

namespace Inferior

/-- Reading changes nothing of what a target holds. -/
def Target.ReadsKeep {w : Nat} {ε τ γ : Type} (target : Target w ε τ) (contents : τ → γ) : Prop :=
  ∀ address length memory,
    contents (Attempt.run (target.read address length) memory).2 = contents memory

namespace Amd64

namespace ReturnPart

def bytes (part : ReturnPart) (value : Bytes) : Bytes := value.slice part.start part.length

theorem length_bytes_le (part : ReturnPart) (value : Bytes) :
    (part.bytes value).length ≤ part.length := List.length_take_le _ _

theorem length_bytes {part : ReturnPart} {value : Bytes} (fits : part.Fits)
    (long : 16 ≤ value.length) : (part.bytes value).length = part.length :=
  Bytes.length_slice_of_le (Nat.le_trans fits.2.2 long)

theorem Fits.known {part : ReturnPart} (fits : part.Fits) : part.number < registerFile.count := by
  have all : ∀ number ∈ returnRegisters, number < registerFile.count := by decide
  exact all part.number fits.1

theorem Fits.inside {part : ReturnPart} (fits : part.Fits) (value : Bytes) :
    part.offset + (part.bytes value).length ≤ registerFile.width part.number :=
  Nat.le_trans (Nat.add_le_add_left (part.length_bytes_le value) _) fits.2.1

theorem Fits.ne {part : ReturnPart} (fits : part.Fits) :
    part.number ≠ fstat ∧ part.number ≠ ftag := by
  have all : ∀ number ∈ returnRegisters, number ≠ fstat ∧ number ≠ ftag := by decide
  exact all part.number fits.1

end ReturnPart

def stackStatus (registers : RegisterCache registerFile) : Nat :=
  if registers.statuses[fstat]? = some .valid then LittleEndian.value (registers.bytes fstat) else 0

def withStackTop (registers : RegisterCache registerFile) : RegisterCache registerFile :=
  (registers.store fstat 0 (LittleEndian.digits 4 (stackStatus registers ||| 7 <<< 11)) .valid).store
    ftag 0 (LittleEndian.digits 4 0x3fff) .valid

def withPart (value : Bytes) (registers : RegisterCache registerFile) (part : ReturnPart) :
    RegisterCache registerFile :=
  (if part.eightbyteClass = .x87 then withStackTop registers else registers).store part.number
    part.offset (part.bytes value) .valid

variable {ε τ : Type}

theorem run_occupyStackTop (machine : Machine registerFile τ) :
    Attempt.run (occupyStackTop : Returning ε τ Unit) machine =
      (.ok ⟨⟩, { machine with registers := withStackTop machine.registers }) := by
  have small : fstat < machine.registers.statuses.length := by
    rw [machine.registers.length_statuses]
    decide
  obtain ⟨status, held⟩ : ∃ status, machine.registers.statuses[fstat]? = some status :=
    ⟨_, List.getElem?_eq_getElem small⟩
  have written (registers : RegisterCache registerFile) {number : Nat} (value : Nat)
      (known : number < registerFile.count) (wide : registerFile.width number = 4) :
      registers.writeUnsigned number value =
        .ok (registers.store number 0 (LittleEndian.digits 4 value) .valid) := by
    rw [registers.writeUnsigned_eq_store value known, wide, LittleEndian.resize_digits (by decide)]
  have stored : Attempt.run (do
      Machine.onRegisters (·.writeUnsigned fstat (stackStatus machine.registers ||| 7 <<< 11))
      Machine.onRegisters (·.writeUnsigned ftag 0x3fff) : Returning ε τ Unit) machine =
        (.ok ⟨⟩, { machine with registers := withStackTop machine.registers }) := by
    rw [Attempt.run_bind, Machine.run_onRegisters (written _ _ (by decide) rfl)]
    exact Machine.run_onRegisters (written _ _ (by decide) rfl)
  unfold occupyStackTop
  rw [Attempt.run_bind, Machine.run_fromRegisters, RegisterCache.status_eq_ok_iff.2 held]
  simp only [mapError_ok]
  unfold stackStatus at stored
  -- A status word that is not known counts as zero, here as in `stackStatus`.
  by_cases valid : status = .valid
  · subst valid
    rw [if_pos held] at stored
    rw [if_pos rfl, Attempt.run_bind, Machine.run_fromRegisters,
      RegisterCache.readUnsigned_eq_value held (by decide)]
    exact stored
  · have other : machine.registers.statuses[fstat]? ≠ some .valid := fun same =>
      valid (Option.some.inj (held.symm.trans same))
    rw [if_neg other] at stored
    rw [if_neg valid]
    exact stored

section Parts

theorem run_told {α : Type} (access : Returning ε τ α) (machine : Machine registerFile τ) :
    Attempt.run (told access) machine =
      ((Attempt.run access machine).1.mapError .failed, (Attempt.run access machine).2) := rfl

theorem needRoom_of_le {buffer : Bytes} {stop : Nat} (room : stop ≤ buffer.length) :
    (needRoom buffer stop : Transferring ε τ Unit) = pure () := if_neg (Nat.not_lt.2 room)

theorem needRoom_bind {α : Type} {buffer : Bytes} {stop : Nat} (room : stop ≤ buffer.length)
    (next : Unit → Transferring ε τ α) : needRoom buffer stop >>= next = next () := by
  rw [needRoom_of_le room]
  rfl

theorem needRoom_of_lt {buffer : Bytes} {stop : Nat} (behind : buffer.length < stop) :
    (needRoom buffer stop : Transferring ε τ Unit) = throw (.outOfRange stop buffer.length) :=
  if_pos behind

theorem run_readParts_machine (into buffer : Bytes) (parts : List ReturnPart)
    (machine : Machine registerFile τ) :
    (Attempt.run (transferParts (.read into) buffer parts : Transferring ε τ Bytes) machine).2 =
      machine := by
  induction parts generalizing buffer with
  | nil => rfl
  | cons part rest ih =>
    rw [transferParts_cons rfl, transferPart]
    by_cases room : part.start + part.length ≤ buffer.length
    · rw [needRoom_bind room, bind_assoc, Attempt.run_bind, run_told,
        Machine.run_fromRegisters]
      cases machine.registers.readPart part.number part.offset part.length with
      | error error => rfl
      | ok bytes => exact ih _
    · rw [needRoom_of_lt (Nat.not_le.1 room)]
      rfl

theorem run_readParts {value : Bytes} {parts : List ReturnPart} {machine : Machine registerFile τ}
    (held : ∀ part ∈ parts,
      machine.registers.readPart part.number part.offset part.length = .ok (part.bytes value))
    (into : Bytes) {buffer : Bytes}
    (room : ∀ part ∈ parts, part.start + part.length ≤ buffer.length) :
    Attempt.run (transferParts (.read into) buffer parts : Transferring ε τ Bytes) machine =
      (.ok (parts.foldl (fun buffer part => buffer.overwrite part.start (part.bytes value)) buffer),
        machine) := by
  induction parts generalizing buffer with
  | nil => rfl
  | cons part rest ih =>
    obtain ⟨here, held⟩ := List.forall_mem_cons.1 held
    obtain ⟨enough, room⟩ := List.forall_mem_cons.1 room
    rw [transferParts_cons rfl, transferPart, needRoom_bind enough, bind_assoc, Attempt.run_bind,
      run_told, Machine.run_fromRegisters, here]
    exact ih held (by simpa only [Bytes.length_overwrite] using room)

/-- Parts that the value has are put in place, whatever follows them. -/
theorem run_writeParts_append {parts : List ReturnPart} (fits : ∀ part ∈ parts, part.Fits)
    {value : Bytes} (room : ∀ part ∈ parts, part.start + part.length ≤ value.length)
    (further : List ReturnPart) (machine : Machine registerFile τ) :
    Attempt.run (transferParts (.write value) value (parts ++ further) : Transferring ε τ Bytes)
        machine =
      Attempt.run (transferParts (.write value) value further)
        { machine with registers := parts.foldl (withPart value) machine.registers } := by
  induction parts generalizing machine with
  | nil => rfl
  | cons part rest ih =>
    obtain ⟨here, fits⟩ := List.forall_mem_cons.1 fits
    obtain ⟨enough, room⟩ := List.forall_mem_cons.1 room
    have put (machine : Machine registerFile τ) :
        Attempt.run (transferPart (.write value) value part.number part.offset part.start
          part.length : Transferring ε τ Bytes) machine =
          (.ok value, ⟨machine.registers.store part.number part.offset (part.bytes value) .valid,
            machine.memory⟩) := by
      have stored := machine.registers.writePart_eq_ok here.known (here.inside value)
      rw [transferPart, needRoom_bind enough, Attempt.run_bind, run_told,
        Machine.run_onRegisters stored]
      rfl
    rw [List.cons_append, List.foldl_cons, transferParts, withPart]
    -- The x87 stack is cleared before a mantissa is put on it.
    by_cases mantissa : part.eightbyteClass = .x87
    · rw [if_pos ⟨mantissa, rfl⟩, if_pos mantissa, Attempt.run_bind, run_told, run_occupyStackTop]
      dsimp only [mapError_ok]
      rw [Attempt.run_bind, put]
      exact ih fits room _
    · rw [if_neg (mantissa ∘ And.left), if_neg mantissa, Attempt.run_bind, put]
      exact ih fits room _

theorem run_writeParts {parts : List ReturnPart} (fits : ∀ part ∈ parts, part.Fits)
    {value : Bytes} (room : ∀ part ∈ parts, part.start + part.length ≤ value.length)
    (machine : Machine registerFile τ) :
    Attempt.run (transferParts (.write value) value parts : Transferring ε τ Bytes) machine =
      (.ok value, { machine with registers := parts.foldl (withPart value) machine.registers }) := by
  have written := @run_writeParts_append ε τ parts fits value room [] machine
  rwa [List.append_nil] at written

end Parts

section Registers

variable {registers start : RegisterCache registerFile} {part : ReturnPart} {value : Bytes}

theorem inside_word {number : Nat} (wide : registerFile.width number = 4) (value : Nat) :
    0 + (LittleEndian.digits 4 value).length ≤ registerFile.width number := by
  rw [LittleEndian.length_digits, wide]

theorem agreesAt_withStackTop {number : Nat} (agrees : registers.AgreesAt start number)
    (status : fstat ≠ number) (tags : ftag ≠ number) :
    (withStackTop registers).AgreesAt start number :=
  (agrees.store .valid (inside_word rfl _) status).store .valid (inside_word rfl _) tags

theorem readPart_withStackTop {number offset length : Nat} {bytes : Bytes}
    (held : registers.readPart number offset length = .ok bytes) (status : fstat ≠ number)
    (tags : ftag ≠ number) :
    (withStackTop registers).readPart number offset length = .ok bytes :=
  RegisterCache.readPart_store_of_apart
    (RegisterCache.readPart_store_of_apart held (inside_word rfl _) (.inl status))
    (inside_word rfl _) (.inl tags)

/-- No part of a value reaches a register that is not for returned values. -/
theorem agreesAt_withParts {parts : List ReturnPart} (fits : ∀ part ∈ parts, part.Fits) {number : Nat}
    (outside : number ∉ returnRegisters ++ [fstat, ftag])
    (agrees : registers.AgreesAt start number) :
    (parts.foldl (withPart value) registers).AgreesAt start number := by
  rw [List.mem_append, not_or] at outside
  have status : fstat ≠ number := fun same => outside.2 (same ▸ List.mem_cons_self ..)
  have tags : ftag ≠ number := fun same =>
    outside.2 (same ▸ List.mem_cons_of_mem _ (List.mem_singleton_self _))
  induction parts generalizing registers with
  | nil => exact agrees
  | cons part rest ih =>
    obtain ⟨here, fits⟩ := List.forall_mem_cons.1 fits
    have different : part.number ≠ number := fun same => outside.1 (same ▸ here.1)
    apply ih fits
    refine RegisterCache.AgreesAt.store ?_ .valid (here.inside value) different
    split
    · exact agreesAt_withStackTop agrees status tags
    · exact agrees

theorem readPart_withPart (fits : part.Fits) {number offset length : Nat} {bytes : Bytes}
    (held : registers.readPart number offset length = .ok bytes) (status : fstat ≠ number)
    (tags : ftag ≠ number)
    (apart : part.number ≠ number ∨ offset + length ≤ part.offset ∨
      part.offset + part.length ≤ offset) :
    (withPart value registers part).readPart number offset length = .ok bytes := by
  have short := part.length_bytes_le value
  refine RegisterCache.readPart_store_of_apart ?_ (fits.inside value) (by omega)
  split
  · exact readPart_withStackTop held status tags
  · exact held

theorem readPart_withParts_of_apart {parts : List ReturnPart} (fits : ∀ part ∈ parts, part.Fits)
    {held : ReturnPart} (own : held.Fits) (apart : ∀ part ∈ parts, held.Apart part)
    (found : registers.readPart held.number held.offset held.length = .ok (held.bytes value)) :
    (parts.foldl (withPart value) registers).readPart held.number held.offset held.length =
      .ok (held.bytes value) := by
  induction parts generalizing registers with
  | nil => exact found
  | cons part rest ih =>
    obtain ⟨here, fits⟩ := List.forall_mem_cons.1 fits
    obtain ⟨beside, apart⟩ := List.forall_mem_cons.1 apart
    refine ih fits apart (readPart_withPart here found own.ne.1.symm own.ne.2.symm ?_)
    exact beside.imp_left Ne.symm

theorem readPart_withParts {parts : List ReturnPart} (fits : ∀ part ∈ parts, part.Fits)
    (apart : parts.Pairwise ReturnPart.Apart) (long : 16 ≤ value.length) :
    ∀ part ∈ parts, (parts.foldl (withPart value) registers).readPart part.number part.offset
      part.length = .ok (part.bytes value) := by
  induction parts generalizing registers with
  | nil => nofun
  | cons first rest ih =>
    obtain ⟨here, fits⟩ := List.forall_mem_cons.1 fits
    obtain ⟨beside, apart⟩ := List.pairwise_cons.1 apart
    have put : (withPart value registers first).readPart first.number first.offset first.length =
        .ok (first.bytes value) := by
      have stored := RegisterCache.readPart_store_self
        (if first.eightbyteClass = .x87 then withStackTop registers else registers) here.known
        (here.inside value)
      rwa [first.length_bytes here long] at stored
    exact List.forall_mem_cons.2 ⟨readPart_withParts_of_apart fits here beside put, ih fits apart⟩

structure HasStackTop (registers : RegisterCache registerFile) : Prop where
  status : ∃ status, registers.bytes fstat = LittleEndian.digits 4 (status ||| 7 <<< 11)
  tags : registers.bytes ftag = LittleEndian.digits 4 0x3fff

theorem hasStackTop_withStackTop (registers : RegisterCache registerFile) :
    HasStackTop (withStackTop registers) where
  status := by
    refine ⟨stackStatus registers, ?_⟩
    unfold withStackTop
    rw [RegisterCache.bytes_store_of_ne _ _ (inside_word rfl _) (by decide),
      RegisterCache.bytes_store _ _ _ _ (inside_word rfl _), Bytes.overwrite_of_length]
    rw [LittleEndian.length_digits, RegisterCache.length_bytes]
    rfl
  tags := by
    unfold withStackTop
    rw [RegisterCache.bytes_store _ _ _ _ (inside_word rfl _), Bytes.overwrite_of_length]
    rw [LittleEndian.length_digits, RegisterCache.length_bytes]
    rfl

theorem hasStackTop_withPart (fits : part.Fits)
    (some : HasStackTop registers ∨ part.eightbyteClass = .x87) (value : Bytes) :
    HasStackTop (withPart value registers part) := by
  have before : HasStackTop
      (if part.eightbyteClass = .x87 then withStackTop registers else registers) := by
    split
    · exact hasStackTop_withStackTop registers
    · exact some.resolve_right ‹_›
  have kept {number : Nat} (different : number ≠ part.number) :
      (withPart value registers part).bytes number =
        (if part.eightbyteClass = .x87 then withStackTop registers else registers).bytes number :=
    RegisterCache.bytes_store_of_ne _ _ (fits.inside value) different
  obtain ⟨status, held⟩ := before.status
  exact ⟨⟨status, (kept fits.ne.1.symm).trans held⟩, (kept fits.ne.2.symm).trans before.tags⟩

/-- Once an x87 number has been put on its stack, there is nothing else on it. -/
theorem hasStackTop_withParts {parts : List ReturnPart} (fits : ∀ part ∈ parts, part.Fits)
    (some : HasStackTop registers ∨ ∃ part ∈ parts, part.eightbyteClass = .x87) (value : Bytes) :
    HasStackTop (parts.foldl (withPart value) registers) := by
  induction parts generalizing registers with
  | nil => exact some.resolve_right (by simp)
  | cons part rest ih =>
    obtain ⟨here, fits⟩ := List.forall_mem_cons.1 fits
    apply ih fits
    rcases some with has | ⟨mantissa, listed, x87⟩
    · exact .inl (hasStackTop_withPart here (.inl has) value)
    · rcases List.mem_cons.1 listed with rfl | later
      · exact .inl (hasStackTop_withPart here (.inr x87) value)
      · exact .inr ⟨mantissa, later, x87⟩

theorem top_of_status (status : Nat) :
    ((status ||| 7 <<< 11) % LittleEndian.capacity 2) >>> 11 % 8 = 7 := by
  have seven : ∀ low < 8, low ||| 7 = 7 := by decide
  have split (number : Nat) :
      (number % LittleEndian.capacity 2) >>> 11 % 8 = number >>> 11 % 1 <<< 3 := by
    rw [Nat.shiftRight_eq_div_pow, Nat.shiftRight_eq_div_pow]
    change number % 65536 / 2048 % 8 = number / 2048 % 8
    omega
  rw [split, Nat.shiftRight_or_distrib, Nat.shiftLeft_shiftRight, Nat.shiftLeft_eq, Nat.one_mul,
    Nat.or_mod_two_pow]
  exact seven _ (Nat.mod_lt _ (by decide))

/-- The number on the stack is in the last physical register, since the stack grows down. -/
theorem HasStackTop.collected (has : HasStackTop registers) {out : Bytes}
    (room : Fxsave.areaSize ≤ out.length) :
    ∃ area, Attempt.run (Fxsave.codec.collect registers .all) out = (.ok ⟨⟩, area) ∧
      Fxsave.top area = 7 ∧ area[4]? = some 0x80 := by
  obtain ⟨area, collected, -, places, -⟩ := Fxsave.exists_collected room registers
  obtain ⟨status, held⟩ := has.status
  refine ⟨area, collected, ?_, ?_⟩
  · have sized : (out.slice 2 2).length = 2 :=
      Bytes.length_slice_of_le (Nat.le_trans (by decide) room)
    have word : area.slice 2 2 = LittleEndian.digits 2 (status ||| 7 <<< 11) := by
      refine (places fstat (by decide)).trans ?_
      change (out.slice 2 2).overwrite 0 (registers.bytes fstat) = _
      rw [held, Bytes.overwrite_of_le (by rw [sized, LittleEndian.length_digits]; decide), sized,
        LittleEndian.take_digits (by decide)]
    rw [Fxsave.top, word, LittleEndian.value_digits]
    exact top_of_status status
  · have word : area.slice 4 2 = [0x80, 0] := by
      refine (places ftag (by decide)).trans ?_
      change LittleEndian.digits 2
        (Fxsave.abridgeTags (LittleEndian.value (registers.bytes ftag))) = _
      rw [has.tags]
      decide
    have first := congrArg (·[0]?) word
    rwa [Bytes.getElem?_slice, if_pos (by decide)] at first

end Registers

/-- What is read comes from the value wherever a part of it has been read. -/
theorem getElem?_overwriteParts {parts : List ReturnPart} {value buffer : Bytes}
    (fits : ∀ part ∈ parts, part.Fits) (long : 16 ≤ value.length) (room : 16 ≤ buffer.length)
    (index : Nat) :
    (parts.foldl (fun buffer part => buffer.overwrite part.start (part.bytes value)) buffer)[index]? =
      if ∃ part ∈ parts, part.start ≤ index ∧ index < part.start + part.length then value[index]?
      else buffer[index]? := by
  induction parts generalizing buffer with
  | nil => simp
  | cons part rest ih =>
    obtain ⟨here, fits⟩ := List.forall_mem_cons.1 fits
    have sized := part.length_bytes here long
    have inside := here.2.2
    rw [List.foldl_cons, ih fits (by rwa [Bytes.length_overwrite]), Bytes.getElem?_overwrite, sized]
    by_cases later : ∃ part ∈ rest, part.start ≤ index ∧ index < part.start + part.length
    · rw [if_pos later, if_pos (List.exists_mem_cons_of_exists later)]
    · rw [if_neg later]
      by_cases own : part.start ≤ index ∧ index < part.start + part.length
      · rw [if_pos (by omega), if_pos ⟨part, List.mem_cons_self .., own⟩, ReturnPart.bytes,
          Bytes.getElem?_slice, if_pos (by omega), Nat.add_sub_cancel' own.1]
      · rw [if_neg (by omega), if_neg (not_or.2 ⟨own, later⟩ ∘ (List.exists_mem_cons_iff ..).1)]

def Travels (type : DataType) (index : Nat) : Prop :=
  ∃ span ∈ returnedSpans (classify type) type.length, span.2.1 ≤ index ∧ index < span.2.2

instance (type : DataType) (index : Nat) : Decidable (Travels type index) :=
  inferInstanceAs (Decidable (∃ span ∈ _, _))

theorem Plans.travels_iff {type : DataType} {parts : List ReturnPart}
    (plans : Plans (classify type) type.length parts) (index : Nat) :
    Travels type index ↔ ∃ part ∈ parts, part.start ≤ index ∧ index < part.start + part.length := by
  unfold Travels
  rw [← plans.spans]
  simp only [List.mem_map, exists_exists_and_eq_and]
  rfl

theorem Plans.exists_x87 {type : DataType} {parts : List ReturnPart}
    (plans : Plans (classify type) type.length parts) (holds : HoldsX87 type) :
    ∃ part ∈ parts, part.eightbyteClass = .x87 := by
  unfold HoldsX87 at holds
  rw [← List.zipIdx_map_fst 0 (classify type).toList, ← List.map_take] at holds
  obtain ⟨eightbyte, listed, x87⟩ := List.mem_map.1 holds
  have travels : eightbyte.1 ≠ .noClass := by
    rw [x87]
    decide
  have spanned : eightbyteSpan type.length eightbyte ∈ parts.map ReturnPart.span := by
    rw [plans.spans]
    exact List.mem_map_of_mem (List.mem_filter.2 ⟨listed, decide_eq_true travels⟩)
  obtain ⟨part, member, same⟩ := List.mem_map.1 spanned
  exact ⟨part, member, (congrArg Prod.fst same).trans x87⟩

section CutsOff

variable {type : DataType} {buffer : Bytes} (cuts : CutsOff type buffer)
include cuts

/-- The mantissa of a number is put on the x87 stack before the program stops at its exponent. -/
theorem run_write_of_cutsOff (machine : Machine registerFile τ) :
    Attempt.run (transferInRegisters type (.write buffer) : Transferring ε τ _) machine =
      (.error (.outOfRange 10 9),
        { machine with registers := withPart buffer machine.registers mantissaPart }) := by
  obtain ⟨overreaches, nine⟩ := cutsOff_iff.1 cuts
  have written := @run_writeParts_append ε τ [mantissaPart] (by decide) buffer
    (by rw [nine]; decide) [exponentPart] machine
  have stopped (machine : Machine registerFile τ) :
      Attempt.run (transferParts (.write buffer) buffer [exponentPart] : Transferring ε τ Bytes)
        machine = (.error (.outOfRange 10 9), machine) := by
    have behind : buffer.length < exponentPart.start + exponentPart.length := by
      rw [nine]
      decide
    have other : exponentPart.eightbyteClass ≠ .x87 := by decide
    rw [transferParts, if_neg (other ∘ And.left), transferPart, needRoom_of_lt behind, nine]
    rfl
  rw [List.singleton_append, stopped] at written
  unfold transferInRegisters
  dsimp only [Transfer.buffer]
  rw [overreaches.parts, Attempt.run_bind, written]
  rfl

/-- The program stops at the exponent of a number that is read, once its mantissa has been. -/
theorem run_read_of_cutsOff (machine : Machine registerFile τ) :
    (∃ stop length, (Attempt.run (transferInRegisters type (.read buffer) : Transferring ε τ _)
      machine).1 = .error (.outOfRange stop length)) ↔
    machine.registers.statuses[st 0]? = some .valid := by
  obtain ⟨overreaches, nine⟩ := cutsOff_iff.1 cuts
  have enough : mantissaPart.start + mantissaPart.length ≤ buffer.length := by
    rw [nine]
    decide
  unfold transferInRegisters
  dsimp only [Transfer.buffer]
  rw [overreaches.parts, Attempt.run_bind, transferParts_cons rfl, transferPart,
    needRoom_bind enough, bind_assoc, Attempt.run_bind, run_told,
    Machine.run_fromRegisters]
  -- The mantissa is read before the program comes to the exponent.
  cases held : machine.registers.readPart mantissaPart.number mantissaPart.offset
    mantissaPart.length with
  | error error =>
    have other : ¬∃ stop length, (Except.error (Halt.failed (.register error)) :
        Except (Halt ε) (ReturnConvention × Bytes)) = .error (.outOfRange stop length) := nofun
    refine iff_of_false other fun valid => ?_
    have there := RegisterCache.readPart_eq_ok_iff.2 ⟨valid, (by decide : 0 + 8 ≤ _), rfl⟩
    exact nomatch held.symm.trans there
  | ok bytes =>
    obtain ⟨valid, -, -⟩ := RegisterCache.readPart_eq_ok_iff.1 held
    refine iff_of_true ⟨10, 9, ?_⟩ valid
    have behind : (buffer.overwrite mantissaPart.start bytes).length <
        exponentPart.start + exponentPart.length := by
      rw [Bytes.length_overwrite, nine]
      decide
    dsimp only [mapError_ok]
    rw [pure_bind, transferParts_cons rfl, transferPart, needRoom_of_lt behind,
      Bytes.length_overwrite, nine]
    rfl

end CutsOff

/-- What each outcome of a call leaves as it was. A call fails by telling its caller an error. Where the
buffer cuts off an exponent it tells nothing, since the program stops, and by then it may have put a
number on the x87 stack. -/
structure Confined (target : Target 64 ε τ) (transfer : Transfer) (before : Machine registerFile τ)
    {α : Type} (outcome : Except (Halt ε) α × Machine registerFile τ) : Prop where
  kept (other : transfer.isWrite = false) : outcome.2.registers = before.registers
  failed {error : Error ε} (failure : outcome.1 = .error (.failed error)) :
    outcome.2.registers = before.registers
  stopped {stop length : Nat} (stop : outcome.1 = .error (.outOfRange stop length)) :
    ∀ number ∉ [st 0, fstat, ftag], outcome.2.registers.AgreesAt before.registers number
  others : ∀ number ∉ [rax, rdx, xmm 0, xmm 1, st 0, fstat, ftag],
    outcome.2.registers.AgreesAt before.registers number
  memory {γ : Type} {contents : τ → γ} (reads : target.ReadsKeep contents) :
    contents outcome.2.memory = contents before.memory

section Confined

variable {target : Target 64 ε τ} {transfer : Transfer} {before : Machine registerFile τ} {α : Type}

theorem Confined.of_registers {outcome : Except (Halt ε) α × Machine registerFile τ}
    (same : outcome.2.registers = before.registers)
    (memory : ∀ {γ : Type} {contents : τ → γ}, target.ReadsKeep contents →
      contents outcome.2.memory = contents before.memory) :
    Confined target transfer before outcome where
  kept _ := same
  failed _ := same
  stopped _ number _ := same ▸ .refl _ number
  others number _ := same ▸ .refl _ number
  memory := memory

theorem Confined.same (result : Except (Halt ε) α) :
    Confined target transfer before (result, before) :=
  .of_registers rfl fun _ => rfl

theorem confined_transferInMemory (target : Target 64 ε τ) (type : DataType) (transfer : Transfer)
    (machine : Machine registerFile τ) :
    Confined target transfer machine (Attempt.run (transferInMemory target type transfer) machine) := by
  cases transfer with
  | inspect => exact .same _
  | write buffer => exact .same _
  | read buffer =>
    unfold transferInMemory
    rw [Attempt.run_bind, run_told, Machine.run_fromRegisters]
    cases machine.registers.readUnsigned rax with
    | error error => exact .same _
    | ok address =>
      dsimp only [mapError_ok]
      rw [Attempt.run_bind, run_told, Machine.run_onMemory]
      rcases read : Attempt.run (target.read (BitVec.ofNat 64 address) type.length)
        machine.memory with ⟨_ | _, _⟩
      all_goals
        refine .of_registers rfl fun reads => ?_
        have same := reads (BitVec.ofNat 64 address) type.length machine.memory
        rwa [read] at same

theorem confined_writeInRegisters (target : Target 64 ε τ) {type : DataType}
    (inRegisters : (classify type).first ≠ .memory) (short : type.length ≤ 16) {value : Bytes}
    (room : type.length ≤ value.length) (machine : Machine registerFile τ) :
    Confined target (.write value) machine
      (Attempt.run (transferInRegisters type (.write value)) machine) := by
  have plans := plans_returnParts (wellFormed_classify type) inRegisters short
  -- The program stops between the mantissa and the exponent, or all parts are written.
  by_cases cuts : CutsOff type value
  · have fits : ∀ part ∈ [mantissaPart], part.Fits := by decide
    have kept : ∀ number ∉ [st 0, fstat, ftag], (withPart value machine.registers
        mantissaPart).AgreesAt machine.registers number := by
      intro number outside
      obtain ⟨top, status, tags⟩ : number ≠ st 0 ∧ number ≠ fstat ∧ number ≠ ftag := by
        simpa using outside
      exact (agreesAt_withStackTop (.refl _ number) status.symm tags.symm).store .valid
        (ReturnPart.Fits.inside (by decide) value) top.symm
    rw [run_write_of_cutsOff cuts]
    exact {
      kept := nofun
      failed := nofun
      stopped := fun _ => kept
      others := fun number outside => agreesAt_withParts fits outside (.refl _ number)
      memory := fun _ => rfl }
  · have enough : reach type ≤ value.length := Nat.not_lt.1 fun behind => cuts ⟨room, behind⟩
    have inside : ∀ part ∈ returnParts (classify type) type.length,
        part.start + part.length ≤ value.length := fun part listed =>
      Nat.le_trans (stop_le_reach inRegisters short part listed) enough
    unfold transferInRegisters
    rw [Attempt.run_bind]
    dsimp only [Transfer.buffer]
    rw [run_writeParts plans.fits inside]
    exact {
      kept := nofun
      failed := nofun
      stopped := nofun
      others := fun number outside => agreesAt_withParts plans.fits outside (.refl _ number)
      memory := fun _ => rfl }

theorem confined_transferInRegisters (target : Target 64 ε τ) {type : DataType}
    (inRegisters : (classify type).first ≠ .memory) (short : type.length ≤ 16) {transfer : Transfer}
    (room : ∀ size ∈ transfer.room?, type.length ≤ size) (machine : Machine registerFile τ) :
    Confined target transfer machine (Attempt.run (transferInRegisters type transfer) machine) := by
  cases transfer with
  | inspect =>
    unfold transferInRegisters
    rw [Attempt.run_bind, run_inspectParts]
    exact .same _
  | read buffer =>
    have same := @run_readParts_machine ε τ buffer buffer
      (returnParts (classify type) type.length) machine
    unfold transferInRegisters
    rw [Attempt.run_bind]
    dsimp only [Transfer.buffer]
    rcases read : Attempt.run (transferParts (.read buffer) buffer
      (returnParts (classify type) type.length) : Transferring ε τ Bytes) machine with ⟨_ | _, _⟩
    all_goals
      rw [read] at same
      cases same
      exact .same _
  | write value => exact confined_writeInRegisters target inRegisters short (room _ rfl) machine

theorem Transfer.enough {transfer : Transfer} {length : Nat}
    (enough : ¬transfer.room?.any (· < length)) : ∀ size ∈ transfer.room?, length ≤ size := by
  intro size listed
  refine Nat.not_lt.1 fun small => enough ?_
  rw [listed]
  exact decide_eq_true small

theorem confined_attemptTransfer (target : Target 64 ε τ) (type : DataType) (transfer : Transfer)
    (machine : Machine registerFile τ) :
    Confined target transfer machine
      (Attempt.run (attemptTransfer target type transfer) machine) := by
  rw [attemptTransfer_eq]
  split
  · exact .same _
  · rename_i room
    split
    · exact confined_transferInMemory target type transfer machine
    · split
      · exact .same _
      · rename_i inRegisters long
        exact confined_transferInRegisters target inRegisters (Nat.not_lt.1 long)
          (Transfer.enough room) machine

end Confined

theorem Transfer.not_small {transfer : Transfer} {length : Nat}
    (room : ∀ size ∈ transfer.room?, length ≤ size) : ¬transfer.room?.any (· < length) := by
  rw [Option.any_eq_true]
  rintro ⟨size, listed, small⟩
  exact absurd (room size listed) (Nat.not_le.2 (of_decide_eq_true small))

/-- A buffer with enough room leaves a value to be transferred in registers. -/
theorem attemptTransfer_of_room (target : Target 64 ε τ) {type : DataType}
    (inRegisters : (classify type).first ≠ .memory) (short : type.length ≤ 16) {transfer : Transfer}
    (room : ∀ size ∈ transfer.room?, type.length ≤ size) :
    attemptTransfer target type transfer = transferInRegisters type transfer := by
  rw [attemptTransfer_eq, if_neg (Transfer.not_small room), if_neg inRegisters,
    if_neg (Nat.not_lt.2 short)]

/-- The program stops if and only if a buffer cuts off an exponent; a number that is read has to be
there, since otherwise reading it fails before. -/
theorem stops_iff (target : Target 64 ε τ) (type : DataType) (transfer : Transfer)
    (machine : Machine registerFile τ) :
    (∃ stop length, (Attempt.run (attemptTransfer target type transfer) machine).1 =
      .error (.outOfRange stop length)) ↔
    CutsOff type transfer.buffer ∧
      (transfer.isWrite ∨ machine.registers.statuses[st 0]? = some .valid) := by
  by_cases cuts : CutsOff type transfer.buffer
  · obtain ⟨overreaches, nine⟩ := cutsOff_iff.1 cuts
    have room : ∀ size ∈ transfer.room?, type.length ≤ size := by
      rw [overreaches.1]
      cases transfer with
      | inspect => nofun
      | read buffer | write buffer =>
        rintro _ ⟨⟩
        exact Nat.le_of_eq nine.symm
    rw [attemptTransfer_of_room target overreaches.inRegisters overreaches.short room]
    cases transfer with
    | inspect => cases nine
    | read buffer =>
      have cuts : CutsOff type buffer := cuts
      rw [run_read_of_cutsOff cuts]
      exact ⟨fun valid => ⟨cuts, .inr valid⟩, fun both => both.2.resolve_left Bool.false_ne_true⟩
    | write buffer =>
      have cuts : CutsOff type buffer := cuts
      rw [run_write_of_cutsOff cuts]
      exact iff_of_true ⟨10, 9, rfl⟩ ⟨cuts, .inl rfl⟩
  -- The program stops nowhere but at an exponent that is cut off.
  · refine iff_of_false ?_ (cuts ∘ And.left)
    rintro ⟨stop, length, ended⟩
    cases earlyEnd_of_attemptTransfer ended with
    | cutOff cuts' => exact cuts cuts'

end Amd64

end Inferior

import Inferior.Amd64.PreparedCall
import Inferior.Proofs.ArgumentPlaces
import Inferior.Proofs.Overlay

/-! Passing arguments delivers exactly what was planned: each part of each argument is found in its
place afterwards, and nothing else is touched.
-/

set_option autoImplicit false

namespace Inferior

namespace Machine

variable {file : RegisterFile} {ε τ α : Type}

theorem run_onRegisters {change : RegisterCache file → Except RegisterError (RegisterCache file)}
    {machine : Machine file τ} {registers : RegisterCache file}
    (changed : change machine.registers = .ok registers) :
    Attempt.run (onRegisters change : Attempt _ (Error ε) _) machine =
      (.ok ⟨⟩, { machine with registers }) := by
  unfold onRegisters
  rw [Attempt.run_bind, Attempt.run_get]
  simp only [changed]
  rfl

theorem run_fromRegisters (look : RegisterCache file → Except RegisterError α)
    (machine : Machine file τ) :
    Attempt.run (fromRegisters look : Attempt _ (Error ε) α) machine =
      ((look machine.registers).mapError .register, machine) := rfl

theorem run_onMemory (access : Attempt τ (TargetError ε) α) (machine : Machine file τ) :
    Attempt.run (onMemory access) machine =
      ((Attempt.run access machine.memory).1.mapError .target,
        { machine with memory := (Attempt.run access machine.memory).2 }) := rfl

theorem run_onMemory_bind {β : Type} (access : Attempt τ (TargetError ε) α)
    (next : α → Attempt τ (TargetError ε) β) (machine : Machine file τ) :
    Attempt.run (onMemory (access >>= next)) machine =
      Attempt.run (onMemory access >>= fun value => onMemory (next value)) machine := by
  rw [Attempt.run_bind, run_onMemory, run_onMemory, Attempt.run_bind]
  rcases Attempt.run access machine.memory with ⟨_ | _, _⟩ <;> rfl

end Machine

namespace RegisterCache

variable {file : RegisterFile}

theorem writePart_eq_ok (cache : RegisterCache file) {number offset : Nat} {bytes : Bytes}
    (known : number < file.count) (fits : offset + bytes.length ≤ file.width number) :
    cache.writePart number offset bytes = .ok (cache.store number offset bytes .valid) := by
  have size : cache.size number = .ok (file.width number) := if_pos known
  unfold writePart
  rw [size, ok_bind, if_neg (Nat.not_lt.2 fits)]
  rfl

theorem writeUnsigned_eq_store (cache : RegisterCache file) {number : Nat} (value : Nat)
    (known : number < file.count) :
    cache.writeUnsigned number value = .ok (cache.store number 0
      ((LittleEndian.digits 8 value).resize (file.width number)) .valid) := by
  have size : cache.size number = .ok (file.width number) := if_pos known
  have sized := Bytes.length_resize (LittleEndian.digits 8 value) (file.width number)
  unfold writeUnsigned
  rw [size, ok_bind, write, size, ok_bind, if_neg (not_not_intro sized)]
  exact writePart_eq_ok cache known (Nat.le_of_eq ((Nat.zero_add _).trans sized))

theorem writeUnsigned_eq_ok (cache : RegisterCache file) {number : Nat} (value : Nat)
    (known : number < file.count) (wide : file.width number = 8) :
    cache.writeUnsigned number value =
      .ok (cache.store number 0 (LittleEndian.digits 8 value) .valid) := by
  rw [writeUnsigned_eq_store cache value known, wide,
    Bytes.resize_eq_self (LittleEndian.length_digits 8 value)]

theorem readUnsigned_eq_ok {cache : RegisterCache file} {number value : Nat}
    (known : number < file.count) (wide : file.width number = 8) (small : value < 1 <<< 64)
    (content : cache.read number = .ok (LittleEndian.digits 8 value)) :
    cache.readUnsigned number = .ok value := by
  have size : cache.size number = .ok 8 := by
    rw [← wide]
    exact if_pos known
  have capacity : LittleEndian.capacity 8 = 1 <<< 64 := by decide
  rw [read_eq_readPart known, wide] at content
  unfold readUnsigned
  rw [size, ok_bind]
  change cache.readPart number 0 8 >>= _ = _
  rw [content, ok_bind, LittleEndian.value_digits, capacity, Nat.mod_eq_of_lt small]
  rfl

end RegisterCache

namespace Value

/-- An eightbyte of a value, filled up with zeros where the value ends in it. -/
def eightbyte (value : Value) (index : Nat) : Bytes := (value.contents.slice (8 * index) 8).resize 8

theorem length_eightbyte (value : Value) (index : Nat) : (value.eightbyte index).length = 8 :=
  Bytes.length_resize _ _

end Value

namespace Amd64

theorem alignStack_eq (sp : BitVec 64) : alignStack sp = (sp >>> 4) <<< 4 := by
  have low : (15 : BitVec 64) = (BitVec.allOnes 4).setWidth 64 := rfl
  unfold alignStack
  rw [low]
  apply BitVec.eq_of_getLsbD_eq
  intro index inside
  simp only [BitVec.getLsbD_and, BitVec.getLsbD_not, BitVec.getLsbD_setWidth,
    BitVec.getLsbD_allOnes, BitVec.getLsbD_shiftLeft, BitVec.getLsbD_ushiftRight, inside]
  by_cases below : index < 4
  · simp [below]
  · have back : 4 + (index - 4) = index := by omega
    simp [below, back]

theorem toNat_alignStack (sp : BitVec 64) : (alignStack sp).toNat = 16 * (sp.toNat / 16) := by
  have := sp.isLt
  rw [alignStack_eq, BitVec.toNat_shiftLeft, BitVec.toNat_ushiftRight, Nat.shiftRight_eq_div_pow,
    Nat.shiftLeft_eq]
  omega

/-- The distance of an address from a place above the stack pointer wraps below that place. -/
theorem toNat_sub_add (address sp : BitVec 64) {offset : Nat} (small : offset < 1 <<< 64) :
    (address - (sp + BitVec.ofNat 64 offset)).toNat =
      if offset ≤ (address - sp).toNat then (address - sp).toNat - offset
      else (1 <<< 64) - offset + (address - sp).toNat := by
  have := (address - sp).isLt
  rw [← BitVec.sub_sub, BitVec.toNat_sub, BitVec.toNat_ofNat]
  split <;> omega

/-- Bytes that start at an offset from a stack pointer are found by the distance from it. -/
theorem layer_stack (sp address : BitVec 64) {offset : Nat} {bytes : Bytes}
    (room : offset + bytes.length < 1 <<< 64) :
    MemoryWrite.layer ⟨sp + BitVec.ofNat 64 offset, bytes⟩ address =
      if offset ≤ (address - sp).toNat then bytes[(address - sp).toNat - offset]? else none := by
  unfold MemoryWrite.layer
  rw [toNat_sub_add address sp (by omega)]
  split
  · rfl
  · apply List.getElem?_eq_none
    change bytes.length ≤ _
    omega

theorem layer_stack_eq_none_iff {sp address : BitVec 64} {offset : Nat} {bytes : Bytes}
    (room : offset + bytes.length < 1 <<< 64) :
    MemoryWrite.layer ⟨sp + BitVec.ofNat 64 offset, bytes⟩ address = none ↔
      ¬(offset ≤ (address - sp).toNat ∧ (address - sp).toNat < offset + bytes.length) := by
  rw [layer_stack sp address room]
  split
  · rw [List.getElem?_eq_none_iff]
    omega
  · simp only [true_iff]
    omega

namespace ArgumentPlace

def registerWrite? (argument : Value) : ArgumentPlace → Option RegisterWrite
  | .register _ eightbyte number offset => some ⟨number, offset, argument.eightbyte eightbyte⟩
  | .stack _ _ => none

/-- Empty arguments are not written. -/
def memoryWrite? (sp : BitVec 64) (argument : Value) : ArgumentPlace → Option (MemoryWrite 64)
  | .register _ _ _ _ => none
  | .stack offset length =>
    if length = 0 then none
    else some ⟨sp + BitVec.ofNat 64 offset, argument.contents.take length⟩

def UsesRegister (number : Nat) : ArgumentPlace → Prop
  | .register _ _ number' _ => number' = number
  | .stack _ _ => False

def CoversByte (number index : Nat) : ArgumentPlace → Prop
  | .register _ _ number' offset => number' = number ∧ offset ≤ index ∧ index < offset + 8
  | .stack _ _ => False

def CoversAddress (sp address : BitVec 64) : ArgumentPlace → Prop
  | .register _ _ _ _ => False
  | .stack offset length =>
    offset ≤ (address - sp).toNat ∧ (address - sp).toNat < offset + length

end ArgumentPlace

namespace ArgumentLayout

def spBelow (layout : ArgumentLayout) (sp : BitVec 64) : BitVec 64 :=
  alignStack (sp - BitVec.ofNat 64 (8 * layout.stackEightbytes))

def registerWrites (layout : ArgumentLayout) (arguments : List Value) : List RegisterWrite :=
  (layout.assignments arguments).filterMap fun pair => pair.2.registerWrite? pair.1

/-- The number of SSE registers goes to `rax` once the arguments are in their places. -/
def allRegisterWrites (layout : ArgumentLayout) (arguments : List Value) : List RegisterWrite :=
  layout.registerWrites arguments ++ [.whole rax layout.ssesUsed]

def memoryWrites (layout : ArgumentLayout) (arguments : List Value) (sp : BitVec 64) :
    List (MemoryWrite 64) :=
  (layout.assignments arguments).filterMap fun pair => pair.2.memoryWrite? sp pair.1

end ArgumentLayout

variable {ε τ : Type}

section Writes

variable {layout : ArgumentLayout} {arguments : List Value} {structReturn : Bool}
  (separates : layout.Separates arguments structReturn)

theorem mem_registerWrites {write : RegisterWrite} :
    write ∈ layout.registerWrites arguments ↔
      ∃ argument eightbyteClass eightbyte number offset,
        (argument, .register eightbyteClass eightbyte number offset) ∈
          layout.assignments arguments ∧
        write = ⟨number, offset, argument.eightbyte eightbyte⟩ := by
  unfold ArgumentLayout.registerWrites
  rw [List.mem_filterMap]
  constructor
  · rintro ⟨⟨argument, place⟩, listed, found⟩
    cases place with
    | stack => cases found
    | register eightbyteClass eightbyte number offset =>
      cases found
      exact ⟨argument, eightbyteClass, eightbyte, number, offset, listed, rfl⟩
  · rintro ⟨argument, eightbyteClass, eightbyte, number, offset, listed, rfl⟩
    exact ⟨_, listed, rfl⟩

theorem mem_memoryWrites {sp : BitVec 64} {write : MemoryWrite 64} :
    write ∈ layout.memoryWrites arguments sp ↔
      ∃ argument offset length, (argument, .stack offset length) ∈ layout.assignments arguments ∧
        length ≠ 0 ∧
        write = ⟨sp + BitVec.ofNat 64 offset, argument.contents.take length⟩ := by
  unfold ArgumentLayout.memoryWrites
  rw [List.mem_filterMap]
  constructor
  · rintro ⟨⟨argument, place⟩, listed, found⟩
    cases place with
    | register => cases found
    | stack offset length =>
      obtain ⟨filled, same⟩ := Option.ite_none_left_eq_some.1 found
      exact ⟨argument, offset, length, listed, filled, (Option.some.inj same).symm⟩
  · rintro ⟨argument, offset, length, listed, filled, rfl⟩
    exact ⟨_, listed, if_neg filled⟩

include separates

theorem registerWrites_inside : ∀ write ∈ layout.registerWrites arguments,
    write.number < registerFile.count ∧
      write.offset + write.bytes.length ≤ registerFile.width write.number := by
  intro write listed
  obtain ⟨argument, eightbyteClass, eightbyte, number, offset, assigned, rfl⟩ :=
    mem_registerWrites.1 listed
  have taken := separates.taken _ assigned
  rw [Value.length_eightbyte]
  exact taken.inside

theorem allRegisterWrites_inside : ∀ write ∈ layout.allRegisterWrites arguments,
    write.number < registerFile.count ∧
      write.offset + write.bytes.length ≤ registerFile.width write.number :=
  List.forall_mem_append.2 ⟨registerWrites_inside separates,
    List.forall_mem_singleton.2 (by decide : rax < registerFile.count ∧ 0 + 8 ≤ 8)⟩

/-- Registers that pass no arguments may be written besides them. -/
theorem registerLayers_apart {others : List RegisterWrite}
    (apart : (others.map RegisterWrite.layer).Pairwise ByteMap.Apart)
    (spared : ∀ write ∈ others, ∀ pair ∈ layout.assignments arguments,
      ¬pair.2.UsesRegister write.number) :
    ((layout.registerWrites arguments ++ others).map RegisterWrite.layer).Pairwise
      ByteMap.Apart := by
  rw [List.pairwise_map, List.pairwise_append]
  refine ⟨?_, List.pairwise_map.1 apart, ?_⟩
  · refine List.pairwise_filterMap.2 (separates.apart.imp ?_)
    rintro ⟨argument, place⟩ ⟨argument', place'⟩ apart write found write' found'
    cases place with
    | stack => cases found
    | register =>
      cases place' with
      | stack => cases found'
      | register =>
        cases found
        cases found'
        apply RegisterWrite.apart_layer
        rwa [Value.length_eightbyte, Value.length_eightbyte]
  · intro write listed other further
    obtain ⟨argument, eightbyteClass, eightbyte, number, offset, assigned, rfl⟩ :=
      mem_registerWrites.1 listed
    exact RegisterWrite.apart_layer (.inl (spared other further _ assigned))

theorem spares {pair : Value × ArgumentPlace} (assigned : pair ∈ layout.assignments arguments) :
    ∀ number ∈ [rax, rsp, rbp], ¬pair.2.UsesRegister number := by
  intro number listed used
  have taken := separates.taken pair assigned
  obtain ⟨argument, place⟩ := pair
  cases place with
  | stack => exact used
  | register eightbyteClass eightbyte number' offset =>
    obtain ⟨rax, rsp, rbp⟩ := taken.spares
    have same : number' = number := used
    simp only [List.mem_cons, List.not_mem_nil, or_false] at listed
    grind

theorem allRegisterLayers_apart :
    ((layout.allRegisterWrites arguments).map RegisterWrite.layer).Pairwise ByteMap.Apart := by
  refine registerLayers_apart separates (List.pairwise_singleton _ _)
    (List.forall_mem_singleton.2 fun pair assigned => ?_)
  exact spares separates assigned rax (by decide)

theorem stackPlace_inside {argument : Value} {offset length : Nat}
    (listed : (argument, .stack offset length) ∈ layout.assignments arguments) :
    offset + length ≤ 8 * layout.stackEightbytes ∧ length = argument.contents.length := by
  constructor
  · cases separates.taken _ listed with
    | stack start stop => exact stop
  · exact (separates.fits _ listed).trans argument.length_contents.symm

variable (room : 8 * layout.stackEightbytes < 1 <<< 64)
include room

theorem memoryWrites_fit (sp : BitVec 64) :
    ∀ write ∈ layout.memoryWrites arguments sp, write.bytes.length ≤ 1 <<< 64 := by
  intro write listed
  obtain ⟨argument, offset, length, assigned, -, rfl⟩ := mem_memoryWrites.1 listed
  obtain ⟨below, rfl⟩ := stackPlace_inside separates assigned
  rw [List.take_length]
  change argument.contents.length ≤ _
  omega

theorem memoryLayers_apart (sp : BitVec 64) :
    ((layout.memoryWrites arguments sp).map MemoryWrite.layer).Pairwise ByteMap.Apart := by
  refine List.pairwise_map.2 (List.pairwise_filterMap.2 (separates.apart.imp_of_mem ?_))
  rintro ⟨argument, place⟩ ⟨argument', place'⟩ listed listed' apart write found write' found' address
  cases place with
  | register => cases found
  | stack offset length =>
    cases place' with
    | register => cases found'
    | stack offset' length' =>
      obtain ⟨filled, same⟩ := Option.ite_none_left_eq_some.1 found
      obtain ⟨filled', same'⟩ := Option.ite_none_left_eq_some.1 found'
      cases same
      cases same'
      obtain ⟨inside, rfl⟩ := stackPlace_inside separates listed
      obtain ⟨inside', rfl⟩ := stackPlace_inside separates listed'
      dsimp only [ArgumentPlace.Apart] at apart
      rw [List.take_length, List.take_length, layer_stack_eq_none_iff (by omega),
        layer_stack_eq_none_iff (by omega)]
      omega

theorem contents_writeAll {target : Target 64 ε τ} {contents : τ → ByteMap (BitVec 64)}
    (remembers : target.Remembers contents) {sp : BitVec 64} {before after : τ}
    (written : Attempt.run (target.writeAll (layout.memoryWrites arguments sp)) before =
      (.ok ⟨⟩, after)) {write : MemoryWrite 64} (listed : write ∈ layout.memoryWrites arguments sp)
    {index : Nat} (inside : index < write.bytes.length) :
    contents after (write.address + BitVec.ofNat 64 index) = write.bytes[index]? := by
  have fits := memoryWrites_fit separates room sp
  have small := fits write listed
  rw [remembers.contents_writeAll fits written, List.getElem?_eq_getElem inside]
  refine ByteMap.foldl_overlaid_of_mem (memoryLayers_apart separates room sp)
    (List.mem_map_of_mem listed) ?_
  rw [write.layer_add (by omega), List.getElem?_eq_getElem inside]

end Writes

section Run

variable {target : Target 64 ε τ}

def passPart (argument : Value) : ArgumentPlace → Setup ε τ Unit
  | .register _ eightbyte number offset =>
    Machine.onRegisters (·.writePart number offset (argument.eightbyte eightbyte))
  | .stack _ _ => pure ()

def passWhole (target : Target 64 ε τ) (sp : BitVec 64) (argument : Value) :
    ArgumentPlace → Setup ε τ Unit
  | .register _ _ _ _ => pure ()
  | .stack offset length =>
    if length = 0 then pure ()
    else Machine.onMemory
      (target.write (sp + BitVec.ofNat 64 offset) (argument.contents.take length))

theorem forM_assign (pass : Value → ArgumentPlace → Setup ε τ Unit) (arguments : List Value)
    (places : List (List ArgumentPlace)) :
    ((arguments.zip places).forM fun (argument, own) => own.forM (pass argument)) =
      (ArgumentLayout.assign arguments places).forM fun pair => pass pair.1 pair.2 := by
  unfold ArgumentLayout.assign
  simp only [List.forM_eq_forM]
  induction arguments.zip places with
  | nil => rfl
  | cons pair rest ih =>
    rw [List.flatMap_cons, List.forM_append, List.forM_map, List.forM_cons, ih]

theorem forM_passInRegisters (arguments : List Value) (places : List (List ArgumentPlace)) :
    ((arguments.zip places).forM fun (argument, own) =>
        passInRegisters (ε := ε) (τ := τ) argument own) =
      (ArgumentLayout.assign arguments places).forM fun pair => passPart pair.1 pair.2 :=
  forM_assign passPart arguments places

theorem forM_passOnStack (sp : BitVec 64) (arguments : List Value)
    (places : List (List ArgumentPlace)) :
    ((arguments.zip places).forM fun (argument, own) => passOnStack target sp argument own) =
      (ArgumentLayout.assign arguments places).forM fun pair => passWhole target sp pair.1 pair.2 :=
  forM_assign (passWhole target sp) arguments places

theorem run_passPart {pairs : List (Value × ArgumentPlace)}
    (inside : ∀ pair ∈ pairs, ∀ write, pair.2.registerWrite? pair.1 = some write →
      write.number < registerFile.count ∧
        write.offset + write.bytes.length ≤ registerFile.width write.number)
    (machine : Machine registerFile τ) :
    Attempt.run (pairs.forM fun pair => passPart (ε := ε) pair.1 pair.2) machine =
      (.ok ⟨⟩, ⟨machine.registers.storeAll
        (pairs.filterMap fun pair => pair.2.registerWrite? pair.1), machine.memory⟩) := by
  induction pairs generalizing machine with
  | nil => rfl
  | cons pair rest ih =>
    obtain ⟨here, further⟩ := List.forall_mem_cons.1 inside
    obtain ⟨argument, place⟩ := pair
    change Attempt.run (passPart argument place >>= fun _ => rest.forM _) machine = _
    cases place with
    | stack offset length => exact ih further machine
    | register eightbyteClass eightbyte number offset =>
      obtain ⟨known, fits⟩ := here _ rfl
      have stored := machine.registers.writePart_eq_ok known fits
      rw [Attempt.run_bind, passPart, Machine.run_onRegisters stored]
      exact ih further _

theorem run_passWhole (sp : BitVec 64) (pairs : List (Value × ArgumentPlace))
    (machine : Machine registerFile τ) :
    Attempt.run (pairs.forM fun pair => passWhole target sp pair.1 pair.2) machine =
      Attempt.run (Machine.onMemory (target.writeAll
        (pairs.filterMap fun pair => pair.2.memoryWrite? sp pair.1))) machine := by
  induction pairs generalizing machine with
  | nil => rfl
  | cons pair rest ih =>
    obtain ⟨argument, place⟩ := pair
    change Attempt.run (passWhole target sp argument place >>= fun _ => rest.forM _) machine = _
    cases place with
    | register eightbyteClass eightbyte number offset => exact ih machine
    | stack offset length =>
      rw [passWhole, List.filterMap_cons, ArgumentPlace.memoryWrite?]
      split
      · exact ih machine
      · change _ = Attempt.run (Machine.onMemory (target.write _ _ >>= fun _ => target.writeAll _)) _
        rw [Machine.run_onMemory_bind, Attempt.run_bind, Attempt.run_bind]
        rcases Attempt.run (Machine.onMemory _) machine with ⟨_ | _, _⟩
        · rfl
        · exact ih _

theorem run_passArguments {arguments : List Value} {sp : BitVec 64} {structReturn : Bool}
    {layout : ArgumentLayout} (planned : layOutArguments arguments structReturn = .ok layout)
    (machine : Machine registerFile τ) :
    Attempt.run (passArguments target arguments sp structReturn) machine =
      match Attempt.run (target.writeAll (layout.memoryWrites arguments (layout.spBelow sp)))
        machine.memory with
      | (.ok _, memory) =>
        (.ok (layout.spBelow sp),
          ⟨machine.registers.storeAll (layout.allRegisterWrites arguments), memory⟩)
      | (.error error, memory) =>
        (.error (.target error),
          ⟨machine.registers.storeAll (layout.registerWrites arguments), memory⟩) := by
  have separates := ArgumentLayout.separates_of_layOutArguments planned
  have inside : ∀ pair ∈ layout.assignments arguments, ∀ write,
      pair.2.registerWrite? pair.1 = some write → write.number < registerFile.count ∧
        write.offset + write.bytes.length ≤ registerFile.width write.number := by
    intro pair listed write found
    have passed : write ∈ layout.registerWrites arguments :=
      List.mem_filterMap.2 ⟨pair, listed, found⟩
    exact registerWrites_inside separates write passed
  have count := (machine.registers.storeAll (layout.registerWrites arguments)).writeUnsigned_eq_ok
    layout.ssesUsed (by decide : rax < registerFile.count) (by decide : registerFile.width rax = 8)
  have onRegisters : Attempt.run ((ArgumentLayout.assign arguments layout.places).forM
      fun pair => passPart (ε := ε) pair.1 pair.2) machine =
        (.ok ⟨⟩, ⟨machine.registers.storeAll (layout.registerWrites arguments), machine.memory⟩) :=
    run_passPart inside machine
  have onStack (machine : Machine registerFile τ) :
      Attempt.run ((ArgumentLayout.assign arguments layout.places).forM fun pair =>
        passWhole target (alignStack (sp - BitVec.ofNat 64 (8 * layout.stackEightbytes)))
          pair.1 pair.2) machine =
        Attempt.run (Machine.onMemory (target.writeAll
          (layout.memoryWrites arguments (layout.spBelow sp)))) machine :=
    run_passWhole _ _ machine
  -- Both loops go through the same list of places, and each takes those of its own kind.
  unfold passArguments
  rw [Attempt.run_bind, Attempt.run_ofExcept, planned]
  dsimp only [mapError_ok]
  rw [forM_passInRegisters, forM_passOnStack, Attempt.run_bind, onRegisters]
  dsimp only
  rw [Attempt.run_bind, onStack, Machine.run_onMemory]
  dsimp only
  rcases Attempt.run (target.writeAll (layout.memoryWrites arguments (layout.spBelow sp)))
    machine.memory with ⟨_ | _, memory⟩
  · rfl
  · dsimp only [mapError_ok]
    rw [Attempt.run_bind, Machine.run_onRegisters count, ArgumentLayout.allRegisterWrites,
      RegisterCache.storeAll_append]
    rfl

end Run

/-- What is found after arguments have been passed in their places, from a stack pointer on. -/
structure Delivers (layout : ArgumentLayout) (arguments : List Value)
    (contents : τ → ByteMap (BitVec 64)) (sp : BitVec 64) (before after : Machine registerFile τ) :
    Prop where
  inRegister {index : Nat} {argument : Value} {own : List ArgumentPlace}
    {eightbyteClass : EightbyteClass} {eightbyte number offset : Nat}
    (given : arguments[index]? = some argument) (planned : layout.places[index]? = some own)
    (placed : .register eightbyteClass eightbyte number offset ∈ own) :
    after.registers.readPart number offset 8 = .ok (argument.eightbyte eightbyte)
  onStack {index : Nat} {argument : Value} {own : List ArgumentPlace} {offset length : Nat}
    (given : arguments[index]? = some argument) (planned : layout.places[index]? = some own)
    (placed : .stack offset length ∈ own) :
    length = argument.contents.length ∧ ∀ byte < length,
      contents after.memory (sp + BitVec.ofNat 64 (offset + byte)) = argument.contents[byte]?
  count : after.registers.readUnsigned rax = .ok layout.ssesUsed
  registerKept {number index : Nat} (other : number ≠ rax)
    (free : ∀ own ∈ layout.places, ∀ place ∈ own, ¬place.CoversByte number index) :
    after.registers.contents (number, index) = before.registers.contents (number, index)
  statusKept {number : Nat} (other : number ≠ rax)
    (free : ∀ own ∈ layout.places, ∀ place ∈ own, ¬place.UsesRegister number) :
    after.registers.statuses[number]? = before.registers.statuses[number]?
  memoryKept {address : BitVec 64}
    (free : ∀ own ∈ layout.places, ∀ place ∈ own, ¬place.CoversAddress sp address) :
    contents after.memory address = contents before.memory address

section Delivery

variable {target : Target 64 ε τ} {contents : τ → ByteMap (BitVec 64)}
  {layout : ArgumentLayout} {arguments : List Value} {structReturn : Bool}

theorem free_of_places {property : ArgumentPlace → Prop}
    (free : ∀ own ∈ layout.places, ∀ place ∈ own, ¬property place) {argument : Value}
    {place : ArgumentPlace} (listed : (argument, place) ∈ layout.assignments arguments) :
    ¬property place := by
  obtain ⟨index, own, given, planned, placed⟩ := ArgumentLayout.mem_assign.1 listed
  exact free own (List.mem_of_getElem? planned) place placed

theorem assigned_of_places (separates : layout.Separates arguments structReturn)
    {own : List ArgumentPlace} (planned : own ∈ layout.places) {place : ArgumentPlace}
    (placed : place ∈ own) : ∃ argument, (argument, place) ∈ layout.assignments arguments := by
  obtain ⟨index, found⟩ := List.mem_iff_getElem?.1 planned
  have inside := (List.getElem?_eq_some_iff.1 found).1
  rw [separates.length] at inside
  exact ⟨arguments[index], ArgumentLayout.mem_assign.2
    ⟨index, own, List.getElem?_eq_getElem inside, found, placed⟩⟩

section Stored

variable (separates : layout.Separates arguments structReturn)
  (registers : RegisterCache registerFile)
include separates

theorem readPart_stored {write : RegisterWrite}
    (listed : write ∈ layout.allRegisterWrites arguments) :
    (registers.storeAll (layout.allRegisterWrites arguments)).readPart write.number write.offset
      write.bytes.length = .ok write.bytes :=
  registers.readPart_storeAll (allRegisterWrites_inside separates)
    (allRegisterLayers_apart separates) listed

theorem count_stored :
    (registers.storeAll (layout.allRegisterWrites arguments)).readUnsigned rax =
      .ok layout.ssesUsed := by
  have listed : .whole rax layout.ssesUsed ∈ layout.allRegisterWrites arguments :=
    List.mem_append_right _ (List.mem_singleton.2 rfl)
  have found := readPart_stored separates registers listed
  have few := separates.sses
  have eight : sseArguments.length = 8 := rfl
  have known : rax < registerFile.count := by decide
  refine RegisterCache.readUnsigned_eq_ok known (by decide) (by omega) ?_
  rw [RegisterCache.read_eq_readPart known]
  exact found

theorem contents_stored_of_free {number index : Nat} (other : number ≠ rax)
    (free : ∀ own ∈ layout.places, ∀ place ∈ own, ¬place.CoversByte number index) :
    (registers.storeAll (layout.allRegisterWrites arguments)).contents (number, index) =
      registers.contents (number, index) := by
  rw [RegisterCache.contents_storeAll registers fun write listed =>
    (allRegisterWrites_inside separates write listed).2]
  refine ByteMap.foldl_overlaid_of_none (List.forall_mem_map.2 fun write listed => ?_)
  rw [RegisterWrite.layer_eq_none_iff]
  rcases List.mem_append.1 listed with listed | listed
  · obtain ⟨argument, eightbyteClass, eightbyte, number', offset, assigned, rfl⟩ :=
      mem_registerWrites.1 listed
    have outside := free_of_places free assigned
    rw [Value.length_eightbyte]
    rintro ⟨rfl, inside⟩
    exact outside ⟨rfl, inside⟩
  · rw [List.mem_singleton.1 listed]
    exact fun covered => other covered.1

omit separates in
theorem status_stored_of_free {number : Nat} (other : number ≠ rax)
    (free : ∀ own ∈ layout.places, ∀ place ∈ own, ¬place.UsesRegister number) :
    (registers.storeAll (layout.allRegisterWrites arguments)).statuses[number]? =
      registers.statuses[number]? := by
  refine RegisterCache.status_storeAll_of_ne _ fun write listed => ?_
  rcases List.mem_append.1 listed with listed | listed
  · obtain ⟨argument, eightbyteClass, eightbyte, number', offset, assigned, rfl⟩ :=
      mem_registerWrites.1 listed
    exact free_of_places free assigned
  · rw [List.mem_singleton.1 listed]
    exact other.symm

end Stored

section Written

variable {sp : BitVec 64} {before memory : τ} (separates : layout.Separates arguments structReturn)
  (remembers : target.Remembers contents) (room : 8 * layout.stackEightbytes < 1 <<< 64)
  (written : Attempt.run (target.writeAll (layout.memoryWrites arguments sp)) before =
    (.ok ⟨⟩, memory))
include separates remembers room written

theorem contents_written_place {argument : Value} {offset length : Nat}
    (assigned : (argument, .stack offset length) ∈ layout.assignments arguments) :
    length = argument.contents.length ∧ ∀ byte < length,
      contents memory (sp + BitVec.ofNat 64 (offset + byte)) = argument.contents[byte]? := by
  obtain ⟨below, rfl⟩ := stackPlace_inside separates assigned
  refine ⟨rfl, fun byte inside => ?_⟩
  have listed : ⟨sp + BitVec.ofNat 64 offset, argument.contents⟩ ∈
      layout.memoryWrites arguments sp :=
    mem_memoryWrites.2 ⟨_, _, _, assigned, by omega, by rw [List.take_length]⟩
  rw [BitVec.ofNat_add, ← BitVec.add_assoc]
  exact contents_writeAll separates room remembers written listed inside

theorem contents_written_of_free {address : BitVec 64}
    (free : ∀ own ∈ layout.places, ∀ place ∈ own, ¬place.CoversAddress sp address) :
    contents memory address = contents before address := by
  rw [remembers.contents_writeAll (memoryWrites_fit separates room sp) written]
  refine ByteMap.foldl_overlaid_of_none (List.forall_mem_map.2 fun write listed => ?_)
  obtain ⟨argument, offset, length, assigned, -, rfl⟩ := mem_memoryWrites.1 listed
  obtain ⟨below, rfl⟩ := stackPlace_inside separates assigned
  rw [List.take_length, layer_stack_eq_none_iff (by omega)]
  exact free_of_places free assigned

end Written

theorem delivers_of_storeAll {sp : BitVec 64} {before : Machine registerFile τ} {memory : τ}
    (separates : layout.Separates arguments structReturn)
    (remembers : target.Remembers contents) (room : 8 * layout.stackEightbytes < 1 <<< 64)
    (written : Attempt.run (target.writeAll (layout.memoryWrites arguments sp)) before.memory =
      (.ok ⟨⟩, memory)) :
    Delivers layout arguments contents sp before
      ⟨before.registers.storeAll (layout.allRegisterWrites arguments), memory⟩ where
  inRegister given planned placed := by
    have assigned := ArgumentLayout.mem_assign.2 ⟨_, _, given, planned, placed⟩
    have listed := mem_registerWrites.2 ⟨_, _, _, _, _, assigned, rfl⟩
    have found := readPart_stored separates before.registers (List.mem_append_left _ listed)
    rwa [Value.length_eightbyte] at found
  onStack given planned placed :=
    contents_written_place separates remembers room written
      (ArgumentLayout.mem_assign.2 ⟨_, _, given, planned, placed⟩)
  count := count_stored separates before.registers
  registerKept := contents_stored_of_free separates before.registers
  statusKept := status_stored_of_free before.registers
  memoryKept := contents_written_of_free separates remembers room written

theorem toNat_spBelow {sp : BitVec 64} (below : 8 * layout.stackEightbytes ≤ sp.toNat) :
    (layout.spBelow sp).toNat = 16 * ((sp.toNat - 8 * layout.stackEightbytes) / 16) := by
  have bounded := sp.isLt
  have wraps : (8 * layout.stackEightbytes) % (1 <<< 64) = 8 * layout.stackEightbytes :=
    Nat.mod_eq_of_lt (by omega)
  rw [ArgumentLayout.spBelow, toNat_alignStack, BitVec.toNat_sub_of_le]
  · rw [BitVec.toNat_ofNat]
    omega
  · rw [BitVec.le_def, BitVec.toNat_ofNat]
    omega

/-- Passing arguments puts all of them into the places that were planned for them, and touches
nothing else, whatever stood there before and wherever the stack is. It only fails to do so if the
stack cannot be written. -/
theorem passArguments_delivers (remembers : target.Remembers contents)
    (planned : layOutArguments arguments structReturn = .ok layout)
    (room : 8 * layout.stackEightbytes < 1 <<< 64) {sp : BitVec 64}
    {before : Machine registerFile τ} {memory : τ}
    (written : Attempt.run (target.writeAll (layout.memoryWrites arguments (layout.spBelow sp)))
      before.memory = (.ok ⟨⟩, memory)) :
    ∃ after, Attempt.run (passArguments target arguments sp structReturn) before =
        (.ok (layout.spBelow sp), after) ∧
      Delivers layout arguments contents (layout.spBelow sp) before after ∧
      (layout.spBelow sp).toNat % 16 = 0 ∧
      (8 * layout.stackEightbytes ≤ sp.toNat →
        (layout.spBelow sp).toNat + 8 * layout.stackEightbytes ≤ sp.toNat ∧
        ∀ address : BitVec 64, sp.toNat ≤ address.toNat →
          contents after.memory address = contents before.memory address) := by
  have separates := ArgumentLayout.separates_of_layOutArguments planned
  have delivers := delivers_of_storeAll separates remembers room written
  refine ⟨_, ?_, delivers, ?_, fun below => ⟨?_, fun address above => ?_⟩⟩
  · rw [run_passArguments planned, written]
  · rw [ArgumentLayout.spBelow, toNat_alignStack]
    exact Nat.mul_mod_right 16 _
  · rw [toNat_spBelow below]
    omega
  · -- The places on the stack end at the stack pointer or below it.
    refine delivers.memoryKept fun own listed place placed covered => ?_
    obtain ⟨argument, assigned⟩ := assigned_of_places separates listed placed
    cases place with
    | register => exact covered
    | stack offset length =>
      have inside := (stackPlace_inside separates assigned).1
      have bottom := toNat_spBelow below
      have distance := BitVec.toNat_sub_of_le
        (BitVec.le_def.2 (by omega : (layout.spBelow sp).toNat ≤ address.toNat))
      obtain ⟨-, below⟩ := covered
      omega

end Delivery

section Sample

/-- Two halves of different kinds, a value that fills an SSE register, and one for the stack. -/
def sampleArguments : List Value :=
  [.ofBytes (.struct 16 [.member (.float 8) 0, .member (.int 8) 8]) [1, 2, 3],
    .ofBytes (.decimalFloat 16) [4, 5, 6],
    .ofBytes (.struct 24 [.member (.int 8) 0, .member (.int 8) 8, .member (.int 8) 16]) [7, 8, 9]]

def sampleLayout : ArgumentLayout where
  places :=
    [[.register .sse 0 (xmm 0) 0, .register .integer 1 rsi 0],
      [.register .sse 0 (xmm 1) 0, .register .sseUp 1 (xmm 1) 8], [.stack 0 24]]
  stackEightbytes := 3
  integersUsed := 2
  ssesUsed := 2

def sampleMachine : Machine registerFile (Memory 64 Empty) := ⟨.empty _, {}⟩

theorem passArguments_delivers_sampleArguments :
    layOutArguments sampleArguments true = .ok sampleLayout ∧
      ∃ memory after,
        Attempt.run ((Memory.target 64 Empty).writeAll
          (sampleLayout.memoryWrites sampleArguments (sampleLayout.spBelow 0x8000)))
          sampleMachine.memory = (.ok ⟨⟩, memory) ∧
        Attempt.run (passArguments (Memory.target 64 Empty) sampleArguments 0x8000 true)
          sampleMachine = (.ok 0x7fe0, after) ∧
        Delivers sampleLayout sampleArguments Memory.byte? 0x7fe0 sampleMachine after := by
  have planned : layOutArguments sampleArguments true = .ok sampleLayout := rfl
  have room : 8 * sampleLayout.stackEightbytes < 1 <<< 64 := by decide
  have writes : sampleLayout.memoryWrites sampleArguments (sampleLayout.spBelow 0x8000) =
      [⟨0x7fe0, [7, 8, 9] ++ Bytes.zeros 21⟩] := rfl
  have written : Attempt.run ((Memory.target 64 Empty).writeAll
      (sampleLayout.memoryWrites sampleArguments (sampleLayout.spBelow 0x8000)))
      sampleMachine.memory =
        (.ok ⟨⟩, sampleMachine.memory.poke 0x7fe0 ([7, 8, 9] ++ Bytes.zeros 21)) := by
    rw [writes]
    rfl
  obtain ⟨after, run, delivers, -⟩ :=
    passArguments_delivers Memory.target_remembers planned room written
  exact ⟨planned, _, after, written, run, delivers⟩

end Sample

end Amd64

end Inferior

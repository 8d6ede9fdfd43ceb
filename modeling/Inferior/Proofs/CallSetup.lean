import Inferior.Proofs.ArgumentDelivery

/-! Setting up a call either succeeds as a whole or leaves the registers alone, and a call that is
given up takes the registers back to where they were before it was set up.
-/

set_option autoImplicit false

namespace Inferior

namespace Machine

variable {file : RegisterFile} {ε τ α : Type}

theorem run_onMemory_eq_ok {access : Attempt τ (TargetError ε) α} {before after : Machine file τ}
    {value : α} (run : Attempt.run (onMemory access) before = (.ok value, after)) :
    Attempt.run access before.memory = (.ok value, after.memory) ∧
      after.registers = before.registers := by
  rw [run_onMemory] at run
  rcases done : Attempt.run access before.memory with ⟨_ | _, memory⟩
  · rw [done] at run
    cases run
  · rw [done] at run
    cases run
    exact ⟨rfl, rfl⟩

end Machine

namespace Amd64

variable {ε τ : Type} {target : Target 64 ε τ} {arguments : List Value}
  {sp returnAddress : BitVec 64} {structReturn : Bool} {structAddress : Option (BitVec 64)}

theorem passArguments_eq_ok {sp' : BitVec 64} {before after : Machine registerFile τ}
    (run : Attempt.run (passArguments target arguments sp structReturn) before =
      (.ok sp', after)) :
    ∃ layout, layOutArguments arguments structReturn = .ok layout ∧ sp' = layout.spBelow sp ∧
      after.registers = before.registers.storeAll (layout.allRegisterWrites arguments) := by
  cases planned : layOutArguments arguments structReturn with
  | error error =>
    obtain ⟨layout, middle, laid, -⟩ := Attempt.run_bind_eq_ok.1 run
    rw [planned] at laid
    cases laid
  | ok layout =>
    refine ⟨layout, rfl, ?_⟩
    rw [run_passArguments planned] at run
    split at run
    · cases run
      exact ⟨rfl, rfl⟩
    · cases run

namespace ArgumentLayout

def ownWrites (layout : ArgumentLayout) (structAddress : Option (BitVec 64)) (sp : BitVec 64) :
    List RegisterWrite :=
  [.whole rax layout.ssesUsed] ++
    ((structAddress.map fun address => .whole rdi address.toNat).toList ++
      [.whole rsp sp.toNat, .whole rbp sp.toNat])

def callWrites (layout : ArgumentLayout) (arguments : List Value)
    (structAddress : Option (BitVec 64)) (sp : BitVec 64) : List RegisterWrite :=
  layout.registerWrites arguments ++ layout.ownWrites structAddress sp

end ArgumentLayout

theorem run_writeWhole {number value : Nat} (known : number < registerFile.count)
    (wide : registerFile.width number = 8) (machine : Machine registerFile τ) :
    Attempt.run (Machine.onRegisters (·.writeUnsigned number value) : Setup ε τ Unit) machine =
      (.ok ⟨⟩, { machine with registers := machine.registers.storeAll [.whole number value] }) :=
  Machine.run_onRegisters (machine.registers.writeUnsigned_eq_ok value known wide)

theorem enter_eq_ok {bottom sp' : BitVec 64} {before after : Machine registerFile τ}
    (run : Attempt.run (do
      Machine.onMemory (target.write bottom (LittleEndian.digits 8 returnAddress.toNat))
      Machine.onRegisters (·.writeUnsigned rsp bottom.toNat)
      Machine.onRegisters (·.writeUnsigned rbp bottom.toNat)
      return bottom : Setup ε τ (BitVec 64)) before = (.ok sp', after)) :
    sp' = bottom ∧
      Attempt.run (target.write bottom (LittleEndian.digits 8 returnAddress.toNat)) before.memory =
        (.ok ⟨⟩, after.memory) ∧
      after.registers =
        before.registers.storeAll [.whole rsp bottom.toNat, .whole rbp bottom.toNat] := by
  obtain ⟨_, middle, written, run⟩ := Attempt.run_bind_eq_ok.1 run
  obtain ⟨stored, kept⟩ := Machine.run_onMemory_eq_ok written
  rw [Attempt.run_bind, run_writeWhole (by decide) (by decide)] at run
  dsimp only at run
  rw [Attempt.run_bind, run_writeWhole (by decide) (by decide)] at run
  cases run
  refine ⟨rfl, stored, ?_⟩
  rw [← kept]
  rfl

theorem placeCall_eq_ok {sp' : BitVec 64} {before after : Machine registerFile τ}
    (run : Attempt.run (placeCall target arguments sp returnAddress structAddress) before =
      (.ok sp', after)) :
    ∃ layout memory, layOutArguments arguments structAddress.isSome = .ok layout ∧
      sp' = layout.spBelow sp - 8 ∧
      Attempt.run (target.write sp' (LittleEndian.digits 8 returnAddress.toNat)) memory =
        (.ok ⟨⟩, after.memory) ∧
      after.registers =
        before.registers.storeAll (layout.callWrites arguments structAddress sp') := by
  obtain ⟨bottom, passed, arguments, run⟩ := Attempt.run_bind_eq_ok.1 run
  obtain ⟨layout, planned, rfl, registers⟩ := passArguments_eq_ok arguments
  cases structAddress with
  | none =>
    obtain ⟨rfl, stored, last⟩ := enter_eq_ok run
    refine ⟨layout, _, planned, rfl, stored, ?_⟩
    rw [last, registers, ← RegisterCache.storeAll_append, ArgumentLayout.allRegisterWrites,
      List.append_assoc]
    rfl
  | some address =>
    rw [Attempt.run_bind, run_writeWhole (by decide) (by decide)] at run
    obtain ⟨rfl, stored, last⟩ := enter_eq_ok run
    refine ⟨layout, _, planned, rfl, stored, ?_⟩
    rw [last, registers, ← RegisterCache.storeAll_append, ← RegisterCache.storeAll_append,
      ArgumentLayout.allRegisterWrites, List.append_assoc]
    rfl

theorem run_prepareCall (before : Machine registerFile τ) :
    Attempt.run (prepareCall target arguments sp returnAddress structAddress) before =
      match Attempt.run (placeCall target arguments sp returnAddress structAddress) before with
      | (.ok sp, after) => (.ok ⟨sp, ⟨sp + 16, returnAddress⟩, before.registers⟩, after)
      | (.error error, after) => (.error error, { after with registers := before.registers }) := by
  unfold prepareCall
  rw [Attempt.run_bind, Attempt.run_get]
  dsimp only
  rw [Attempt.run_bind, Attempt.result, Attempt.run_ofRun]
  rcases Attempt.run (placeCall target arguments sp returnAddress structAddress) before with
    ⟨_ | _, _⟩ <;> rfl

theorem prepareCall_eq_ok {call : PreparedCall} {before after : Machine registerFile τ}
    (run : Attempt.run (prepareCall target arguments sp returnAddress structAddress) before =
      (.ok call, after)) :
    call.frameId = ⟨call.sp + 16, returnAddress⟩ ∧ call.saved = before.registers ∧
      Attempt.run (placeCall target arguments sp returnAddress structAddress) before =
        (.ok call.sp, after) := by
  rw [run_prepareCall] at run
  rcases placed : Attempt.run (placeCall target arguments sp returnAddress structAddress) before
    with ⟨_ | _, _⟩
  · rw [placed] at run
    cases run
  · rw [placed] at run
    cases run
    exact ⟨rfl, rfl, rfl⟩

theorem ownWrites_whole {layout : ArgumentLayout} {write : RegisterWrite}
    (listed : write ∈ layout.ownWrites structAddress sp) :
    ∃ number value, write = .whole number value ∧
      (number ∈ [rax, rsp, rbp] ∨ structAddress.isSome ∧ number = rdi) := by
  rcases List.mem_append.1 listed with listed | listed
  · exact ⟨rax, _, List.mem_singleton.1 listed, .inl (by decide)⟩
  rcases List.mem_append.1 listed with listed | listed
  · obtain ⟨address, given, rfl⟩ := Option.map_eq_some_iff.1 (Option.mem_toList.1 listed)
    exact ⟨rdi, _, rfl, .inr ⟨Option.isSome_of_eq_some given, rfl⟩⟩
  · rcases List.mem_cons.1 listed with rfl | listed
    · exact ⟨rsp, _, rfl, .inl (by decide)⟩
    · exact ⟨rbp, _, List.mem_singleton.1 listed, .inl (by decide)⟩

theorem ownWrites_wide {layout : ArgumentLayout} {write : RegisterWrite}
    (listed : write ∈ layout.ownWrites structAddress sp) :
    write.number < registerFile.count ∧ registerFile.width write.number = 8 := by
  have wide : ∀ number ∈ [rax, rsp, rbp],
      number < registerFile.count ∧ registerFile.width number = 8 := by decide
  obtain ⟨number, value, rfl, spared | ⟨given, rfl⟩⟩ := ownWrites_whole listed
  · exact wide number spared
  · exact (by decide : rdi < registerFile.count ∧ registerFile.width rdi = 8)

theorem ownLayers_apart (layout : ArgumentLayout) :
    ((layout.ownWrites structAddress sp).map RegisterWrite.layer).Pairwise ByteMap.Apart := by
  have distinct : ((layout.ownWrites structAddress sp).map RegisterWrite.number).Nodup := by
    cases structAddress with
    | none => exact (by decide : [rax, rsp, rbp].Nodup)
    | some address => exact (by decide : [rax, rdi, rsp, rbp].Nodup)
  exact List.pairwise_map.2 ((List.pairwise_map.1 distinct).imp fun different =>
    RegisterWrite.apart_layer (.inl different))

section Writes

variable {layout : ArgumentLayout}
  (separates : layout.Separates arguments structAddress.isSome)
include separates

theorem spares_rdi (given : structAddress.isSome) {pair : Value × ArgumentPlace}
    (assigned : pair ∈ layout.assignments arguments) : ¬pair.2.UsesRegister rdi := by
  have taken := separates.taken pair assigned
  obtain ⟨argument, place⟩ := pair
  cases place with
  | stack => exact id
  | register eightbyteClass eightbyte number offset =>
    rw [given] at taken
    exact taken.ne_rdi Nat.one_pos

theorem callLayers_apart : ((layout.callWrites arguments structAddress sp).map
    RegisterWrite.layer).Pairwise ByteMap.Apart := by
  refine registerLayers_apart separates (ownLayers_apart layout) fun write listed pair assigned => ?_
  obtain ⟨number, value, rfl, spared | ⟨given, rfl⟩⟩ := ownWrites_whole listed
  · exact spares separates assigned number spared
  · exact spares_rdi separates given assigned

theorem callWrites_inside : ∀ write ∈ layout.callWrites arguments structAddress sp,
    write.number < registerFile.count ∧
      write.offset + write.bytes.length ≤ registerFile.width write.number := by
  refine List.forall_mem_append.2 ⟨registerWrites_inside separates, fun write listed => ?_⟩
  obtain ⟨known, wide⟩ := ownWrites_wide listed
  obtain ⟨number, value, rfl, -⟩ := ownWrites_whole listed
  exact ⟨known, Nat.le_of_eq wide.symm⟩

theorem read_callWrites {number value : Nat}
    (listed : .whole number value ∈ layout.ownWrites structAddress sp)
    (registers : RegisterCache registerFile) :
    (registers.storeAll (layout.callWrites arguments structAddress sp)).read number =
      .ok (LittleEndian.digits 8 value) := by
  have own : number < registerFile.count ∧ registerFile.width number = 8 := ownWrites_wide listed
  have found := registers.readPart_storeAll (callWrites_inside separates)
    (callLayers_apart separates) (List.mem_append_right _ listed)
  rw [RegisterCache.read_eq_readPart own.1, own.2]
  exact found

theorem readUnsigned_callWrites {number : Nat} {value : BitVec 64}
    (listed : .whole number value.toNat ∈ layout.ownWrites structAddress sp)
    (registers : RegisterCache registerFile) :
    (registers.storeAll (layout.callWrites arguments structAddress sp)).readUnsigned number =
      .ok value.toNat := by
  obtain ⟨known, wide⟩ := ownWrites_wide listed
  exact RegisterCache.readUnsigned_eq_ok known wide value.isLt
    (read_callWrites separates listed registers)

end Writes

structure Ready (layout : ArgumentLayout) (contents : τ → ByteMap (BitVec 64))
    (returnAddress : BitVec 64) (structAddress : Option (BitVec 64)) (call : PreparedCall)
    (after : Machine registerFile τ) : Prop where
  aligned : (call.sp + 8).toNat % 16 = 0
  stackPointer : after.registers.readUnsigned rsp = .ok call.sp.toNat
  framePointer : after.registers.readUnsigned rbp = .ok call.sp.toNat
  returns {index : Nat} (inside : index < 8) :
    contents after.memory (call.sp + BitVec.ofNat 64 index) =
      (LittleEndian.digits 8 returnAddress.toNat)[index]?
  /-- The arguments on the stack lie above the return address. -/
  apart (room : 8 * layout.stackEightbytes < (1 <<< 64) - 32) {own : List ArgumentPlace}
    {place : ArgumentPlace} (planned : own ∈ layout.places) (placed : place ∈ own) {index : Nat}
    (inside : index < 8) :
    ¬place.CoversAddress (call.sp + 8) (call.sp + BitVec.ofNat 64 index)
  structureAddress {address : BitVec 64} (given : structAddress = some address) :
    after.registers.readUnsigned rdi = .ok address.toNat ∧
      ∀ own ∈ layout.places, ∀ place ∈ own, ¬place.UsesRegister rdi
  frameId : idAfterReturn after.registers returnAddress = .ok call.frameId

/-- Counted from the arguments on, the return address lies at the far end of the addresses. -/
theorem ArgumentLayout.Separates.apart_returnAddress {layout : ArgumentLayout} {structReturn : Bool}
    (separates : layout.Separates arguments structReturn)
    (room : 8 * layout.stackEightbytes < (1 <<< 64) - 32) {argument : Value}
    {place : ArgumentPlace} (assigned : (argument, place) ∈ layout.assignments arguments)
    {bottom : BitVec 64} {index : Nat} (inside : index < 8) :
    ¬place.CoversAddress (bottom + 8) (bottom + BitVec.ofNat 64 index) := by
  cases place with
  | register => exact id
  | stack offset length =>
    rintro ⟨-, below⟩
    have upper := (stackPlace_inside separates assigned).1
    have distance : bottom + BitVec.ofNat 64 index - (bottom + 8) = BitVec.ofNat 64 index - 8 := by
      rw [← BitVec.sub_sub, BitVec.add_comm, BitVec.add_sub_cancel]
    have eight : (8 : BitVec 64).toNat = 8 := rfl
    rw [distance, BitVec.toNat_sub, BitVec.toNat_ofNat, eight] at below
    omega

theorem ready_of_prepareCall {contents : τ → ByteMap (BitVec 64)}
    (remembers : target.Remembers contents) {call : PreparedCall}
    {before after : Machine registerFile τ}
    (run : Attempt.run (prepareCall target arguments sp returnAddress structAddress) before =
      (.ok call, after)) :
    ∃ layout, layOutArguments arguments structAddress.isSome = .ok layout ∧
      Ready layout contents returnAddress structAddress call after := by
  obtain ⟨frameId, -, placed⟩ := prepareCall_eq_ok run
  obtain ⟨layout, memory, planned, bottom, stored, registers⟩ := placeCall_eq_ok placed
  have separates := ArgumentLayout.separates_of_layOutArguments planned
  -- The return address is pushed right below the arguments.
  have above : call.sp + 8 = layout.spBelow sp := by
    rw [bottom, BitVec.sub_add_cancel]
  have framePointer : after.registers.readUnsigned rbp = .ok call.sp.toNat := by
    rw [registers]
    exact readUnsigned_callWrites separates (by simp [ArgumentLayout.ownWrites]) _
  refine ⟨layout, planned, ?_⟩
  constructor
  case aligned =>
    rw [above, ArgumentLayout.spBelow, toNat_alignStack]
    exact Nat.mul_mod_right 16 _
  case stackPointer =>
    rw [registers]
    exact readUnsigned_callWrites separates (by simp [ArgumentLayout.ownWrites]) _
  case framePointer => exact framePointer
  case returns =>
    intro index inside
    have eight := LittleEndian.length_digits 8 returnAddress.toNat
    exact remembers.contents_written (by rw [eight]; decide) stored (by rwa [eight])
  case apart =>
    intro room own place planned placed index inside
    obtain ⟨argument, assigned⟩ := assigned_of_places separates planned placed
    exact separates.apart_returnAddress room assigned inside
  case structureAddress =>
    rintro address rfl
    constructor
    · rw [registers]
      exact readUnsigned_callWrites separates (by simp [ArgumentLayout.ownWrites]) _
    · intro own planned place placed
      obtain ⟨argument, assigned⟩ := assigned_of_places separates planned placed
      exact spares_rdi separates rfl assigned
  case frameId =>
    rw [idAfterReturn, framePointer, frameId, ok_bind, BitVec.ofNat_toNat, BitVec.setWidth_eq]
    rfl

/-- A thread while calls are made by hand. The latest call comes first. -/
structure Session (τ : Type) where
  machine : Machine registerFile τ
  pending : List PreparedCall

inductive SessionEvent (τ : Type) where
  | prepare (arguments : List Value) (sp returnAddress : BitVec 64)
      (structAddress : Option (BitVec 64))
  /-- Anything else that happens to the registers, or to memory. -/
  | change (operation : Machine registerFile τ → Machine registerFile τ)
  /-- The latest call has returned. -/
  | finish
  | abandon

namespace Session

/-- A call that cannot be set up is not pending. -/
def after (target : Target 64 ε τ) (session : Session τ) : SessionEvent τ → Session τ
  | .prepare arguments sp returnAddress structAddress =>
    match Attempt.run (prepareCall target arguments sp returnAddress structAddress)
      session.machine with
    | (.ok call, machine) => ⟨machine, call :: session.pending⟩
    | (.error _, machine) => ⟨machine, session.pending⟩
  | .change operation => { session with machine := operation session.machine }
  | .finish => { session with pending := session.pending.tail }
  | .abandon =>
    match session.pending with
    | [] => session
    | call :: pending => ⟨call.abandon session.machine, pending⟩

def afterAll (target : Target 64 ε τ) (session : Session τ) (events : List (SessionEvent τ)) :
    Session τ :=
  events.foldl (after target) session

/-- The calls that are set up during some events are over when the events are, and no earlier call
is given up on the way. -/
structure WellNested (target : Target 64 ε τ) (session : Session τ)
    (events : List (SessionEvent τ)) : Prop where
  above {started : List (SessionEvent τ)} (initial : started <+: events) :
    session.pending.length ≤ (session.afterAll target started).pending.length
  closed : (session.afterAll target events).pending.length = session.pending.length

/-- One event keeps the calls below a point if it leaves as many pending. -/
theorem suffix_after {session : Session τ} {event : SessionEvent τ} {below : List PreparedCall}
    (kept : below <:+ session.pending)
    (above : below.length ≤ (session.after target event).pending.length) :
    below <:+ (session.after target event).pending := by
  obtain ⟨machine, pending⟩ := session
  cases event with
  | prepare arguments sp returnAddress structAddress =>
    simp only [after]
    split
    · exact kept.trans (List.suffix_cons _ pending)
    · exact kept
  | change operation => exact kept
  | finish =>
    exact List.suffix_of_suffix_length_le kept (List.tail_suffix pending) above
  | abandon =>
    cases pending with
    | nil => exact kept
    | cons call pending =>
      exact List.suffix_of_suffix_length_le kept (List.suffix_cons call pending) above

theorem suffix_afterAll {session : Session τ} {events : List (SessionEvent τ)}
    {below : List PreparedCall} (kept : below <:+ session.pending)
    (above : ∀ started, started <+: events →
      below.length ≤ (session.afterAll target started).pending.length) :
    below <:+ (session.afterAll target events).pending := by
  induction events generalizing session with
  | nil => exact kept
  | cons event rest ih =>
    have first := above [event] ⟨rest, rfl⟩
    refine ih (suffix_after kept first) fun started initial => ?_
    exact above (event :: started) ((List.prefix_cons_inj event).2 initial)

theorem WellNested.pending {session : Session τ} {events : List (SessionEvent τ)}
    (nested : session.WellNested target events) :
    (session.afterAll target events).pending = session.pending := by
  have kept := suffix_afterAll (List.suffix_refl session.pending) fun started initial =>
    nested.above initial
  exact (kept.eq_of_length nested.closed.symm).symm

theorem after_abandon {session : Session τ} {call : PreparedCall} {pending : List PreparedCall}
    (latest : session.pending = call :: pending) :
    session.after target .abandon = ⟨call.abandon session.machine, pending⟩ := by
  obtain ⟨machine, _⟩ := session
  cases latest
  rfl

end Session

/-- Setting up a call is all or nothing as far as the registers go. A call that has been set up can
be entered, and its frame is known by its id. However it goes on, with more calls set up and given
up in between, giving the call up undoes everything that has happened to the registers since. -/
theorem prepareCall_transactional {contents : τ → ByteMap (BitVec 64)}
    (remembers : target.Remembers contents) (arguments : List Value) (sp returnAddress : BitVec 64)
    (structAddress : Option (BitVec 64)) (before : Machine registerFile τ) :
    match Attempt.run (prepareCall target arguments sp returnAddress structAddress) before with
    | (.error _, after) => after.registers = before.registers
    | (.ok call, after) =>
      (∃ layout, layOutArguments arguments structAddress.isSome = .ok layout ∧
        Ready layout contents returnAddress structAddress call after) ∧
      ∀ (pending : List PreparedCall) (events : List (SessionEvent τ)),
        Session.WellNested target ⟨after, call :: pending⟩ events →
        ∃ last, Session.afterAll target ⟨before, pending⟩
            (.prepare arguments sp returnAddress structAddress :: (events ++ [.abandon])) =
              ⟨⟨before.registers, last⟩, pending⟩ := by
  rcases run : Attempt.run (prepareCall target arguments sp returnAddress structAddress) before
    with ⟨error | call, after⟩
  · rw [run_prepareCall] at run
    rcases placed : Attempt.run (placeCall target arguments sp returnAddress structAddress) before
      with ⟨_ | _, _⟩
    · rw [placed] at run
      cases run
      rfl
    · rw [placed] at run
      cases run
  · refine ⟨ready_of_prepareCall remembers run, fun pending events nested => ?_⟩
    have prepared : Session.after target ⟨before, pending⟩
        (.prepare arguments sp returnAddress structAddress) = ⟨after, call :: pending⟩ := by
      rw [Session.after, run]
    obtain ⟨-, saved, -⟩ := prepareCall_eq_ok run
    -- What happens in between leaves this call the latest one, so it is the one that is given up.
    have whole : Session.afterAll target ⟨before, pending⟩
        (.prepare arguments sp returnAddress structAddress :: (events ++ [.abandon])) =
          (Session.afterAll target ⟨after, call :: pending⟩ events).after target .abandon := by
      rw [← prepared]
      exact List.foldl_append
    rw [whole, Session.after_abandon nested.pending, PreparedCall.abandon, saved]
    exact ⟨_, rfl⟩

section Sample

/-- Another call is made and given up while the first one waits. -/
def sampleEvents : List (SessionEvent (Memory 64 Empty)) :=
  [.change fun machine => ⟨machine.registers.store rcx 0 [1] .valid, {}⟩,
    .prepare [] 0x6000 0x400010 none, .abandon]

theorem prepareCall_transactional_sampleEvents :
    ∃ call after, Attempt.run (prepareCall (Memory.target 64 Empty) sampleArguments 0x8000 0x400000
        (some 0x5000)) sampleMachine = (.ok call, after) ∧ call.sp = 0x7fd8 ∧
      (∃ layout, layOutArguments sampleArguments true = .ok layout ∧
        Ready layout Memory.byte? 0x400000 (some 0x5000) call after) ∧
      Session.WellNested (Memory.target 64 Empty) ⟨after, [call]⟩ sampleEvents ∧
      ∃ last, Session.afterAll (Memory.target 64 Empty) ⟨sampleMachine, []⟩
          (.prepare sampleArguments 0x8000 0x400000 (some 0x5000) ::
            (sampleEvents ++ [.abandon])) =
              ⟨⟨sampleMachine.registers, last⟩, []⟩ := by
  have outcome := prepareCall_transactional (Memory.target_remembers (ε := Empty)) sampleArguments
    0x8000 0x400000 (some 0x5000) sampleMachine
  rcases run : Attempt.run (prepareCall (Memory.target 64 Empty) sampleArguments 0x8000 0x400000
    (some 0x5000)) sampleMachine with ⟨error | call, after⟩
  · cases run
  · have bottom : call.sp = 0x7fd8 := by
      cases run
      rfl
    have nested : Session.WellNested (Memory.target 64 Empty) ⟨after, [call]⟩ sampleEvents := by
      refine ⟨fun {started} initial => ?_, rfl⟩
      rw [List.prefix_iff_eq_take.1 initial]
      match started.length with
      | 0 | 1 | 2 => exact Nat.le_of_ble_eq_true rfl
      | more + 3 =>
        rw [List.take_of_length_le (Nat.le_add_left 3 more)]
        exact Nat.le_of_ble_eq_true rfl
    rw [run] at outcome
    obtain ⟨ready, undone⟩ := outcome
    exact ⟨call, after, rfl, bottom, ready, nested, undone [] sampleEvents nested⟩

end Sample

end Amd64

end Inferior

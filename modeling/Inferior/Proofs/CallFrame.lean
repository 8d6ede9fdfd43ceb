import Inferior.Proofs.CallSetup
import Inferior.Proofs.FunctionFrame
import Inferior.Proofs.History

/-! The frame that a prepared call returns to. A call stack that is started on entry to the function
finds it one level out, with the id that the call was given.
-/

set_option autoImplicit false

namespace Inferior

namespace Amd64

variable {ε τ : Type}

def Platform.entryView (platform : Platform) (registers : RegisterCache registerFile)
    (snapshot : Snapshot 64 ε) (entry : BitVec 64) : View 64 ε :=
  (platform.scene registers snapshot).innermostView entry

def Platform.returnView (platform : Platform) (registers : RegisterCache registerFile)
    (snapshot : Snapshot 64 ε) (entry returnAddress : BitVec 64) : View 64 ε :=
  (platform.scene registers snapshot).callerView (platform.entryView registers snapshot entry)
    returnAddress

/-- A thread on entry to a function, with its return address on top of the stack and a frame pointer
that points there. -/
structure FreshCall (platform : Platform) (registers : RegisterCache registerFile)
    (snapshot : Snapshot 64 ε) (entry sp returnAddress : BitVec 64) : Prop where
  pcRegister : registers.read rip = .ok (Address.toBytes entry)
  stackPointer : registers.read rsp = .ok (Address.toBytes sp)
  framePointer : registers.read rbp = .ok (Address.toBytes sp)
  returns : ∃ sized, snapshot.read sp 8 = .ok ⟨Address.toBytes returnAddress, sized⟩
  declined (view : View 64 ε) :
    snapshot.answer view (platform.config.signals.claims entry) = .ok false
  declinedCaller (view : View 64 ε) :
    snapshot.answer view (platform.config.signals.claims returnAddress) = .ok false
  entered : snapshot.functionEntry entry = none ∨ snapshot.functionEntry entry = some entry
  /-- The caller's code can be told apart, as far as it is known. -/
  caller {function : BitVec 64}
    (found : snapshot.functionEntry (returnAddress - 1) = some function) :
    (∃ block, snapshot.read function 1 = .ok block ∧ block.val ≠ Prologue.pushCode) ∨
      snapshot.Holds function Prologue.wholeCode ∧ function.toNat + 2 ≤ returnAddress.toNat

namespace FreshCall

variable {platform : Platform} {registers : RegisterCache registerFile} {snapshot : Snapshot 64 ε}
  {entry sp returnAddress : BitVec 64}
  (call : FreshCall platform registers snapshot entry sp returnAddress)
include call

theorem innermost_cache : ∃ function, (platform.scene registers snapshot).cache
      (platform.entryView registers snapshot entry) =
    .ok (functionUnwinder ε, .ofPrologue {} (sp - 8) function) := by
  have found : (platform.scene registers snapshot).snapshot.answer
      (platform.entryView registers snapshot entry) (.askFunctionEntry entry) =
      .ok (snapshot.functionEntry entry) := rfl
  have pointer : (platform.entryView registers snapshot entry).register rsp =
      .ok (Address.toBytes sp) := by
    change (registers.read rsp).mapError Error.register = _
    rw [call.stackPointer]
    rfl
  refine ⟨_, cache_of_prologue (unwinder_of_declined (call.declined _)) found ?_
    (answer_baseAfter_frameless pointer)⟩
  rcases call.entered with unknown | known
  · rw [unknown]
    exact answer_prologueAt_zero _ _
  · rw [known]
    exact answer_prologueAt_entry _ _ (BitVec.le_refl entry)

theorem callerRegister_rip : (platform.scene registers snapshot).callerRegister
      (platform.entryView registers snapshot entry) rip =
    .ok (Address.toBytes returnAddress) := by
  obtain ⟨function, computed⟩ := call.innermost_cache
  obtain ⟨sized, read⟩ := call.returns
  refine callerRegister_of_memory computed FrameCache.previousRegister_rip rfl ?_
  rw [BitVec.sub_add_cancel]
  exact read

theorem callerRegister_rbp : (platform.scene registers snapshot).callerRegister
      (platform.entryView registers snapshot entry) rbp =
    .ok (Address.toBytes sp) := by
  obtain ⟨function, computed⟩ := call.innermost_cache
  rw [callerRegister_of_register computed (FrameCache.previousRegister_of_unsaved (by decide)
    (by decide) (SavedRegisters.get?_empty rbp))]
  change (registers.read rbp).mapError Error.register = _
  rw [call.framePointer]
  rfl

theorem callerRegister_rsp (room : sp + 8 ≠ 0) : (platform.scene registers snapshot).callerRegister
      (platform.entryView registers snapshot entry) rsp =
    .ok (Address.toBytes (sp + 8)) := by
  obtain ⟨function, computed⟩ := call.innermost_cache
  have top : sp - 8 + 16 = sp + 8 := by
    rw [BitVec.sub_eq_add_neg, BitVec.add_assoc]
    rfl
  rw [← top] at room ⊢
  exact callerRegister_of_constant computed (FrameCache.previousRegister_rsp room) rfl

theorem view_zero : (platform.scene registers snapshot).view 0 =
    .ok (platform.entryView registers snapshot entry) := Amd64.view_zero call.pcRegister

theorem view_one : (platform.scene registers snapshot).view 1 =
    .ok (platform.returnView registers snapshot entry returnAddress) := by
  refine Scene.view_succ_eq_ok.2 ⟨_, _, call.view_zero, ?_, rfl⟩
  change (platform.scene registers snapshot).callerRegister _ rip >>= _ = _
  rw [call.callerRegister_rip, ok_bind, Walker.addressOf_toBytes]

/-- The function itself has an id unless its frame would start at zero. -/
theorem caller_zero (inner : sp ≠ 8) :
    (platform.scene registers snapshot).caller 0 = .ok (.level 1) := by
  obtain ⟨function, computed⟩ := call.innermost_cache
  have based : sp - 8 ≠ 0 := fun zero => inner (BitVec.sub_eq_iff_eq_add.1 zero)
  have identified : (platform.scene registers snapshot).frameId
      (platform.entryView registers snapshot entry) =
        .ok (some ⟨sp - 8 + 16, function⟩) := by
    rw [Scene.frameId, computed]
    exact congrArg Except.ok (if_neg based)
  rw [Scene.caller_of_no_stop, call.view_one]
  · rfl
  · rw [Scene.stopAt?_zero call.view_zero, identified]
    rfl

/-- Whichever prologue the caller's code shows, it sets up a frame pointer or has not begun to. -/
theorem caller_prologue : ∃ prologue ∈ [{}, Prologue.whole],
    snapshot.answer (platform.returnView registers snapshot entry returnAddress)
      (FrameCache.prologueAt ((snapshot.functionEntry (returnAddress - 1)).getD 0)
        returnAddress) = .ok prologue := by
  cases found : snapshot.functionEntry (returnAddress - 1) with
  | none => exact ⟨{}, by simp, answer_prologueAt_zero _ _⟩
  | some function =>
    rw [Option.getD_some]
    rcases call.caller found with ⟨block, first, other⟩ | ⟨prologue, past⟩
    · exact ⟨{}, by simp, answer_prologueAt_other _ _ first other⟩
    · by_cases known : function = 0
      · subst known
        exact ⟨{}, by simp, answer_prologueAt_zero _ _⟩
      · exact ⟨.whole, by simp, answer_prologueAt_whole _ _ known prologue past⟩

/-- Either way, the base of the caller's frame is where the return address was. -/
theorem caller_cache (room : sp + 8 ≠ 0) :
    ∃ prologue function, (platform.scene registers snapshot).cache
        (platform.returnView registers snapshot entry returnAddress) =
      .ok (functionUnwinder ε, .ofPrologue prologue sp function) := by
  have claimed : (platform.scene registers snapshot).unwinder
      (platform.entryView registers snapshot entry) = .ok (functionUnwinder ε) :=
    unwinder_of_declined (call.declined _)
  have innerKind : (platform.returnView registers snapshot entry returnAddress).innerKind =
        .ok (some .normal) := by
    change (platform.scene registers snapshot).unwinder _ >>= _ = _
    rw [claimed]
    rfl
  have found : snapshot.answer (platform.returnView registers snapshot entry returnAddress)
      (.askFunctionEntry returnAddress) = .ok (snapshot.functionEntry (returnAddress - 1)) :=
    Snapshot.answer_askFunctionEntry innerKind returnAddress
  obtain ⟨prologue, listed, analysed⟩ := call.caller_prologue
  refine ⟨prologue, _, cache_of_prologue (unwinder_of_declined (call.declinedCaller _)) found
    analysed ?_⟩
  rcases List.mem_cons.1 listed with rfl | listed
  · refine (answer_baseAfter_frameless (call.callerRegister_rsp room)).trans ?_
    rw [BitVec.add_sub_cancel]
  · rw [List.mem_singleton.1 listed]
    exact answer_baseAfter_whole call.callerRegister_rbp

theorem caller_frameId (room : sp + 8 ≠ 0) (based : sp ≠ 0) :
    ∃ frameId, (platform.scene registers snapshot).frameId
        (platform.returnView registers snapshot entry returnAddress) =
      .ok (some frameId) ∧ frameId.stack = sp + 16 := by
  obtain ⟨prologue, function, computed⟩ := call.caller_cache room
  refine ⟨⟨sp + 16, function⟩, ?_, rfl⟩
  rw [Scene.frameId, computed]
  exact congrArg Except.ok (if_neg based)

end FreshCall

section Entered

variable {platform : Platform} {target : Target 64 ε τ} {contents : τ → ByteMap (BitVec 64)}
  {arguments : List Value} {sp returnAddress : BitVec 64} {structAddress : Option (BitVec 64)}
  {before after : Machine registerFile τ} {call : PreparedCall}
  (prepared : Attempt.run (prepareCall target arguments sp returnAddress structAddress) before =
    (.ok call, after))
include prepared

theorem pointers_of_prepareCall :
    after.registers.read rsp = .ok (Address.toBytes call.sp) ∧
      after.registers.read rbp = .ok (Address.toBytes call.sp) ∧ call.sp ≠ 0 := by
  obtain ⟨-, -, placed⟩ := prepareCall_eq_ok prepared
  obtain ⟨layout, memory, planned, bottom, -, registers⟩ := placeCall_eq_ok placed
  have separates := ArgumentLayout.separates_of_layOutArguments planned
  have aligned := toNat_alignStack (sp - BitVec.ofNat 64 (8 * layout.stackEightbytes))
  rw [registers]
  refine ⟨read_callWrites separates (by simp [ArgumentLayout.ownWrites]) _,
    read_callWrites separates (by simp [ArgumentLayout.ownWrites]) _, fun zero => ?_⟩
  -- The return address starts eight bytes below a multiple of sixteen.
  have eight : layout.spBelow sp = 8 := BitVec.sub_eq_iff_eq_add.1 (bottom.symm.trans zero)
  rw [ArgumentLayout.spBelow] at eight
  rw [eight] at aligned
  have : (8 : BitVec 64).toNat = 8 := rfl
  omega

/-- The return address is what is read where it was put, as long as nothing else is put there. -/
theorem read_returnAddress (remembers : target.Remembers contents) {snapshot : Snapshot 64 ε}
    {held : τ → Prop} (shows : target.Shows snapshot held) {memory : τ} (start : held memory)
    (readable : ∃ block, snapshot.read call.sp 8 = .ok block)
    (unchanged : ∀ index < 8, contents memory (call.sp + BitVec.ofNat 64 index) =
      contents after.memory (call.sp + BitVec.ofNat 64 index)) :
    ∃ sized, snapshot.read call.sp 8 = .ok ⟨Address.toBytes returnAddress, sized⟩ := by
  obtain ⟨layout, -, ready⟩ := ready_of_prepareCall remembers prepared
  obtain ⟨block, read⟩ := readable
  obtain ⟨next, -, run⟩ := shows.read start call.sp 8
  rw [read] at run
  have same : block.val = Address.toBytes returnAddress := by
    apply List.ext_getElem?
    intro index
    by_cases inside : index < 8
    · rw [← remembers.read run inside, unchanged index inside, ready.returns inside]
      rfl
    · rw [List.getElem?_eq_none (by rw [block.property]; omega),
        List.getElem?_eq_none (by rw [Address.length_toBytes]; omega)]
  exact ⟨Address.length_toBytes _, read.trans (congrArg Except.ok (Subtype.ext same))⟩

theorem freshCall_of_prepareCall {entry : BitVec 64} {registers : RegisterCache registerFile}
    (entered : after.registers.writeUnsigned rip entry.toNat = .ok registers)
    {snapshot : Snapshot 64 ε}
    (returns : ∃ sized, snapshot.read call.sp 8 = .ok ⟨Address.toBytes returnAddress, sized⟩)
    (known : snapshot.functionEntry entry = none ∨ snapshot.functionEntry entry = some entry)
    (declined : ∀ pc ∈ [entry, returnAddress], ∀ view,
      snapshot.answer view (platform.config.signals.claims pc) = .ok false)
    (caller : ∀ function, snapshot.functionEntry (returnAddress - 1) = some function →
      (∃ block, snapshot.read function 1 = .ok block ∧ block.val ≠ Prologue.pushCode) ∨
        snapshot.Holds function Prologue.wholeCode ∧ function.toNat + 2 ≤ returnAddress.toNat) :
    FreshCall platform registers snapshot entry call.sp returnAddress := by
  obtain ⟨stackPointer, framePointer, -⟩ := pointers_of_prepareCall prepared
  have stored := after.registers.writeUnsigned_eq_ok entry.toNat
    (by decide : rip < registerFile.count) (by decide)
  cases stored.symm.trans entered
  have fits : 0 + (LittleEndian.digits 8 entry.toNat).length ≤ registerFile.width rip := by
    rw [LittleEndian.length_digits]
    decide
  constructor
  case pcRegister => exact after.registers.read_store_whole _ (by decide) (by decide)
  case stackPointer =>
    rw [after.registers.read_store_of_ne .valid fits (by decide), stackPointer]
  case framePointer =>
    rw [after.registers.read_store_of_ne .valid fits (by decide), framePointer]
  case returns => exact returns
  case declined => exact declined entry (by simp)
  case declinedCaller => exact declined returnAddress (by simp)
  case entered => exact known
  case caller => exact fun {function} found => caller function found

end Entered

/-- What a call stack tells about the frame that a prepared call returns to. -/
structure FindsReturn (walker : Walker 64 ε FrameCache τ) (stack : CallStack 64 ε FrameCache τ)
    (call : PreparedCall) (returnAddress : BitVec 64) : Prop where
  pc : (Attempt.run (Walker.pcAt 1) stack).1 = .ok returnAddress
  stackPointer : (Attempt.run (walker.registerAt 1 rsp) stack).1 =
    .ok (Address.toBytes (call.sp + 8))
  framePointer : (Attempt.run (walker.registerAt 1 rbp) stack).1 = .ok (Address.toBytes call.sp)
  frameId : ∃ frameId, (Attempt.run (walker.idAt 1) stack).1 = .ok (some frameId) ∧
    frameId.same call.frameId = true

namespace FreshCall

variable {platform : Platform} {registers : RegisterCache registerFile} {snapshot : Snapshot 64 ε}
  {target : Target 64 ε τ} {held : τ → Prop} {entry returnAddress : BitVec 64} {call : PreparedCall}
  (fresh : FreshCall platform registers snapshot entry call.sp returnAddress)
include fresh

theorem findsReturn (shows : target.Shows snapshot held) (room : call.sp + 8 ≠ 0)
    (based : call.sp ≠ 0) (given : call.frameId.stack = call.sp + 16)
    {stack : CallStack 64 ε FrameCache τ}
    (sound : stack.Sound (platform.scene registers snapshot) held)
    (inside : 1 < stack.frames.size) :
    FindsReturn (platform.walker target registers) stack call returnAddress := by
  have explores : (platform.walker target registers).Explores
      (platform.scene registers snapshot) held := ⟨rfl, shows⟩
  obtain ⟨frameId, identified, placed⟩ := fresh.caller_frameId room based
  constructor
  case pc => exact (Walker.answers_pcAt fresh.view_one).run_eq sound inside
  case stackPointer =>
    exact ((Walker.answers_registerAt explores fresh.view_one rsp).run_eq sound inside).trans
      (fresh.callerRegister_rsp room)
  case framePointer =>
    exact ((Walker.answers_registerAt explores fresh.view_one rbp).run_eq sound inside).trans
      fresh.callerRegister_rbp
  case frameId =>
    have answered := (Walker.answers_idAt explores fresh.view_one).run_eq sound inside
    refine ⟨frameId, answered.trans identified, ?_⟩
    rw [FrameId.same, placed, given]
    exact beq_self_eq_true _

end FreshCall

/-- A call stack on entry to the function of a prepared call finds the frame that the call returns
to, and by the id that the call was given, whatever code the return address lies in and whatever has
been asked before. -/
theorem prepareCall_unwinds {platform : Platform} {target : Target 64 ε τ}
    {contents : τ → ByteMap (BitVec 64)} (remembers : target.Remembers contents)
    {arguments : List Value} {sp returnAddress : BitVec 64} {structAddress : Option (BitVec 64)}
    {before after : Machine registerFile τ} {call : PreparedCall}
    (prepared : Attempt.run (prepareCall target arguments sp returnAddress structAddress) before =
      (.ok call, after))
    (inner : call.sp ≠ 8) (room : call.sp ≠ 0xfffffffffffffff8) {entry : BitVec 64}
    {registers : RegisterCache registerFile}
    (entered : after.registers.writeUnsigned rip entry.toNat = .ok registers)
    {snapshot : Snapshot 64 ε} {held : τ → Prop} (shows : target.Shows snapshot held) {memory : τ}
    (start : held memory)
    (known : snapshot.functionEntry entry = none ∨ snapshot.functionEntry entry = some entry)
    (readable : ∃ block, snapshot.read call.sp 8 = .ok block)
    (unchanged : ∀ index < 8, contents memory (call.sp + BitVec.ofNat 64 index) =
      contents after.memory (call.sp + BitVec.ofNat 64 index))
    (declined : ∀ pc ∈ [entry, returnAddress], ∀ view,
      snapshot.answer view (platform.config.signals.claims pc) = .ok false)
    (caller : ∀ function, snapshot.functionEntry (returnAddress - 1) = some function →
      (∃ block, snapshot.read function 1 = .ok block ∧ block.val ≠ Prologue.pushCode) ∨
        snapshot.Holds function Prologue.wholeCode ∧ function.toNat + 2 ≤ returnAddress.toNat) :
    ∃ calls, (platform.walker target registers).start memory = .ok calls ∧
      (∀ history, (Attempt.run ((platform.walker target registers).caller 0)
        ((platform.walker target registers).after history calls)).1 = .ok (.level 1)) ∧
      ∀ history history', FindsReturn (platform.walker target registers)
        ((platform.walker target registers).after (history ++ .caller 0 :: history') calls)
        call returnAddress := by
  obtain ⟨-, -, based⟩ := pointers_of_prepareCall prepared
  have above : call.sp + 8 ≠ 0 := fun zero => room (BitVec.eq_sub_iff_add_eq.2 zero)
  have returns := read_returnAddress prepared remembers shows start readable unchanged
  have fresh : FreshCall platform registers snapshot entry call.sp returnAddress :=
    freshCall_of_prepareCall prepared entered returns known declined caller
  have started : (platform.walker target registers).start memory =
      .ok ⟨#[{ pc := entry }], 0, memory⟩ :=
    Walker.start_eq_ok fresh.pcRegister (Address.ofBytes?_toBytes _)
  have explores : (platform.walker target registers).Explores
      (platform.scene registers snapshot) held := ⟨rfl, shows⟩
  have sound (history : List (StackCall 64 ε)) :
      ((platform.walker target registers).after history
        ⟨#[{ pc := entry }], 0, memory⟩).Sound (platform.scene registers snapshot) held :=
    Walker.sound_after explores history (Walker.sound_start start started)
  have called := fresh.caller_zero inner
  refine ⟨_, started, fun history => ?_, fun history history' => ?_⟩
  · obtain ⟨stack, run, -⟩ := Walker.run_caller explores (sound history) (sound history).started
    rw [run, called]
  -- The caller is found once, and stays known whatever is asked afterwards.
  · have later := sound (history ++ .caller 0 :: history')
    have inside := Walker.lt_size_after_caller explores called history' (sound history)
      (sound history).started
    rw [Walker.after_append] at later ⊢
    have given : call.frameId.stack = call.sp + 16 := by
      rw [(prepareCall_eq_ok prepared).1]
    exact fresh.findsReturn shows above based given later inside

section Sample

/-- Two known functions, the second of which sets up a frame pointer. -/
def sampleFunctions : Memory 64 Empty :=
  Memory.poke { functions := [⟨0x1000, 0x1100⟩, ⟨0x400000, 0x400100⟩] } 0x400000 Prologue.wholeCode

def sampleCall : Except (Error Empty) PreparedCall × Machine registerFile (Memory 64 Empty) :=
  Attempt.run (prepareCall (Memory.target 64 Empty) [.ofNat (.int 8) 7] 0x8000 0x400010 none)
    ⟨.empty _, sampleFunctions⟩

def sampleReturn : Memory 64 Empty :=
  sampleFunctions.poke 0x7ff8 (Address.toBytes (0x400010 : BitVec 64))

theorem sampleCall_sp : sampleCall.1.toOption.map PreparedCall.sp = some 0x7ff8 := rfl

theorem sampleReturn_maps : sampleReturn.Maps 0x7ff8 (Address.toBytes (0x400010 : BitVec 64)) ∧
    sampleReturn.Maps 0x400000 Prologue.wholeCode := by decide +kernel

theorem sampleReturn_unrecognized :
    Linux.platform.config.signals.recognizes sampleReturn.snapshot 0x1000 = false ∧
      Linux.platform.config.signals.recognizes sampleReturn.snapshot 0x400010 = false := by
  decide +kernel

theorem sampleReturn_functions : sampleReturn.functionEntry 0x1000 = some 0x1000 ∧
    sampleReturn.functionEntry (0x400010 - 1) = some 0x400000 := by decide +kernel

theorem prepareCall_unwinds_sampleCall :
    ∃ call registers calls, sampleCall = (.ok call, sampleCall.2) ∧ call.sp = 0x7ff8 ∧
      sampleCall.2.registers.writeUnsigned rip (0x1000 : BitVec 64).toNat = .ok registers ∧
      (Linux.platform.walker (Memory.target 64 Empty) registers).start sampleReturn = .ok calls ∧
      (Attempt.run ((Linux.platform.walker (Memory.target 64 Empty) registers).caller 0) calls).1 =
        .ok (.level 1) ∧
      FindsReturn (Linux.platform.walker (Memory.target 64 Empty) registers)
        ((Linux.platform.walker (Memory.target 64 Empty) registers).after [.caller 0] calls)
        call 0x400010 := by
  have bottom := sampleCall_sp
  cases outcome : sampleCall.1 with
  | error error =>
    rw [outcome] at bottom
    cases bottom
  | ok call =>
    rw [outcome] at bottom
    have placed : call.sp = 0x7ff8 := Option.some.inj bottom
    have prepared : sampleCall = (.ok call, sampleCall.2) := by rw [← outcome]
    have entered := sampleCall.2.registers.writeUnsigned_eq_ok (0x1000 : BitVec 64).toNat
      (by decide : rip < registerFile.count) (by decide)
    have declined : ∀ pc ∈ [(0x1000 : BitVec 64), 0x400010], ∀ view : View 64 Empty,
        sampleReturn.snapshot.answer view (Linux.platform.config.signals.claims pc) = .ok false := by
      refine List.forall_mem_cons.2 ⟨fun view => ?_, List.forall_mem_singleton.2 fun view => ?_⟩
      · rw [answer_claims, sampleReturn_unrecognized.1]
      · rw [answer_claims, sampleReturn_unrecognized.2]
    have readable : ∃ block, sampleReturn.snapshot.read call.sp 8 = .ok block := by
      rw [placed]
      exact ⟨_, sampleReturn_maps.1.read rfl⟩
    have prologue (function : BitVec 64)
        (found : sampleReturn.snapshot.functionEntry (0x400010 - 1) = some function) :
        sampleReturn.snapshot.Holds function Prologue.wholeCode ∧
          function.toNat + 2 ≤ (0x400010 : BitVec 64).toNat := by
      cases sampleReturn_functions.2.symm.trans found
      exact ⟨sampleReturn_maps.2.holds, by decide⟩
    obtain ⟨calls, started, called, found⟩ := prepareCall_unwinds Memory.target_remembers prepared
      (by rw [placed]; decide) (by rw [placed]; decide) entered sampleReturn.shows_snapshot rfl
      (.inr sampleReturn_functions.1) readable (fun _ _ => rfl) declined
      (fun function found => .inr (prologue function found))
    exact ⟨call, _, calls, prepared, placed, entered, started, called [], found [] []⟩

end Sample

end Amd64

end Inferior

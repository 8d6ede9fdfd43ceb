import Inferior.Proofs.FunctionFrame
import Inferior.Proofs.History
import Inferior.Proofs.Overlay

/-! Functions that are still setting up their frame. On its way through the usual prologue a function
moves the stack pointer and then the frame pointer, and what the analysis of its code says has been
executed makes up for that. At each stage the frame has the same base and the same id, and the same
registers are recovered for its caller.
-/

set_option autoImplicit false

namespace Inferior

namespace Scene

variable {w : Nat} {ε κ : Type}

/-- Unwinders that decline a frame are passed over. -/
theorem claimant_append_of_declined (scene : Scene w ε κ) {view : View w ε}
    {others : List (Unwinder w ε κ)}
    (declined : ∀ unwinder ∈ others,
      scene.snapshot.answer view (unwinder.claims view.pc) = .ok false)
    (rest : List (Unwinder w ε κ)) :
    scene.claimant view (others ++ rest) = scene.claimant view rest := by
  induction others with
  | nil => rfl
  | cons unwinder others ih =>
    obtain ⟨here, declined⟩ := List.forall_mem_cons.1 declined
    rw [List.cons_append, claimant, here, ok_bind]
    exact ih declined

end Scene

namespace Amd64

variable {ε τ : Type}

/-- Walk the stack of a thread with some unwinders, which need not be those of a platform. -/
def walkerWith (unwinders : List (Unwinder 64 ε FrameCache)) (target : Target 64 ε τ)
    (registers : RegisterCache registerFile) : Walker 64 ε FrameCache τ where
  architecture := architecture
  target := target
  registers := registers
  unwinders := unwinders

def sceneWith (unwinders : List (Unwinder 64 ε FrameCache))
    (registers : RegisterCache registerFile) (snapshot : Snapshot 64 ε) :
    Scene 64 ε FrameCache where
  architecture := architecture
  registers := registers
  unwinders := unwinders
  snapshot := snapshot

/-- How far a function has got with its prologue: its pc, and what is left of the stack pointer and
the frame pointer with which it was entered. -/
inductive PrologueStage (registers : RegisterCache registerFile)
    (snapshot : Snapshot 64 ε) (function sp pointer : BitVec 64) : BitVec 64 → Prop where
  /-- Nothing has been executed. -/
  | entered : registers.read rsp = .ok (Address.toBytes sp) →
    registers.read rbp = .ok (Address.toBytes pointer) →
    PrologueStage registers snapshot function sp pointer function
  /-- The frame pointer has been pushed. -/
  | pushed {pc : BitVec 64} : pc.toNat = function.toNat + 1 →
    registers.read rsp = .ok (Address.toBytes (sp - 8)) →
    registers.read rbp = .ok (Address.toBytes pointer) →
    snapshot.Holds (sp - 8) (Address.toBytes pointer) →
    PrologueStage registers snapshot function sp pointer pc
  /-- The frame pointer has been set up, and the stack pointer may be anywhere. -/
  | framed {pc : BitVec 64} : function.toNat + 4 ≤ pc.toNat →
    registers.read rbp = .ok (Address.toBytes (sp - 8)) →
    snapshot.Holds (sp - 8) (Address.toBytes pointer) →
    PrologueStage registers snapshot function sp pointer pc

/-- A thread in a function with the usual prologue, which was entered with a stack pointer, a frame
pointer and a return address. -/
structure EnteredFunction (registers : RegisterCache registerFile)
    (snapshot : Snapshot 64 ε) (function sp pointer returnAddress pc : BitVec 64) : Prop where
  pcRegister : registers.read rip = .ok (Address.toBytes pc)
  known : function ≠ 0
  found : snapshot.functionEntry pc = some function
  prologue : snapshot.Holds function Prologue.wholeCode
  returns : snapshot.Holds sp (Address.toBytes returnAddress)
  stage : PrologueStage registers snapshot function sp pointer pc

theorem answer_baseAfter_pushed {snapshot : Snapshot 64 ε} {view : View 64 ε} {sp : BitVec 64}
    (pointer : view.register rsp = .ok (Address.toBytes sp)) :
    snapshot.answer view (FrameCache.baseAfter (Prologue.push {})) = .ok sp := by
  change snapshot.answer view (FrameQuery.askAddress rsp >>= _) = _
  rw [Snapshot.answer_bind, Snapshot.answer_askAddress, pointer, ok_bind,
    Walker.addressOf_toBytes, ok_bind]
  exact congrArg Except.ok (BitVec.add_zero sp)

namespace EnteredFunction

variable {unwinders : List (Unwinder 64 ε FrameCache)} {registers : RegisterCache registerFile}
  {snapshot : Snapshot 64 ε} {function sp pointer returnAddress pc : BitVec 64}
  (entered : EnteredFunction registers snapshot function sp pointer returnAddress pc)
include entered

theorem view_zero : (sceneWith unwinders registers snapshot).view 0 =
    .ok ((sceneWith unwinders registers snapshot).innermostView pc) :=
  Scene.view_zero_eq_ok.2 ⟨_, pc, entered.pcRegister, Walker.addressOf_toBytes pc, rfl⟩

variable (claimed : (sceneWith unwinders registers snapshot).unwinder
  ((sceneWith unwinders registers snapshot).innermostView pc) = .ok (functionUnwinder ε))
include claimed

/-- The base is where the frame pointer is pushed to, whether this has happened or not. If it has, the
caller's frame pointer is found there, and it is still in its register if not. -/
theorem cache : ∃ prologue, (sceneWith unwinders registers snapshot).cache
        ((sceneWith unwinders registers snapshot).innermostView pc) =
      .ok (functionUnwinder ε, .ofPrologue prologue (sp - 8) function) ∧
    (prologue.saved.get? rbp = none ∧ registers.read rbp = .ok (Address.toBytes pointer) ∨
      prologue.saved.get? rbp = some 0 ∧ snapshot.Holds (sp - 8) (Address.toBytes pointer)) := by
  have found : (sceneWith unwinders registers snapshot).snapshot.answer
      ((sceneWith unwinders registers snapshot).innermostView pc) (.askFunctionEntry pc) =
      .ok (some function) := congrArg Except.ok entered.found
  have held {number : Nat} {address : BitVec 64}
      (read : registers.read number = .ok (Address.toBytes address)) :
      ((sceneWith unwinders registers snapshot).innermostView pc).register number =
        .ok (Address.toBytes address) := by
    change (registers.read number).mapError Error.register = _
    rw [read]
    rfl
  -- Each stage is told from the pc alone, and the base comes from what the stage has left unchanged.
  cases entered.stage with
  | entered stack frame =>
    exact ⟨{}, cache_of_prologue claimed found
      (answer_prologueAt_entry _ _ (BitVec.le_refl _)) (answer_baseAfter_frameless (held stack)),
      .inl ⟨SavedRegisters.get?_empty rbp, frame⟩⟩
  | pushed between stack frame saved =>
    exact ⟨Prologue.push {}, cache_of_prologue claimed found
      (answer_prologueAt_pushed _ _ entered.known entered.prologue between)
      (answer_baseAfter_pushed (held stack)), .inr ⟨rfl, saved⟩⟩
  | framed past frame saved =>
    have past' : function.toNat + 2 ≤ pc.toNat := Nat.le_trans (by omega) past
    exact ⟨.whole, cache_of_prologue claimed found
      (answer_prologueAt_whole _ _ entered.known entered.prologue past')
      (answer_baseAfter_whole (held frame)), .inr ⟨rfl, saved⟩⟩

theorem base : (sceneWith unwinders registers snapshot).base
    ((sceneWith unwinders registers snapshot).innermostView pc) = .ok (sp - 8) := by
  obtain ⟨prologue, computed, -⟩ := entered.cache claimed
  rw [Scene.base, computed]
  rfl

theorem frameId (based : sp - 8 ≠ 0) : (sceneWith unwinders registers snapshot).frameId
      ((sceneWith unwinders registers snapshot).innermostView pc) =
    .ok (some ⟨sp + 8, function⟩) := by
  obtain ⟨prologue, computed, -⟩ := entered.cache claimed
  have top : sp - 8 + 16 = sp + 8 := by bv_omega
  rw [Scene.frameId, computed, ← top]
  exact congrArg Except.ok (if_neg based)

theorem callerRegister_rip : (sceneWith unwinders registers snapshot).callerRegister
      ((sceneWith unwinders registers snapshot).innermostView pc) rip =
    .ok (Address.toBytes returnAddress) := by
  obtain ⟨prologue, computed, -⟩ := entered.cache claimed
  refine callerRegister_of_memory computed FrameCache.previousRegister_rip rfl ?_
  rw [BitVec.sub_add_cancel]
  exact entered.returns.whole rfl

theorem callerRegister_rsp (room : sp + 8 ≠ 0) :
    (sceneWith unwinders registers snapshot).callerRegister
      ((sceneWith unwinders registers snapshot).innermostView pc) rsp =
    .ok (Address.toBytes (sp + 8)) := by
  obtain ⟨prologue, computed, -⟩ := entered.cache claimed
  have top : sp - 8 + 16 = sp + 8 := by bv_omega
  rw [← top] at room ⊢
  exact callerRegister_of_constant computed (FrameCache.previousRegister_rsp room) rfl

theorem callerRegister_rbp : (sceneWith unwinders registers snapshot).callerRegister
      ((sceneWith unwinders registers snapshot).innermostView pc) rbp =
    .ok (Address.toBytes pointer) := by
  obtain ⟨prologue, computed, kept | pushed⟩ := entered.cache claimed
  · obtain ⟨unsaved, frame⟩ := kept
    rw [callerRegister_of_register computed
      (FrameCache.previousRegister_of_unsaved (by decide) (by decide) unsaved)]
    change (registers.read rbp).mapError Error.register = _
    rw [frame]
    rfl
  · obtain ⟨saved, held⟩ := pushed
    exact callerRegister_of_memory computed (FrameCache.previousRegister_rbp_of_pushed saved) rfl
      (held.whole rfl)

end EnteredFunction

theorem unwinder_of_others {others rest : List (Unwinder 64 ε FrameCache)}
    {registers : RegisterCache registerFile} {snapshot : Snapshot 64 ε} {view : View 64 ε}
    (declined : ∀ unwinder ∈ others, snapshot.answer view (unwinder.claims view.pc) = .ok false) :
    (sceneWith (others ++ functionUnwinder ε :: rest) registers snapshot).unwinder view =
      .ok (functionUnwinder ε) :=
  Scene.claimant_append_of_declined _ declined _

/-- What a call stack tells about its innermost frame, that of a function which was entered with a
stack pointer, a frame pointer and a return address, and about the registers of the caller. -/
structure TellsEntry (walker : Walker 64 ε FrameCache τ) (stack : CallStack 64 ε FrameCache τ)
    (function sp pointer returnAddress : BitVec 64) : Prop where
  kind : (Attempt.run (walker.kindAt 0) stack).1 = .ok .normal
  base : (Attempt.run (walker.baseAt 0) stack).1 = .ok (sp - 8)
  frameId : (Attempt.run (walker.idAt 0) stack).1 = .ok (some ⟨sp + 8, function⟩)
  callerPc : (Attempt.run (walker.callerRegister 0 rip) stack).1 =
    .ok (Address.toBytes returnAddress)
  callerSp : (Attempt.run (walker.callerRegister 0 rsp) stack).1 = .ok (Address.toBytes (sp + 8))
  callerPointer : (Attempt.run (walker.callerRegister 0 rbp) stack).1 =
    .ok (Address.toBytes pointer)

/-- A function can be unwound at any stage of its prologue, and always in the same way: its frame has
the same base and the same id, and the registers of the caller are those with which the function was
entered, less the return address on the stack. -/
theorem enteredFunction_unwinds {others rest : List (Unwinder 64 ε FrameCache)}
    {target : Target 64 ε τ} {registers : RegisterCache registerFile} {snapshot : Snapshot 64 ε}
    {held : τ → Prop} (shows : target.Shows snapshot held) {memory : τ} (start : held memory)
    {function sp pointer returnAddress pc : BitVec 64}
    (entered : EnteredFunction registers snapshot function sp pointer returnAddress pc)
    (declined : ∀ unwinder ∈ others, snapshot.answer
      ((sceneWith (others ++ functionUnwinder ε :: rest) registers snapshot).innermostView pc)
      (unwinder.claims pc) = .ok false)
    (based : sp - 8 ≠ 0) (room : sp + 8 ≠ 0) :
    ∃ calls, (walkerWith (others ++ functionUnwinder ε :: rest) target registers).start memory =
        .ok calls ∧
      ∀ history, TellsEntry (walkerWith (others ++ functionUnwinder ε :: rest) target registers)
        ((walkerWith (others ++ functionUnwinder ε :: rest) target registers).after history calls)
        function sp pointer returnAddress := by
  have claimed := @unwinder_of_others _ _ rest registers snapshot
    ((sceneWith (others ++ functionUnwinder ε :: rest) registers snapshot).innermostView pc) declined
  -- From here on it only matters which of the unwinders is chosen.
  generalize others ++ functionUnwinder ε :: rest = unwinders at claimed ⊢
  have started : (walkerWith unwinders target registers).start memory =
      .ok ⟨#[{ pc }], 0, memory⟩ :=
    Walker.start_eq_ok entered.pcRegister (Address.ofBytes?_toBytes pc)
  have explores : (walkerWith unwinders target registers).Explores
      (sceneWith unwinders registers snapshot) held := ⟨rfl, shows⟩
  have seen : (sceneWith unwinders registers snapshot).view 0 = _ := entered.view_zero
  refine ⟨_, started, fun history => ?_⟩
  have sound := Walker.sound_after explores history (Walker.sound_start start started)
  have inside := sound.started
  -- All is answered as in a survey, whatever has been asked before.
  constructor
  case kind =>
    rw [(Walker.answers_kindAt explores seen).run_eq sound inside, Scene.kind, claimed]
    rfl
  case base =>
    exact ((Walker.answers_baseAt explores seen).run_eq sound inside).trans (entered.base claimed)
  case frameId =>
    exact ((Walker.answers_idAt explores seen).run_eq sound inside).trans
      (entered.frameId claimed based)
  case callerPc =>
    exact ((Walker.answers_callerRegister explores seen rip).run_eq sound inside).trans
      (entered.callerRegister_rip claimed)
  case callerSp =>
    exact ((Walker.answers_callerRegister explores seen rsp).run_eq sound inside).trans
      (entered.callerRegister_rsp claimed room)
  case callerPointer =>
    exact ((Walker.answers_callerRegister explores seen rbp).run_eq sound inside).trans
      (entered.callerRegister_rbp claimed)

section Sample

/-- A function with the usual prologue, which was entered with the return address 0x2020 on top of the
stack. The frame pointer has been pushed below it. -/
def enteredMemory : Memory 64 Empty :=
  ((Memory.poke { functions := [⟨0x1000, 0x1100⟩] } 0x1000 Prologue.wholeCode).poke 0x7000
    (Address.toBytes (0x2020 : BitVec 64))).poke 0x6ff8 (Address.toBytes (0x7100 : BitVec 64))

def enteredRegisters (pc sp pointer : BitVec 64) : RegisterCache registerFile :=
  (((RegisterCache.empty registerFile).store rip 0 (Address.toBytes pc) .valid).store rsp 0
    (Address.toBytes sp) .valid).store rbp 0 (Address.toBytes pointer) .valid

theorem read_enteredRegisters (pc sp pointer : BitVec 64) :
    (enteredRegisters pc sp pointer).read rip = .ok (Address.toBytes pc) ∧
      (enteredRegisters pc sp pointer).read rsp = .ok (Address.toBytes sp) ∧
      (enteredRegisters pc sp pointer).read rbp = .ok (Address.toBytes pointer) := by
  have fits {number : Nat} (wide : registerFile.width number = 8) (address : BitVec 64) :
      0 + (Address.toBytes address).length ≤ registerFile.width number :=
    Nat.le_of_eq (by rw [Nat.zero_add, Address.length_toBytes, wide])
  unfold enteredRegisters
  refine ⟨?_, ?_, RegisterCache.read_store_whole _ _ (by decide) (by decide)⟩
  · rw [RegisterCache.read_store_of_ne _ .valid (fits (by decide) _) (by decide),
      RegisterCache.read_store_of_ne _ .valid (fits (by decide) _) (by decide)]
    exact RegisterCache.read_store_whole _ _ (by decide) (by decide)
  · rw [RegisterCache.read_store_of_ne _ .valid (fits (by decide) _) (by decide)]
    exact RegisterCache.read_store_whole _ _ (by decide) (by decide)

theorem enteredMemory_maps : enteredMemory.Maps 0x1000 Prologue.wholeCode ∧
    enteredMemory.Maps 0x7000 (Address.toBytes (0x2020 : BitVec 64)) ∧
    enteredMemory.Maps (0x7000 - 8) (Address.toBytes (0x7100 : BitVec 64)) := by decide +kernel

/-- Between the two instructions, with the unwinders of GNU/Linux, the one for trampolines first. -/
theorem enteredFunction_unwinds_betweenInstructions :
    EnteredFunction (enteredRegisters 0x1001 0x6ff8 0x7100) enteredMemory.snapshot 0x1000 0x7000
        0x7100 0x2020 0x1001 ∧
      ∃ calls, (Linux.platform.walker (Memory.target 64 Empty)
          (enteredRegisters 0x1001 0x6ff8 0x7100)).start enteredMemory = .ok calls ∧
        ∀ history, TellsEntry (Linux.platform.walker (Memory.target 64 Empty)
            (enteredRegisters 0x1001 0x6ff8 0x7100))
          ((Linux.platform.walker (Memory.target 64 Empty)
            (enteredRegisters 0x1001 0x6ff8 0x7100)).after history calls)
          0x1000 0x7000 0x7100 0x2020 := by
  obtain ⟨pc, stack, frame⟩ := read_enteredRegisters 0x1001 0x6ff8 0x7100
  obtain ⟨code, returns, saved⟩ := enteredMemory_maps
  have entered : EnteredFunction (enteredRegisters 0x1001 0x6ff8 0x7100) enteredMemory.snapshot
      0x1000 0x7000 0x7100 0x2020 0x1001 :=
    ⟨pc, by decide, by decide +kernel, code.holds, returns.holds,
      .pushed rfl stack frame saved.holds⟩
  have unrecognized : Linux.platform.config.signals.recognizes enteredMemory.snapshot 0x1001 =
      false := by decide +kernel
  refine ⟨entered, @enteredFunction_unwinds _ _ [Linux.platform.config.signals.unwinder Empty] []
    _ _ _ _ enteredMemory.shows_snapshot _ rfl _ _ _ _ _ entered ?_ (by decide) (by decide)⟩
  refine List.forall_mem_singleton.2 ?_
  exact (answer_claims _ _ _ _).trans (congrArg Except.ok unrecognized)

end Sample

end Amd64

end Inferior

import Inferior.Amd64.Linux
import Inferior.Proofs.AlikeFrames
import Inferior.Proofs.History

/-! Signal frames of GNU/Linux are transparent. Behind a handler and the trampoline that it returns
to, a walk goes on as it would have from the interrupted registers, had there been no signal.
-/

set_option autoImplicit false

namespace Inferior.Amd64

variable {ε τ : Type}

namespace Linux

def trampolineCache (sp : BitVec 64) : FrameCache where
  base := sp - 8
  function := 0
  spOffset := ({} : Prologue).spOffset
  saved := (SavedRegisters.ofTable signals.offsets).map (sp + BitVec.ofNat 64 contextOffset + ·)
  callerSp := 0
  frameless := ({} : Prologue).frameless

def contextPlace? (number : Nat) : Option Nat := contextTable[number]?.join

theorem ne_of_contextPlace? {number listed : Nat} (unlisted : contextPlace? number = none)
    (place : (contextPlace? listed).isSome) : number ≠ listed := by
  intro same
  rw [← same, unlisted] at place
  cases place

theorem get?_offsets (number : Nat) :
    (SavedRegisters.ofTable signals.offsets).get? number =
      (contextPlace? number).map (BitVec.ofNat 64) := by
  rw [SavedRegisters.get?_ofTable, signals, List.getElem?_map, contextPlace?]
  by_cases general : number < generalCount
  · rw [if_pos general]
    cases contextTable[number]? with
    | none => rfl
    | some place => rfl
  · rw [if_neg general, List.getElem?_eq_none (Nat.not_lt.1 general)]
    rfl

theorem previousRegister_saved {sp : BitVec 64} {number place : Nat}
    (listed : contextPlace? number = some place) :
    (trampolineCache sp).previousRegister number =
      .memory (sp + BitVec.ofNat 64 contextOffset + BitVec.ofNat 64 place) := by
  refine FrameCache.previousRegister_of_saved (fun _ => rfl) ?_
  unfold trampolineCache
  rw [SavedRegisters.get?_map, get?_offsets, listed]
  rfl

theorem previousRegister_unsaved {sp : BitVec 64} {number : Nat}
    (unlisted : contextPlace? number = none) :
    (trampolineCache sp).previousRegister number = .register number := by
  have unsaved : (trampolineCache sp).saved.get? number = none := by
    unfold trampolineCache
    rw [SavedRegisters.get?_map, get?_offsets, unlisted]
    rfl
  unfold FrameCache.previousRegister
  rw [if_neg fun both => both.2 rfl, unsaved]

theorem recognizes_trampoline {snapshot : Snapshot 64 ε} {pc : BitVec 64}
    (code : snapshot.Holds pc trampoline.code) : signals.recognizes snapshot pc = true := by
  have whole : snapshot.read pc trampoline.code.length = .ok ⟨trampoline.code, rfl⟩ :=
    code.whole rfl
  have parts : snapshot.Holds pc ([0x48] ++ trampoline.code.tail) := code
  have first : snapshot.read pc 1 = .ok ⟨[0x48], rfl⟩ := parts.left.whole rfl
  have entered : trampoline.locateFrom (m := Id) snapshot.read pc (some 0x48) [0, 7] = some pc := by
    unfold TrampolineCode.locateFrom
    rw [if_neg (by decide)]
    dsimp only
    rw [BitVec.sub_zero, whole]
    rfl
  have located : trampoline.locate (m := Id) snapshot.read pc = some pc := by
    unfold TrampolineCode.locate
    rw [first]
    exact entered
  change (true && ((trampoline.locate (m := Id) snapshot.read pc).isSome || _)) = true
  rw [located]
  rfl

theorem answer_frameCache {snapshot : Snapshot 64 ε} {view : View 64 ε} {sp : BitVec 64}
    (pointer : view.register rsp = .ok (Address.toBytes sp)) :
    snapshot.answer view signals.frameCache = .ok (trampolineCache sp) := by
  have asked : snapshot.answer view (.askAddress rsp) = .ok sp := by
    rw [Snapshot.answer_askAddress, pointer, ok_bind, Walker.addressOf_toBytes]
  have context : snapshot.answer view
      (SignalLayout.contextAddress (.stack (BitVec.ofNat 64 contextOffset))) =
      .ok (sp + BitVec.ofNat 64 contextOffset) := by
    unfold SignalLayout.contextAddress
    rw [Snapshot.answer_bind, asked]
    rfl
  change snapshot.answer view (FrameQuery.askAddress rsp >>= _) = _
  rw [Snapshot.answer_bind, asked, ok_bind]
  rw [Snapshot.answer_bind, context]
  rfl

end Linux

structure TrampolineFrame (snapshot : Snapshot 64 ε) (view : View 64 ε) (sp : BitVec 64) :
    Prop where
  pointer : view.register rsp = .ok (Address.toBytes sp)
  code : snapshot.Holds view.pc Linux.trampoline.code

namespace TrampolineFrame

variable {registers : RegisterCache registerFile} {snapshot : Snapshot 64 ε} {view : View 64 ε}
  {sp : BitVec 64} (frame : TrampolineFrame snapshot view sp)
include frame

theorem claimed :
    (Linux.platform.scene registers snapshot).unwinder view = .ok (Linux.signals.unwinder ε) := by
  have recognized : Linux.platform.config.signals.recognizes snapshot view.pc = true :=
    Linux.recognizes_trampoline frame.code
  rw [unwinder_eq, recognized]
  rfl

theorem cache : (Linux.platform.scene registers snapshot).cache view =
    .ok (Linux.signals.unwinder ε, Linux.trampolineCache sp) := by
  rw [Scene.cache_of_unwinder frame.claimed]
  change (snapshot.answer view Linux.signals.frameCache).map _ = _
  rw [Linux.answer_frameCache frame.pointer]
  rfl

theorem kind : (Linux.platform.scene registers snapshot).kind view = .ok .signalTrampoline := by
  unfold Scene.kind
  rw [frame.claimed]
  rfl

theorem frameId :
    (Linux.platform.scene registers snapshot).frameId view = .ok (some ⟨sp + 8, view.pc⟩) := by
  have stack : sp - 8 + 16 = sp + 8 := by
    rw [BitVec.sub_eq_add_neg, BitVec.add_assoc]
    rfl
  rw [Scene.frameId, frame.cache, ← stack]
  rfl

theorem callerRegister_saved {number place : Nat} {bytes : Bytes}
    (listed : Linux.contextPlace? number = some place)
    (sized : registers.size number = .ok bytes.length)
    (saved :
      snapshot.Holds (sp + BitVec.ofNat 64 Linux.contextOffset + BitVec.ofNat 64 place) bytes) :
    (Linux.platform.scene registers snapshot).callerRegister view number = .ok bytes :=
  callerRegister_of_memory frame.cache (Linux.previousRegister_saved listed) sized
    (saved.whole rfl)

theorem callerRegister_unsaved {number : Nat} (unlisted : Linux.contextPlace? number = none) :
    (Linux.platform.scene registers snapshot).callerRegister view number =
      (registers.size number).mapError .register >>= fun _ => view.register number :=
  callerRegister_of_register frame.cache (Linux.previousRegister_unsaved unlisted)

end TrampolineFrame

structure Delivery where
  /-- Where the handler stands. -/
  pc : BitVec 64
  /-- The frame pointer of the handler. -/
  pointer : BitVec 64
  /-- The entry address of the handler. -/
  function : BitVec 64
  /-- Where the handler returns to. -/
  trampoline : BitVec 64
  /-- Where the program was interrupted. -/
  interruption : BitVec 64

namespace Delivery

variable (delivery : Delivery) (handler : RegisterCache registerFile) (snapshot : Snapshot 64 ε)

def handlerView : View 64 ε := (Linux.platform.scene handler snapshot).innermostView delivery.pc

def trampolineView : View 64 ε :=
  (Linux.platform.scene handler snapshot).callerView (delivery.handlerView handler snapshot)
    delivery.trampoline

def resumedView : View 64 ε :=
  (Linux.platform.scene handler snapshot).callerView (delivery.trampolineView handler snapshot)
    delivery.interruption

def handlerEntry : BacktraceEntry 64 where
  level := 0
  pc := delivery.pc
  kind := some .normal
  frameId := some ⟨delivery.pointer + 16, delivery.function⟩

def trampolineEntry : BacktraceEntry 64 where
  level := 1
  pc := delivery.trampoline
  kind := some .signalTrampoline
  frameId := some ⟨delivery.pointer + 24, delivery.trampoline⟩

end Delivery

/-- A thread in the handler of a signal that was delivered when its registers were the interrupted
ones. They lie in the context of the signal, as far as there is a place for them. -/
structure SignalDelivery (handler interrupted : RegisterCache registerFile)
    (snapshot : Snapshot 64 ε) (delivery : Delivery) : Prop where
  pcRegister : handler.read rip = .ok (Address.toBytes delivery.pc)
  pointerRegister : handler.read rbp = .ok (Address.toBytes delivery.pointer)
  known : delivery.function ≠ 0
  prologue : snapshot.Holds delivery.function Prologue.wholeCode
  past : delivery.function.toNat + 4 ≤ delivery.pc.toNat
  found : snapshot.functionEntry delivery.pc = some delivery.function
  declined (view : View 64 ε) :
    snapshot.answer view (Linux.platform.config.signals.claims delivery.pc) = .ok false
  pointer : delivery.pointer ≠ 0
  room : BitVec.uaddOverflow delivery.pointer 24 = false
  returns : snapshot.Holds (delivery.pointer + 8) (Address.toBytes delivery.trampoline)
  trampoline : delivery.trampoline ≠ 0
  code : snapshot.Holds delivery.trampoline Linux.trampoline.code
  saved {number place : Nat} (listed : Linux.contextPlace? number = some place) :
    ∃ bytes, interrupted.read number = .ok bytes ∧
      snapshot.Holds (delivery.pointer + 56 + BitVec.ofNat 64 place) bytes
  kept {number : Nat} (unlisted : Linux.contextPlace? number = none) :
    interrupted.read number = handler.read number
  interruptedRegister : interrupted.read rip = .ok (Address.toBytes delivery.interruption)
  interruption : delivery.interruption ≠ 0
  /-- The interrupted frame, if it has an id, is not mistaken for the trampoline's one. -/
  elsewhere {view : View 64 ε} {frameId : FrameId 64}
    (seen : (Linux.platform.scene interrupted snapshot).view 0 = .ok view)
    (identified : (Linux.platform.scene interrupted snapshot).frameId view = .ok (some frameId)) :
    frameId.stack ≠ delivery.pointer + 24

namespace SignalDelivery

variable {handler interrupted : RegisterCache registerFile} {snapshot : Snapshot 64 ε}
  {delivery : Delivery} (delivers : SignalDelivery handler interrupted snapshot delivery)
include delivers

theorem handlerFrame :
    FunctionFrame (Linux.platform.scene handler snapshot) (delivery.handlerView handler snapshot)
      delivery.pointer delivery.function :=
  functionFrame_innermost delivers.pointerRegister delivers.declined delivers.found delivers.known
    delivers.prologue delivers.past

/-- Nothing wraps around between the frame pointer and the trampoline's stack. -/
theorem toNat_above {offset : BitVec 64} (near : offset.toNat ≤ 24) :
    (delivery.pointer + offset).toNat = delivery.pointer.toNat + offset.toNat := by
  have room := delivers.room
  have most : (24 : BitVec 64).toNat = 24 := rfl
  simp only [BitVec.uaddOverflow, decide_eq_false_iff_not, ge_iff_le, Nat.not_le, most] at room
  exact BitVec.toNat_add_of_lt (by omega)

theorem view_one : (Linux.platform.scene handler snapshot).view 1 =
    .ok (delivery.trampolineView handler snapshot) :=
  Scene.view_succ_eq_ok.2 ⟨_, _, view_zero delivers.pcRegister,
    delivers.handlerFrame.callerPc delivers.returns, rfl⟩

theorem trampolineFrame : TrampolineFrame snapshot (delivery.trampolineView handler snapshot)
    (delivery.pointer + 16) where
  pointer := by
    apply delivers.handlerFrame.callerRegister_rsp
    intro zero
    have above := delivers.toNat_above (show (16 : BitVec 64).toNat ≤ 24 by decide)
    rw [zero] at above
    change 0 = delivery.pointer.toNat + 16 at above
    omega
  code := delivers.code

theorem register_trampolineView {number : Nat} (unlisted : Linux.contextPlace? number = none) :
    (delivery.trampolineView handler snapshot).register number =
      (handler.read number).mapError .register := by
  have other {listed : Nat} (place : (Linux.contextPlace? listed).isSome) : number ≠ listed :=
    Linux.ne_of_contextPlace? unlisted place
  refine (delivers.handlerFrame.callerRegister_other (other rfl) (other rfl) (other rfl)).trans ?_
  exact size_bind_read handler number

theorem register_resumedView (number : Nat) :
    (delivery.resumedView handler snapshot).register number =
      (interrupted.read number).mapError .register := by
  change (Linux.platform.scene handler snapshot).callerRegister _ number = _
  -- The trampoline's frame takes what has a place in the context from there. The rest passes
  -- through it and through the handler's frame, neither of which saves it.
  cases listed : Linux.contextPlace? number with
  | some place =>
    obtain ⟨bytes, content, holds⟩ := delivers.saved listed
    rw [content]
    have sized : interrupted.size number = .ok bytes.length := RegisterCache.size_of_read content
    have place' : delivery.pointer + 16 + BitVec.ofNat 64 Linux.contextOffset =
        delivery.pointer + 56 := by
      rw [BitVec.add_assoc]
      rfl
    exact delivers.trampolineFrame.callerRegister_saved listed sized (place' ▸ holds)
  | none =>
    rw [delivers.trampolineFrame.callerRegister_unsaved listed,
      delivers.register_trampolineView listed, delivers.kept listed]
    exact size_bind_read handler number

theorem view_two : (Linux.platform.scene handler snapshot).view 2 =
    .ok (delivery.resumedView handler snapshot) := by
  refine Scene.view_succ_eq_ok.2 ⟨_, _, delivers.view_one, ?_, rfl⟩
  change (delivery.resumedView handler snapshot).register rip >>= _ = _
  rw [delivers.register_resumedView, delivers.interruptedRegister]
  exact Walker.addressOf_toBytes _

/-- To its unwinder, the interrupted frame looks as it did before the signal. -/
theorem alike : (delivery.resumedView handler snapshot).Alike
    ((Linux.platform.scene interrupted snapshot).innermostView delivery.interruption) where
  pc := rfl
  register := delivers.register_resumedView
  inner := by
    change Except.map _ ((Linux.platform.scene handler snapshot).unwinder _ >>= _) = _
    rw [delivers.trampolineFrame.claimed]
    rfl

theorem handlerView_zero : (Linux.platform.scene handler snapshot).view 0 =
    .ok (delivery.handlerView handler snapshot) := view_zero delivers.pcRegister

theorem stopAt?_zero : (Linux.platform.scene handler snapshot).stopAt? 0 = .ok none := by
  rw [Scene.stopAt?_zero delivers.handlerView_zero,
    delivers.handlerFrame.frameId delivers.pointer]
  rfl

theorem trampolineId : (Linux.platform.scene handler snapshot).frameId
    (delivery.trampolineView handler snapshot) =
      .ok (some ⟨delivery.pointer + 24, delivery.trampoline⟩) := by
  have stack : delivery.pointer + 16 + 8 = delivery.pointer + 24 := by
    rw [BitVec.add_assoc]
    rfl
  rw [delivers.trampolineFrame.frameId, stack]
  rfl

theorem stopAt?_one : (Linux.platform.scene handler snapshot).stopAt? 1 = .ok none := by
  have handlers := delivers.toNat_above (show (16 : BitVec 64).toNat ≤ 24 by decide)
  have trampolines := delivers.toNat_above (show (24 : BitVec 64).toNat ≤ 24 by decide)
  have rising : delivery.pointer + 16 < delivery.pointer + 24 := by
    rw [BitVec.lt_def, handlers, trampolines]
    exact Nat.add_lt_add_left (by decide) _
  rw [Scene.stopAt?_succ delivers.view_one delivers.trampoline, delivers.trampolineId, ok_bind]
  refine Scene.misplaced?_eq_none delivers.handlerView_zero delivers.handlerFrame.kind
    (delivers.handlerFrame.frameId delivers.pointer) (fun _ => ?_) (fun same => ?_) ?_
  · exact decide_eq_false fun inner => BitVec.lt_irrefl _ (BitVec.lt_trans rising inner)
  · change delivery.pointer + 24 = delivery.pointer + 16 at same
    exact BitVec.lt_irrefl _ (same ▸ rising)
  · unfold Scene.repeatsSavedPc
    rw [if_neg (by simp), delivers.view_one, ok_bind, delivers.trampolineFrame.kind, ok_bind,
      if_pos (by simp)]
    rfl

/-- The walk ends at the interrupted frame if it would have ended there without the signal. -/
theorem stopAt?_two : (Linux.platform.scene handler snapshot).stopAt? 2 =
    (Linux.platform.scene interrupted snapshot).stopAt? 0 := by
  have seen : (Linux.platform.scene interrupted snapshot).view 0 =
      .ok ((Linux.platform.scene interrupted snapshot).innermostView delivery.interruption) :=
    view_zero delivers.interruptedRegister
  have same : (Linux.platform.scene handler snapshot).frameId
        (delivery.resumedView handler snapshot) =
      (Linux.platform.scene interrupted snapshot).frameId
        ((Linux.platform.scene interrupted snapshot).innermostView delivery.interruption) :=
    frameId_congr delivers.alike
  rw [Scene.stopAt?_succ delivers.view_two delivers.interruption, Scene.stopAt?_zero seen, same]
  -- An innermost frame is not compared with any other. Behind a trampoline, frames are allowed
  -- to lie further in, and only an equal id stops the walk.
  cases identified : (Linux.platform.scene interrupted snapshot).frameId
      ((Linux.platform.scene interrupted snapshot).innermostView delivery.interruption) with
  | error error => rfl
  | ok frameId =>
    cases frameId with
    | none => rfl
    | some frameId =>
      refine Scene.misplaced?_eq_none delivers.view_one delivers.trampolineFrame.kind
        delivers.trampolineId (fun called => absurd rfl called)
        (delivers.elsewhere seen identified) ?_
      unfold Scene.repeatsSavedPc
      rw [if_pos (by simp)]
      rfl

theorem entry_handlerView : (Linux.platform.scene handler snapshot).entry
    (delivery.handlerView handler snapshot) = delivery.handlerEntry := by
  rw [Scene.entry, delivers.handlerFrame.kind, delivers.handlerFrame.frameId delivers.pointer]
  rfl

theorem entry_trampolineView : (Linux.platform.scene handler snapshot).entry
    (delivery.trampolineView handler snapshot) = delivery.trampolineEntry := by
  rw [Scene.entry, delivers.trampolineFrame.kind, delivers.trampolineId]
  rfl

theorem caller_zero : (Linux.platform.scene handler snapshot).caller 0 = .ok (.level 1) := by
  rw [Scene.caller_of_no_stop delivers.stopAt?_zero, delivers.view_one]
  rfl

theorem caller_one : (Linux.platform.scene handler snapshot).caller 1 = .ok (.level 2) := by
  rw [Scene.caller_of_no_stop delivers.stopAt?_one, delivers.view_two]
  rfl

theorem sameView_two : SameView ((Linux.platform.scene handler snapshot).view 2)
    ((Linux.platform.scene interrupted snapshot).view 0) := by
  have seen : (Linux.platform.scene interrupted snapshot).view 0 =
      .ok ((Linux.platform.scene interrupted snapshot).innermostView delivery.interruption) :=
    view_zero delivers.interruptedRegister
  rw [delivers.view_two, seen]
  exact .found delivers.alike

/-- Behind the handler and the trampoline, a survey finds the interrupted frames. -/
theorem backtrace (limit : Nat) :
    (Linux.platform.scene handler snapshot).backtrace (limit + 2) =
      ((Linux.platform.scene interrupted snapshot).backtrace limit).map fun interrupted =>
        ((interrupted.outward 2).push delivery.trampolineEntry).push delivery.handlerEntry := by
  have listed : (SavedRegisters.ofTable Linux.platform.config.signals.offsets).get? rip =
      some 128 := Linux.get?_offsets rip
  -- The first two steps are those of the handler and of the trampoline.
  have further : (Linux.platform.scene handler snapshot).backtraceFrom 2 limit =
      ((Linux.platform.scene interrupted snapshot).backtraceFrom 0 limit).map (·.outward 2) :=
    backtraceFrom_congr delivers.sameView_two listed delivers.stopAt?_two 0 limit
  rw [Scene.backtrace, Scene.backtrace, Scene.backtraceFrom, delivers.handlerView_zero, ok_bind,
    delivers.caller_zero, delivers.entry_handlerView]
  simp only
  rw [Scene.backtraceFrom, delivers.view_one, ok_bind, delivers.caller_one,
    delivers.entry_trampolineView]
  simp only
  rw [further]
  cases (Linux.platform.scene interrupted snapshot).backtraceFrom 0 limit <;> rfl

end SignalDelivery

/-- A handler that runs on the stack of the function which the signal interrupted. -/
def sampleDelivery : Delivery where
  pc := 0x1010
  pointer := 0x7000
  function := 0x1000
  trampoline := 0x9000
  interruption := 0x2010

def sampleValue (number : Nat) : Nat :=
  if number = rip then 0x2010 else if number = rbp then 0x8000 else number + 1

def sampleBytes (number : Nat) : Bytes :=
  LittleEndian.digits (registerFile.width number) (sampleValue number)

def sampleInterrupted : RegisterCache registerFile :=
  (List.range 18).foldl
    (fun registers number => registers.store number 0 (sampleBytes number) .valid)
    (RegisterCache.empty registerFile)

def sampleHandler : RegisterCache registerFile :=
  (sampleInterrupted.store rip 0 (Address.toBytes sampleDelivery.pc) .valid).store rbp 0
    (Address.toBytes sampleDelivery.pointer) .valid

/-- The interrupted function was called by another one, which is the outermost one. -/
def sampleMemory : Memory 64 Empty :=
  let functions : Memory 64 Empty :=
    { functions := [⟨0x1000, 0x1100⟩, ⟨0x2000, 0x2100⟩, ⟨0x3000, 0x3100⟩] }
  let code := [0x1000, 0x2000, 0x3000].foldl (·.poke · Prologue.wholeCode) functions
  let stack := (code.poke 0x7008 (LittleEndian.digits 8 0x9000)).poke 0x8000
    (LittleEndian.digits 8 0 ++ LittleEndian.digits 8 0x3010)
  (List.range 18).foldl
    (fun memory number => memory.poke
      (0x7038 + BitVec.ofNat 64 ((Linux.contextPlace? number).getD 0)) (sampleBytes number))
    (stack.poke 0x9000 Linux.trampoline.code)

theorem sampleMemory_maps :
    (sampleMemory.Maps sampleDelivery.function Prologue.wholeCode ∧
      sampleMemory.Maps (sampleDelivery.pointer + 8) (Address.toBytes sampleDelivery.trampoline) ∧
      sampleMemory.Maps sampleDelivery.trampoline Linux.trampoline.code ∧
      sampleMemory.Maps 0x2000 Prologue.wholeCode) ∧
    (Linux.signals.recognizes sampleMemory.snapshot sampleDelivery.pc = false ∧
      Linux.signals.recognizes sampleMemory.snapshot sampleDelivery.interruption = false) ∧
    sampleMemory.functionEntry sampleDelivery.pc = some sampleDelivery.function ∧
      sampleMemory.functionEntry sampleDelivery.interruption = some 0x2000 := by
  decide +kernel

theorem sampleMemory_context : ∀ number < 24, (Linux.contextPlace? number).all fun place =>
    decide (sampleInterrupted.statuses[number]? = some .valid ∧
      sampleMemory.Maps (sampleDelivery.pointer + 56 + BitVec.ofNat 64 place)
        (sampleInterrupted.bytes number)) := by
  decide +kernel

theorem sampleInterrupted_bytes :
    sampleInterrupted.bytes rip = Address.toBytes sampleDelivery.interruption ∧
      sampleInterrupted.bytes rbp = Address.toBytes (0x8000 : BitVec 64) ∧
      sampleInterrupted.statuses = List.replicate 18 .valid ++ List.replicate 39 .unknown := by
  decide +kernel

theorem sampleInterrupted_read :
    sampleInterrupted.read rip = .ok (Address.toBytes sampleDelivery.interruption) ∧
      sampleInterrupted.read rbp = .ok (Address.toBytes (0x8000 : BitVec 64)) := by
  obtain ⟨pc, pointer, statuses⟩ := sampleInterrupted_bytes
  exact ⟨RegisterCache.read_of_valid (by rw [statuses]; rfl) pc,
    RegisterCache.read_of_valid (by rw [statuses]; rfl) pointer⟩

theorem sampleInterrupted_frame :
    FunctionFrame (Linux.platform.scene sampleInterrupted sampleMemory.snapshot)
      ((Linux.platform.scene sampleInterrupted sampleMemory.snapshot).innermostView
        sampleDelivery.interruption) 0x8000 0x2000 := by
  obtain ⟨⟨-, -, -, interrupted⟩, ⟨-, declined⟩, -, found⟩ := sampleMemory_maps
  exact functionFrame_innermost sampleInterrupted_read.2
    (fun view => (answer_claims _ view _ _).trans (congrArg Except.ok declined)) found
    (by decide) interrupted.holds (by decide)

theorem sampleMemory_saves {number place : Nat} (listed : Linux.contextPlace? number = some place) :
    ∃ bytes, sampleInterrupted.read number = .ok bytes ∧
      sampleMemory.snapshot.Holds (sampleDelivery.pointer + 56 + BitVec.ofNat 64 place) bytes := by
  have inside : number < 24 := by
    rcases Nat.lt_or_ge number 24 with inside | beyond
    · exact inside
    · unfold Linux.contextPlace? at listed
      rw [List.getElem?_eq_none beyond] at listed
      cases listed
  have here := sampleMemory_context number inside
  rw [listed] at here
  obtain ⟨valid, maps⟩ := of_decide_eq_true here
  exact ⟨_, RegisterCache.read_of_valid valid rfl, maps.holds⟩

theorem sampleDelivers :
    SignalDelivery sampleHandler sampleInterrupted sampleMemory.snapshot sampleDelivery := by
  obtain ⟨⟨function, returns, trampoline, -⟩, ⟨declined, -⟩, found, -⟩ := sampleMemory_maps
  refine {
    pcRegister := RegisterCache.read_of_valid (by decide +kernel) (by decide +kernel)
    pointerRegister := RegisterCache.read_of_valid (by decide +kernel) (by decide +kernel)
    known := by decide
    prologue := function.holds
    past := by decide
    found := found
    declined := fun view => (answer_claims _ view _ _).trans (congrArg Except.ok declined)
    pointer := by decide
    room := by decide
    returns := returns.holds
    trampoline := by decide
    code := trampoline.holds
    saved := sampleMemory_saves
    kept := fun {number} unlisted => ?_
    interruptedRegister := sampleInterrupted_read.1
    interruption := by decide
    elsewhere := fun {view frameId} seen identified => ?_ }
  · have other {listed : Nat} (place : (Linux.contextPlace? listed).isSome) : number ≠ listed :=
      Linux.ne_of_contextPlace? unlisted place
    unfold sampleHandler
    rw [RegisterCache.read_store_of_ne _ _ (by decide) (other rfl),
      RegisterCache.read_store_of_ne _ _ (by decide) (other rfl)]
  · cases (view_zero sampleInterrupted_read.1).symm.trans seen
    cases (sampleInterrupted_frame.frameId (by decide)).symm.trans identified
    decide

end Inferior.Amd64

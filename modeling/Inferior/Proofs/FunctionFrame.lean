import Inferior.Amd64.Platform
import Inferior.Proofs.Survey

/-! Which unwinder of a platform claims a frame, and what the frame of a function looks like once
the function has set up its frame pointer.
-/

set_option autoImplicit false

namespace Inferior

namespace LittleEndian

theorem value_digits_of_lt {width number : Nat} (fits : number < capacity width) :
    value (digits width number) = number := by
  rw [value_digits, Nat.mod_eq_of_lt fits]

end LittleEndian

namespace Address

theorem length_toBytes (address : BitVec 64) : (toBytes address).length = 8 :=
  LittleEndian.length_digits 8 _

theorem ofBytes?_toBytes (address : BitVec 64) : ofBytes? (toBytes address) = some address := by
  have sized : (toBytes address).take 8 = toBytes address :=
    List.take_of_length_le (Nat.le_of_eq (length_toBytes address))
  have beyond : (toBytes address).drop 8 = [] :=
    List.drop_eq_nil_of_le (Nat.le_of_eq (length_toBytes address))
  have fits : address.toNat < LittleEndian.capacity 8 := address.isLt
  change (LittleEndian.read? 8 ((toBytes address).take 8)).map (BitVec.ofNat 64) = _
  rw [sized, LittleEndian.read?, beyond, sized]
  change some (BitVec.ofNat 64 (LittleEndian.value (LittleEndian.digits 8 address.toNat))) = _
  rw [LittleEndian.value_digits_of_lt fits, BitVec.ofNat_toNat, BitVec.setWidth_eq]

end Address

theorem Walker.addressOf_toBytes {ε : Type} (address : BitVec 64) :
    (addressOf (Address.toBytes address) : Except (Error ε) (BitVec 64)) = .ok address := by
  unfold addressOf
  rw [Address.ofBytes?_toBytes]
  rfl

namespace Snapshot

variable {w : Nat} {ε : Type} {snapshot : Snapshot w ε} {view : View w ε}

theorem answer_askRegister (number : Nat) :
    snapshot.answer view (.askRegister number) = view.register number := rfl

theorem answer_askAddress (view : View w ε) (number : Nat) :
    snapshot.answer view (.askAddress number) = view.register number >>= Walker.addressOf := by
  unfold FrameQuery.askAddress
  rw [answer_bind, answer_askRegister]
  cases view.register number with
  | error error => rfl
  | ok bytes =>
    rw [ok_bind, ok_bind, Walker.addressOf]
    cases (Address.ofBytes? bytes : Option (BitVec w)) <;> rfl

theorem answer_tryMemory (address : BitVec w) (length : Nat) :
    snapshot.answer view (.tryMemory address length) =
      .ok ((snapshot.read address length).mapError .target) := rfl

/-- The function of a frame is looked up by an address in it. -/
theorem answer_askFunctionEntry {kind : Option FrameKind} (inner : view.innerKind = .ok kind)
    (pc : BitVec w) :
    snapshot.answer view (.askFunctionEntry pc) =
      .ok (snapshot.functionEntry (if kind = some .normal then pc - 1 else pc)) := by
  have asked : snapshot.answer view .askInnerKind = .ok kind := inner
  unfold FrameQuery.askFunctionEntry
  rw [answer_bind, FrameQuery.askAddressInBlock, answer_bind, asked]
  rfl

end Snapshot

namespace Amd64

variable {ε τ : Type}

def Platform.walker (platform : Platform) (target : Target 64 ε τ)
    (registers : RegisterCache registerFile) : Walker 64 ε FrameCache τ where
  architecture := architecture
  target := target
  registers := registers
  unwinders := platform.unwinders ε

def Platform.scene (platform : Platform) (registers : RegisterCache registerFile)
    (snapshot : Snapshot 64 ε) : Scene 64 ε FrameCache where
  architecture := architecture
  registers := registers
  unwinders := platform.unwinders ε
  snapshot := snapshot

section Claims

variable (snapshot : Snapshot 64 ε) (view : View 64 ε)

theorem answer_locateFrom (trampoline : TrampolineCode) (pc : BitVec 64) (opcode : Option UInt8)
    (entries : List Nat) :
    snapshot.answer view (trampoline.locateFrom .tryMemory pc opcode entries) =
      .ok (trampoline.locateFrom (m := Id) snapshot.read pc opcode entries) := by
  -- Memory that cannot be read is treated as if it did not match.
  induction entries with
  | nil => rfl
  | cons entry rest ih =>
    unfold TrampolineCode.locateFrom
    split
    · exact ih
    · rw [Snapshot.answer_bind, Snapshot.answer_tryMemory, ok_bind]
      dsimp only
      cases snapshot.read (pc - BitVec.ofNat 64 entry) trampoline.code.length with
      | error error => exact ih
      | ok block =>
        simp only [mapError_ok]
        split
        · rename_i same
          exact congrArg Except.ok (if_pos same).symm
        · rename_i different
          exact ih.trans (congrArg Except.ok (if_neg different).symm)

theorem answer_locate (trampoline : TrampolineCode) (pc : BitVec 64) :
    snapshot.answer view (trampoline.locate .tryMemory pc) =
      .ok (trampoline.locate (m := Id) snapshot.read pc) := by
  unfold TrampolineCode.locate
  rw [Snapshot.answer_bind, Snapshot.answer_tryMemory, ok_bind]
  cases snapshot.read pc 1 with
  | error error => rfl
  | ok opcode => exact answer_locateFrom snapshot view trampoline pc _ _

def SignalLayout.recognizes (layout : SignalLayout) (snapshot : Snapshot 64 ε) (pc : BitVec 64) :
    Bool :=
  layout.context.isSome &&
    (layout.code.any (fun code => (code.locate (m := Id) snapshot.read pc).isSome) ||
      layout.range.any (·.contains pc.toNat))

/-- A trampoline is told by its code or its place alone, and never in vain. -/
theorem answer_claims (layout : SignalLayout) (pc : BitVec 64) :
    snapshot.answer view (layout.claims pc) = .ok (layout.recognizes snapshot pc) := by
  unfold SignalLayout.claims SignalLayout.recognizes
  cases layout.context with
  | none => rfl
  | some locator =>
    cases layout.code with
    | none => rfl
    | some code =>
      simp only [Option.isNone_some, Bool.false_eq_true, if_false]
      rw [Snapshot.answer_bind, answer_locate, ok_bind, Option.any_some]
      cases (code.locate (m := Id) snapshot.read pc).isSome with
      | true => rfl
      | false => rfl

end Claims

namespace Prologue

def wholeCode : Bytes := pushCode ++ moveCode

def whole : Prologue where
  spOffset := 0
  saved := SavedRegisters.empty.set rbp 0
  frameless := false

end Prologue

namespace FrameCache

theorem previousRegister_of_saved {cache : FrameCache} {number : Nat} {address : BitVec 64}
    (computed : number = rsp → cache.callerSp = 0)
    (saved : cache.saved.get? number = some address) :
    cache.previousRegister number = .memory address := by
  unfold previousRegister
  rw [if_neg fun both => both.2 (computed both.1), saved]

def ofPrologue (prologue : Prologue) (base function : BitVec 64) : FrameCache where
  base := base
  function := function
  spOffset := prologue.spOffset
  saved := (prologue.saved.set rip 8).toAddresses base
  callerSp := base + 16
  frameless := prologue.frameless

def pastPrologue (base function : BitVec 64) : FrameCache := ofPrologue .whole base function

section

variable {prologue : Prologue} {base function : BitVec 64}

/-- Whatever the prologue has saved, the return address lies just above the base. -/
theorem get?_ofPrologue (number : Nat) :
    (ofPrologue prologue base function).saved.get? number =
      if number = rip then some (base + 8)
      else (prologue.saved.get? number).map fun offset => base + BitVec.ofInt 64 offset := by
  unfold ofPrologue SavedRegisters.toAddresses
  rw [SavedRegisters.get?_map, SavedRegisters.get?_set]
  by_cases pc : number = rip
  · rw [if_pos ⟨pc, by decide⟩, if_pos pc]
    rfl
  · rw [if_neg (pc ·.1), if_neg pc]

theorem previousRegister_rip :
    (ofPrologue prologue base function).previousRegister rip = .memory (base + 8) :=
  previousRegister_of_saved (fun same => absurd same (by decide)) (get?_ofPrologue rip)

theorem previousRegister_rsp (room : base + 16 ≠ 0) :
    (ofPrologue prologue base function).previousRegister rsp = .constant (base + 16) :=
  if_pos ⟨rfl, room⟩

theorem previousRegister_rbp_of_pushed (pushed : prologue.saved.get? rbp = some 0) :
    (ofPrologue prologue base function).previousRegister rbp = .memory base := by
  refine previousRegister_of_saved (fun same => absurd same (by decide)) ?_
  rw [get?_ofPrologue, if_neg (by decide), pushed]
  exact congrArg some (BitVec.add_zero base)

theorem previousRegister_of_unsaved {number : Nat} (notPc : number ≠ rip) (notSp : number ≠ rsp)
    (unsaved : prologue.saved.get? number = none) :
    (ofPrologue prologue base function).previousRegister number = .register number := by
  unfold previousRegister
  rw [if_neg (notSp ·.1), get?_ofPrologue, if_neg notPc, unsaved]
  rfl

end

variable {base function : BitVec 64}

theorem get?_whole (number : Nat) :
    Prologue.whole.saved.get? number = if number = rbp then some 0 else none := by
  rw [Prologue.whole, SavedRegisters.get?_set, SavedRegisters.get?_empty]
  by_cases pointer : number = rbp
  · rw [if_pos ⟨pointer, by decide⟩, if_pos pointer]
  · rw [if_neg (pointer ·.1), if_neg pointer]

theorem previousRegister_rbp :
    (pastPrologue base function).previousRegister rbp = .memory base :=
  previousRegister_rbp_of_pushed ((get?_whole rbp).trans (if_pos rfl))

theorem previousRegister_other {number : Nat} (notPc : number ≠ rip) (notPointer : number ≠ rbp)
    (notSp : number ≠ rsp) :
    (pastPrologue base function).previousRegister number = .register number :=
  previousRegister_of_unsaved notPc notSp ((get?_whole number).trans (if_neg notPointer))

end FrameCache

section Prologues

variable (snapshot : Snapshot 64 ε) (view : View 64 ε) {function pc : BitVec 64}

theorem answer_prologueAt_zero :
    snapshot.answer view (FrameCache.prologueAt 0 pc) = .ok {} := rfl

theorem answer_prologueAt_entry (entry : pc ≤ function) :
    snapshot.answer view (FrameCache.prologueAt function pc) = .ok {} := by
  unfold FrameCache.prologueAt
  split
  · rfl
  · rw [Snapshot.answer_bind, Prologue.analyze, if_pos entry]
    rfl

theorem answer_prologueAt_other {block : Block 1} (first : snapshot.read function 1 = .ok block)
    (other : block.val ≠ Prologue.pushCode) :
    snapshot.answer view (FrameCache.prologueAt function pc) = .ok {} := by
  by_cases entered : pc ≤ function
  · exact answer_prologueAt_entry snapshot view entered
  unfold FrameCache.prologueAt
  split
  · rfl
  · rw [Snapshot.answer_bind, Prologue.analyze, if_neg entered, Snapshot.answer_bind,
      Snapshot.answer_tryMemory, first, ok_bind]
    simp only [mapError_ok, ne_eq, other, not_false_eq_true, if_true]
    rfl

theorem answer_prologueAt_whole (known : function ≠ 0)
    (prologue : snapshot.Holds function Prologue.wholeCode)
    (past : function.toNat + 2 ≤ pc.toNat) :
    snapshot.answer view (FrameCache.prologueAt function pc) = .ok .whole := by
  have push : snapshot.read function 1 = .ok ⟨Prologue.pushCode, rfl⟩ :=
    prologue.left.whole rfl
  have move : snapshot.read (function + 1) 3 = .ok ⟨Prologue.moveCode, rfl⟩ :=
    prologue.right.whole rfl
  -- The analysis would stop early at a pc before or just after the push.
  have entered : ¬ pc ≤ function := by
    rw [BitVec.le_def]
    omega
  have pushed : ¬ pc ≤ function + 1 := by
    have one : (1 : BitVec 64).toNat = 1 := rfl
    rw [BitVec.le_def, BitVec.toNat_add_of_lt]
    · omega
    · have := pc.isLt
      omega
  unfold FrameCache.prologueAt
  rw [if_neg known, Snapshot.answer_bind, Prologue.analyze, if_neg entered,
    Snapshot.answer_bind, Snapshot.answer_tryMemory, push, ok_bind]
  simp only [mapError_ok, ne_eq, not_true, if_false, if_neg pushed]
  rw [Snapshot.answer_bind, Snapshot.answer_tryMemory, move, ok_bind]
  simp only [mapError_ok, not_true, if_false]
  rfl

/-- The analysis stops at the pc, whatever code follows. -/
theorem answer_prologueAt_pushed (known : function ≠ 0)
    (prologue : snapshot.Holds function Prologue.wholeCode)
    (between : pc.toNat = function.toNat + 1) :
    snapshot.answer view (FrameCache.prologueAt function pc) = .ok (Prologue.push {}) := by
  have push : snapshot.read function 1 = .ok ⟨Prologue.pushCode, rfl⟩ :=
    prologue.left.whole rfl
  have entered : ¬ pc ≤ function := by
    rw [BitVec.le_def]
    omega
  have next : pc = function + 1 := by bv_omega
  unfold FrameCache.prologueAt
  rw [if_neg known, Snapshot.answer_bind, Prologue.analyze, if_neg entered,
    Snapshot.answer_bind, Snapshot.answer_tryMemory, push, ok_bind]
  simp only [mapError_ok, ne_eq, not_true, if_false, if_pos (BitVec.le_of_eq next)]
  rfl

variable {snapshot view}

theorem answer_baseAfter_whole {base : BitVec 64}
    (pointer : view.register rbp = .ok (Address.toBytes base)) :
    snapshot.answer view (FrameCache.baseAfter .whole) = .ok base := by
  change snapshot.answer view (.askAddress rbp) = _
  rw [Snapshot.answer_askAddress, pointer, ok_bind, Walker.addressOf_toBytes]

theorem answer_baseAfter_frameless {sp : BitVec 64}
    (pointer : view.register rsp = .ok (Address.toBytes sp)) :
    snapshot.answer view (FrameCache.baseAfter {}) = .ok (sp - 8) := by
  change snapshot.answer view (FrameQuery.askAddress rsp >>= _) = _
  rw [Snapshot.answer_bind, Snapshot.answer_askAddress, pointer, ok_bind,
    Walker.addressOf_toBytes, ok_bind, BitVec.sub_eq_add_neg]
  rfl

end Prologues

theorem cache_of_prologue {scene : Scene 64 ε FrameCache} {view : View 64 ε}
    {function? : Option (BitVec 64)} {prologue : Prologue} {base : BitVec 64}
    (claimed : scene.unwinder view = .ok (functionUnwinder ε))
    (found : scene.snapshot.answer view (.askFunctionEntry view.pc) = .ok function?)
    (analysed : scene.snapshot.answer view
      (FrameCache.prologueAt (function?.getD 0) view.pc) = .ok prologue)
    (based : scene.snapshot.answer view (FrameCache.baseAfter prologue) = .ok base) :
    scene.cache view =
      .ok (functionUnwinder ε, .ofPrologue prologue base (function?.getD 0)) := by
  have computed : scene.snapshot.answer view ((functionUnwinder ε).cache view.pc) =
      .ok (.ofPrologue prologue base (function?.getD 0)) := by
    change scene.snapshot.answer view (FrameCache.ofFunction view.pc) = _
    unfold FrameCache.ofFunction
    rw [Snapshot.answer_bind, found, ok_bind, Snapshot.answer_bind, analysed, ok_bind,
      Snapshot.answer_bind, based]
    rfl
  rw [Scene.cache_of_unwinder claimed, computed]
  rfl

/-- A frame at which the unwinder for functions looks, past the usual prologue of a known
function. -/
structure FunctionFrame (scene : Scene 64 ε FrameCache) (view : View 64 ε)
    (base function : BitVec 64) : Prop where
  claimed : scene.unwinder view = .ok (functionUnwinder ε)
  pointer : view.register rbp = .ok (Address.toBytes base)
  found : scene.snapshot.answer view (.askFunctionEntry view.pc) = .ok (some function)
  known : function ≠ 0
  prologue : scene.snapshot.Holds function Prologue.wholeCode
  past : function.toNat + 4 ≤ view.pc.toNat

namespace FunctionFrame

variable {scene : Scene 64 ε FrameCache} {view : View 64 ε} {base function : BitVec 64}
  (frame : FunctionFrame scene view base function)
include frame

theorem cache : scene.cache view = .ok (functionUnwinder ε, .pastPrologue base function) := by
  have past : function.toNat + 2 ≤ view.pc.toNat := Nat.le_trans (by omega) frame.past
  exact cache_of_prologue frame.claimed frame.found
    (answer_prologueAt_whole scene.snapshot view frame.known frame.prologue past)
    (answer_baseAfter_whole frame.pointer)

theorem kind : scene.kind view = .ok .normal := by
  unfold Scene.kind
  rw [frame.claimed]
  rfl

theorem frameId (inner : base ≠ 0) : scene.frameId view = .ok (some ⟨base + 16, function⟩) := by
  rw [Scene.frameId, frame.cache]
  exact congrArg Except.ok (if_neg inner)

theorem frameId_zero (outermost : base = 0) : scene.frameId view = .ok none := by
  rw [Scene.frameId, frame.cache]
  exact congrArg Except.ok (if_pos outermost)

end FunctionFrame

theorem size_bind_read {file : RegisterFile} (registers : RegisterCache file) (number : Nat) :
    ((registers.size number).mapError (Error.register (ε := ε)) >>= fun _ =>
        (registers.read number).mapError .register) =
      (registers.read number).mapError .register := by
  cases sized : registers.size number with
  | error error =>
    rw [RegisterCache.read_of_size_error sized]
    rfl
  | ok size => rfl

section Caller

variable {scene : Scene 64 ε FrameCache} {view : View 64 ε} {unwinder : Unwinder 64 ε FrameCache}
  {cache : FrameCache} (computed : scene.cache view = .ok (unwinder, cache))
include computed

theorem callerRegister_of_memory {number : Nat} {address : BitVec 64} {bytes : Bytes}
    (located : unwinder.previousRegister cache number = .memory address)
    (sized : scene.registers.size number = .ok bytes.length)
    (read : scene.snapshot.read address bytes.length = .ok ⟨bytes, rfl⟩) :
    scene.callerRegister view number = .ok bytes := by
  change (scene.registers.size number).mapError Error.register >>= _ = _
  rw [sized]
  change scene.cache view >>= _ = _
  rw [computed, ok_bind]
  simp only [located]
  rw [read]
  rfl

theorem callerRegister_of_register {number other : Nat}
    (located : unwinder.previousRegister cache number = .register other) :
    scene.callerRegister view number =
      (scene.registers.size number).mapError .register >>= fun _ => view.register other := by
  change (scene.registers.size number).mapError Error.register >>= _ = _
  apply congrArg
  funext size
  rw [computed, ok_bind]
  simp only [located]

/-- A computed value is an address, which fills a register of eight bytes. -/
theorem callerRegister_of_constant {number : Nat} {value : BitVec 64}
    (located : unwinder.previousRegister cache number = .constant value)
    (sized : scene.registers.size number = .ok 8) :
    scene.callerRegister view number = .ok (Address.toBytes value) := by
  change (scene.registers.size number).mapError Error.register >>= _ = _
  rw [sized]
  change scene.cache view >>= _ = _
  rw [computed, ok_bind]
  simp only [located]
  rfl

end Caller

section Unwinder

variable {platform : Platform} {registers : RegisterCache registerFile} {snapshot : Snapshot 64 ε}

theorem unwinder_eq (view : View 64 ε) :
    (platform.scene registers snapshot).unwinder view =
      .ok (if platform.config.signals.recognizes snapshot view.pc then
        platform.config.signals.unwinder ε else functionUnwinder ε) := by
  change snapshot.answer view (platform.config.signals.claims view.pc) >>= _ = _
  rw [answer_claims, ok_bind]
  cases platform.config.signals.recognizes snapshot view.pc <;> rfl

theorem unwinder_of_declined {view : View 64 ε}
    (declined : snapshot.answer view (platform.config.signals.claims view.pc) = .ok false) :
    (platform.scene registers snapshot).unwinder view = .ok (functionUnwinder ε) := by
  rw [answer_claims] at declined
  rw [unwinder_eq, Except.ok.inj declined]
  rfl

end Unwinder

section Innermost

variable {platform : Platform} {registers : RegisterCache registerFile} {snapshot : Snapshot 64 ε}
  {pc : BitVec 64}

theorem view_zero (stands : registers.read rip = .ok (Address.toBytes pc)) :
    (platform.scene registers snapshot).view 0 =
      .ok ((platform.scene registers snapshot).innermostView pc) :=
  Scene.view_zero_eq_ok.2 ⟨_, _, stands, Walker.addressOf_toBytes _, rfl⟩

theorem functionFrame_innermost {base function : BitVec 64}
    (pointer : registers.read rbp = .ok (Address.toBytes base))
    (declined : ∀ view, snapshot.answer view (platform.config.signals.claims pc) = .ok false)
    (found : snapshot.functionEntry pc = some function) (known : function ≠ 0)
    (prologue : snapshot.Holds function Prologue.wholeCode)
    (past : function.toNat + 4 ≤ pc.toNat) :
    FunctionFrame (platform.scene registers snapshot)
      ((platform.scene registers snapshot).innermostView pc) base function where
  claimed := unwinder_of_declined (declined _)
  pointer := by
    change (registers.read rbp).mapError Error.register = _
    rw [pointer]
    rfl
  found := congrArg Except.ok found
  known := known
  prologue := prologue
  past := past

end Innermost

namespace FunctionFrame

variable {platform : Platform} {registers : RegisterCache registerFile} {snapshot : Snapshot 64 ε}
  {view : View 64 ε} {base function : BitVec 64}
  (frame : FunctionFrame (platform.scene registers snapshot) view base function)
include frame

theorem callerRegister_rip {pc : BitVec 64}
    (saved : snapshot.Holds (base + 8) (Address.toBytes pc)) :
    (platform.scene registers snapshot).callerRegister view rip = .ok (Address.toBytes pc) :=
  callerRegister_of_memory frame.cache FrameCache.previousRegister_rip rfl (saved.whole rfl)

theorem callerRegister_rbp {pointer : BitVec 64}
    (saved : snapshot.Holds base (Address.toBytes pointer)) :
    (platform.scene registers snapshot).callerRegister view rbp = .ok (Address.toBytes pointer) :=
  callerRegister_of_memory frame.cache FrameCache.previousRegister_rbp rfl (saved.whole rfl)

theorem callerRegister_rsp (room : base + 16 ≠ 0) :
    (platform.scene registers snapshot).callerRegister view rsp =
      .ok (Address.toBytes (base + 16)) :=
  callerRegister_of_constant frame.cache (FrameCache.previousRegister_rsp room) rfl

theorem callerRegister_other {number : Nat} (notPc : number ≠ rip) (notPointer : number ≠ rbp)
    (notSp : number ≠ rsp) :
    (platform.scene registers snapshot).callerRegister view number =
      (registers.size number).mapError .register >>= fun _ => view.register number :=
  callerRegister_of_register frame.cache (FrameCache.previousRegister_other notPc notPointer notSp)

theorem callerPc {pc : BitVec 64} (saved : snapshot.Holds (base + 8) (Address.toBytes pc)) :
    (platform.scene registers snapshot).callerPc view = .ok pc := by
  change (platform.scene registers snapshot).callerRegister view rip >>= _ = _
  rw [frame.callerRegister_rip saved, ok_bind, Walker.addressOf_toBytes]

end FunctionFrame

end Amd64

end Inferior

import Inferior.CallStack.Backtrace
import Inferior.Proofs.Snapshot

/-! The frames of a program that stays as it is, found without keeping anything: whatever is asked
about a frame is computed from the registers and the memory, through all the frames inside it.

This is what a call stack is compared with, which keeps what it has found.
-/

set_option autoImplicit false

namespace Inferior

/-- What a call stack is walked with, in front of a program that stays as it is. -/
structure Scene (w : Nat) (ε κ : Type) where
  architecture : Architecture w
  registers : RegisterCache architecture.file
  unwinders : List (Unwinder w ε κ)
  snapshot : Snapshot w ε

/-- A frame as it looks from inside: all that its unwinder can ask about. -/
structure View (w : Nat) (ε : Type) where
  level : Nat
  pc : BitVec w
  innerKind : Except (Error ε) (Option FrameKind)
  register : Nat → Except (Error ε) Bytes

variable {w : Nat} {ε κ τ α β : Type}

def Walker.scene (walker : Walker w ε κ τ) (snapshot : Snapshot w ε) : Scene w ε κ where
  architecture := walker.architecture
  registers := walker.registers
  unwinders := walker.unwinders
  snapshot := snapshot

namespace Snapshot

def answer (snapshot : Snapshot w ε) (view : View w ε) : FrameQuery w ε α → Except (Error ε) α
  | .done result => result
  | .innerKind resume => snapshot.answer view (resume view.innerKind)
  | .register number resume => snapshot.answer view (resume (view.register number))
  | .memory address length resume =>
    snapshot.answer view (resume ((snapshot.read address length).mapError .target))
  | .functionEntry address resume =>
    snapshot.answer view (resume (snapshot.functionEntry address))

theorem answer_bind (snapshot : Snapshot w ε) (view : View w ε) (query : FrameQuery w ε α)
    (next : α → FrameQuery w ε β) :
    snapshot.answer view (query >>= next) =
      snapshot.answer view query >>= fun value => snapshot.answer view (next value) := by
  change snapshot.answer view (query.bind next) = _
  induction query with
  | done result => cases result <;> rfl
  | innerKind resume ih => exact ih _
  | register number resume ih => exact ih _
  | memory address length resume ih => exact ih _
  | functionEntry address resume ih => exact ih _

end Snapshot

namespace Scene

variable (scene : Scene w ε κ)

def claimant (view : View w ε) : List (Unwinder w ε κ) → Except (Error ε) (Unwinder w ε κ)
  | [] => throw (.noUnwinder view.level)
  | unwinder :: rest => do
    if ← scene.snapshot.answer view (unwinder.claims view.pc) then pure unwinder
    else claimant view rest

def unwinder (view : View w ε) : Except (Error ε) (Unwinder w ε κ) :=
  scene.claimant view scene.unwinders

def kind (view : View w ε) : Except (Error ε) FrameKind := do
  return (← scene.unwinder view).kind

def cache (view : View w ε) : Except (Error ε) (Unwinder w ε κ × κ) := do
  let unwinder ← scene.unwinder view
  return (unwinder, ← scene.snapshot.answer view (unwinder.cache view.pc))

variable {scene} in
theorem cache_of_unwinder {view : View w ε} {unwinder : Unwinder w ε κ}
    (claimed : scene.unwinder view = .ok unwinder) :
    scene.cache view = (scene.snapshot.answer view (unwinder.cache view.pc)).map (unwinder, ·) := by
  unfold cache
  rw [claimed, ok_bind]
  cases scene.snapshot.answer view (unwinder.cache view.pc) <;> rfl

def frameId (view : View w ε) : Except (Error ε) (Option (FrameId w)) := do
  let (unwinder, cache) ← scene.cache view
  return unwinder.frameId cache view.pc

def base (view : View w ε) : Except (Error ε) (BitVec w) := do
  let (unwinder, cache) ← scene.cache view
  return unwinder.base cache

def callerRegister (view : View w ε) (number : Nat) : Except (Error ε) Bytes := do
  let size ← (scene.registers.size number).mapError .register
  let (unwinder, cache) ← scene.cache view
  match unwinder.previousRegister cache number with
  | .constant value =>
    let room := Bytes.zeros (max size (Address.width w))
    match LittleEndian.write? (Address.width w) value.toNat room with
    | some bytes => pure (bytes.take size)
    | none => throw (.internal "address does not fit in buffer")
  | .memory address => do
    let block ← (scene.snapshot.read address size).mapError .target
    return block.val
  | .register other => view.register other

/-- The frame of the thread itself, whose registers are those of the thread. -/
def innermostView (pc : BitVec w) : View w ε where
  level := 0
  pc := pc
  innerKind := .ok none
  register number := (scene.registers.read number).mapError .register

/-- The caller of a frame, whose registers are those that the frame recovers. -/
def callerView (inner : View w ε) (pc : BitVec w) : View w ε where
  level := inner.level + 1
  pc := pc
  innerKind := do return some (← scene.unwinder inner).kind
  register := scene.callerRegister inner

def callerPc (inner : View w ε) : Except (Error ε) (BitVec w) := do
  Walker.addressOf (← scene.callerRegister inner scene.architecture.programCounter)

def innermost : Except (Error ε) (View w ε) := do
  let bytes ← (scene.registers.read scene.architecture.programCounter).mapError .register
  return scene.innermostView (← Walker.addressOf bytes)

def view : (level : Nat) → Except (Error ε) (View w ε)
  | 0 => scene.innermost
  | level + 1 => do
    let inner ← view level
    return scene.callerView inner (← scene.callerPc inner)

variable {scene}

theorem view_zero_eq_ok {view : View w ε} :
    scene.view 0 = .ok view ↔
      ∃ bytes pc, scene.registers.read scene.architecture.programCounter = .ok bytes ∧
        (Walker.addressOf bytes : Except (Error ε) _) = .ok pc ∧ view = scene.innermostView pc := by
  constructor
  · intro found
    obtain ⟨bytes, read, rest⟩ := bind_eq_ok.1 found
    obtain ⟨pc, address, same⟩ := bind_eq_ok.1 rest
    refine ⟨bytes, pc, ?_, address, (Except.ok.inj same).symm⟩
    cases content : scene.registers.read scene.architecture.programCounter with
    | error error => simp [content] at read
    | ok bytes' => simpa [content] using read
  · rintro ⟨bytes, pc, read, address, rfl⟩
    simp only [Scene.view, innermost, read, mapError_ok, ok_bind, address]
    rfl

theorem view_succ_eq_ok {level : Nat} {view : View w ε} :
    scene.view (level + 1) = .ok view ↔
      ∃ inner pc, scene.view level = .ok inner ∧ scene.callerPc inner = .ok pc ∧
        view = scene.callerView inner pc := by
  constructor
  · intro found
    obtain ⟨inner, seen, rest⟩ := bind_eq_ok.1 found
    obtain ⟨pc, recovered, same⟩ := bind_eq_ok.1 rest
    exact ⟨inner, pc, seen, recovered, (Except.ok.inj same).symm⟩
  · rintro ⟨inner, pc, seen, recovered, rfl⟩
    simp only [Scene.view, seen, recovered, ok_bind]
    rfl

theorem level_of_view {level : Nat} {view : View w ε} (seen : scene.view level = .ok view) :
    view.level = level := by
  induction level generalizing view with
  | zero =>
    obtain ⟨_, _, _, _, rfl⟩ := view_zero_eq_ok.1 seen
    rfl
  | succ level ih =>
    obtain ⟨inner, _, known, _, rfl⟩ := view_succ_eq_ok.1 seen
    exact congrArg Nat.succ (ih known)

variable (scene)

def callerLocation : (level number : Nat) → Except (Error ε) (RegisterLocation w)
  | level, number => do
    let (unwinder, cache) ← scene.cache (← scene.view level)
    match unwinder.previousRegister cache number with
    | .constant _ => pure .nowhere
    | .memory address => pure (.memory address)
    | .register other =>
      match level with
      | 0 => pure (.register other)
      | level + 1 => callerLocation level other

variable {scene} in
theorem callerLocation_of_memory {level number : Nat} {view : View w ε} {unwinder : Unwinder w ε κ}
    {cache : κ} {address : BitVec w} (seen : scene.view level = .ok view)
    (computed : scene.cache view = .ok (unwinder, cache))
    (located : unwinder.previousRegister cache number = .memory address) :
    scene.callerLocation level number = .ok (.memory address) := by
  cases level with
  | zero =>
    unfold callerLocation
    rw [seen, ok_bind, computed, ok_bind]
    simp only [located]
    rfl
  | succ level =>
    unfold callerLocation
    rw [seen, ok_bind, computed, ok_bind]
    simp only [located]
    rfl

def repeatsSavedPc (innerKind : FrameKind) (level : Nat) : Except (Error ε) Bool := do
  if innerKind ≠ .normal then return false
  if (← scene.kind (← scene.view (level + 1))) ≠ .normal then return false
  let pc := scene.architecture.programCounter
  let location ← scene.callerLocation (level + 1) pc
  if location = .nowhere then return false
  return location = (← scene.callerLocation level pc)

def misplaced? (frameId : FrameId w) (level : Nat) : Except (Error ε) (Option UnwindStop) := do
  let innerKind ← scene.kind (← scene.view level)
  if let some innerId ← scene.frameId (← scene.view level) then
    if innerKind ≠ .signalTrampoline ∧
        scene.architecture.innerThan frameId.stack innerId.stack then
      return some .insideCallee
    if frameId.same innerId then return some .sameAsCallee
  if ← scene.repeatsSavedPc innerKind level then return some .repeatedPc
  return none

variable {scene} in
/-- A frame that lies further out than the one it called is not misplaced. -/
theorem misplaced?_eq_none {level : Nat} {inner : View w ε} {kind : FrameKind}
    {frameId innerId : FrameId w} (seen : scene.view level = .ok inner)
    (known : scene.kind inner = .ok kind) (identified : scene.frameId inner = .ok (some innerId))
    (further : kind ≠ .signalTrampoline →
      scene.architecture.innerThan frameId.stack innerId.stack = false)
    (different : frameId.stack ≠ innerId.stack)
    (fresh : scene.repeatsSavedPc kind level = .ok false) :
    scene.misplaced? frameId level = .ok none := by
  have outside : ¬ (kind ≠ .signalTrampoline ∧
      scene.architecture.innerThan frameId.stack innerId.stack = true) := by
    rintro ⟨called, inside⟩
    rw [further called] at inside
    cases inside
  have distinct : ¬ frameId.same innerId = true := fun same => different (eq_of_beq same)
  unfold misplaced?
  rw [seen, ok_bind, known, ok_bind, ok_bind, identified, ok_bind]
  simp only [if_neg outside]
  rw [if_neg distinct, fresh]
  rfl

def stopAt? (level : Nat) : Except (Error ε) (Option UnwindStop) := do
  let view ← scene.view level
  if level > 0 ∧ view.pc = 0 then return some .zeroPc
  match ← scene.frameId view, level with
  | none, _ => return some .outermost
  | some _, 0 => return none
  | some frameId, level + 1 => scene.misplaced? frameId level

section Stop

variable {scene} {view : View w ε}

theorem stopAt?_zero (seen : scene.view 0 = .ok view) :
    scene.stopAt? 0 = scene.frameId view >>= fun frameId =>
      .ok (if frameId.isNone then some .outermost else none) := by
  unfold stopAt?
  rw [seen, ok_bind, if_neg (fun both => Nat.lt_irrefl 0 both.1)]
  apply congrArg
  funext frameId
  cases frameId <;> rfl

theorem stopAt?_succ {level : Nat} (seen : scene.view (level + 1) = .ok view)
    (nonzero : view.pc ≠ 0) :
    scene.stopAt? (level + 1) = scene.frameId view >>= fun frameId =>
      match frameId with
      | none => .ok (some .outermost)
      | some frameId => scene.misplaced? frameId level := by
  unfold stopAt?
  rw [seen, ok_bind, if_neg (nonzero ·.2)]
  apply congrArg
  funext frameId
  cases frameId <;> rfl

end Stop

def caller (level : Nat) : Except (Error ε) Caller := do
  if let some reason ← scene.stopAt? level then return .stop reason
  let _ ← scene.view (level + 1)
  return .level (level + 1)

variable {scene} in
theorem caller_of_stop {level : Nat} {reason : UnwindStop}
    (stop : scene.stopAt? level = .ok (some reason)) : scene.caller level = .ok (.stop reason) := by
  rw [caller, stop]
  rfl

variable {scene} in
theorem caller_of_error {level : Nat} {error : Error ε}
    (failed : scene.stopAt? level = .error error) :
    scene.caller level = .error error := by
  rw [caller, failed]
  rfl

variable {scene} in
theorem caller_of_no_stop {level : Nat} (goesOn : scene.stopAt? level = .ok none) :
    scene.caller level = scene.view (level + 1) >>= fun _ => .ok (.level (level + 1)) := by
  unfold caller
  rw [goesOn]
  rfl

variable {scene} in
theorem view_of_caller {level outer : Nat} (found : scene.caller level = .ok (.level outer)) :
    outer = level + 1 ∧ ∃ view, scene.view outer = .ok view := by
  cases stop : scene.stopAt? level with
  | error error => simp [caller_of_error stop] at found
  | ok stop? =>
    cases stop? with
    | some reason => simp [caller_of_stop stop] at found
    | none =>
      rw [caller_of_no_stop stop] at found
      obtain ⟨view, seen, same⟩ := bind_eq_ok.1 found
      cases same
      exact ⟨rfl, view, seen⟩

def entry (view : View w ε) : BacktraceEntry w where
  level := view.level
  pc := view.pc
  kind := (scene.kind view).toOption
  frameId := (scene.frameId view).toOption.join

def backtraceFrom (level : Nat) : (limit : Nat) → Except (Error ε) (Backtrace w ε)
  | 0 => pure (.stopped .limit)
  | limit + 1 => do
    let entry := scene.entry (← scene.view level)
    match scene.caller level with
    | .ok (.level outer) => return (← backtraceFrom outer limit).push entry
    | .ok (.stop reason) => return (Backtrace.stopped reason).push entry
    | .error error => return (Backtrace.failed error).push entry

variable {scene} in
/-- A backtrace from a frame that is found does not fail; what fails on the way cuts it short. -/
theorem backtraceFrom_of_view {level : Nat} {view : View w ε} (seen : scene.view level = .ok view)
    (limit : Nat) : ∃ backtrace, scene.backtraceFrom level limit = .ok backtrace := by
  -- Each frame of the walk is found when its turn comes, as the caller of the one before.
  induction limit generalizing level view with
  | zero => exact ⟨_, rfl⟩
  | succ limit ih =>
    unfold backtraceFrom
    rw [seen, ok_bind]
    cases called : scene.caller level with
    | error error => exact ⟨_, rfl⟩
    | ok caller =>
      cases caller with
      | stop reason => exact ⟨_, rfl⟩
      | level outer =>
        obtain ⟨_, view', seen'⟩ := view_of_caller called
        obtain ⟨backtrace, traced⟩ := ih seen'
        simp only [traced]
        exact ⟨_, rfl⟩

def backtrace (limit : Nat) : Except (Error ε) (Backtrace w ε) := scene.backtraceFrom 0 limit

end Scene

end Inferior

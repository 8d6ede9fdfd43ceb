import Inferior.CallStack

/-! The caller of a frame. A frame has none if it is the outermost one, or if it does not lie
where a caller has to lie: then the stack is taken to be corrupt, and the walk ends there.
-/

set_option autoImplicit false

namespace Inferior

inductive RegisterLocation (w : Nat) where
  | memory (address : BitVec w)
  | register (number : Nat)
  | nowhere
  deriving DecidableEq, Repr

namespace Walker

variable {w : Nat} {ε κ τ : Type}

/-- Where a register of the caller of a frame is stored, followed inwards through the frames
that leave it alone. -/
def callerLocation (walker : Walker w ε κ τ) :
    (level number : Nat) → Walk w ε κ τ (RegisterLocation w)
  | level, number => do
    let (unwinder, cache) ← walker.cacheAt (walker.inner level) level
    match unwinder.previousRegister cache number with
    | .constant _ => pure .nowhere
    | .memory address => pure (.memory address)
    | .register other =>
      match level with
      | 0 => pure (.register other)
      | level + 1 => walker.callerLocation level other

/-- Whether a frame finds its caller's pc in the same place as the frame that it called. Only
two normal frames are compared. -/
def repeatsSavedPc (walker : Walker w ε κ τ) (innerKind : FrameKind) (level : Nat) :
    Walk w ε κ τ Bool := do
  if innerKind ≠ .normal then return false
  if (← walker.kindAt (level + 1)) ≠ .normal then return false
  let pc := walker.architecture.programCounter
  let location ← walker.callerLocation (level + 1) pc
  if location = .nowhere then return false
  return location = (← walker.callerLocation level pc)

/-- Whether the frame one level out of the given one, with the given id, cannot be its caller. A
signal handler may run on a stack of its own, so a trampoline's caller may lie anywhere. -/
def misplaced? (walker : Walker w ε κ τ) (frameId : FrameId w) (level : Nat) :
    Walk w ε κ τ (Option UnwindStop) := do
  let innerKind ← walker.kindAt level
  if let some innerId ← walker.idAt level then
    if innerKind ≠ .signalTrampoline ∧
        walker.architecture.innerThan frameId.stack innerId.stack then
      return some .insideCallee
    if frameId.same innerId then return some .sameAsCallee
  if ← walker.repeatsSavedPc innerKind level then return some .repeatedPc
  return none

def stopAt? (walker : Walker w ε κ τ) (level : Nat) : Walk w ε κ τ (Option UnwindStop) := do
  if level > 0 ∧ (← known level).pc = 0 then return some .zeroPc
  match ← walker.idAt level, level with
  | none, _ => return some .outermost
  | some _, 0 => return none
  | some frameId, level + 1 => walker.misplaced? frameId level

def findCaller (walker : Walker w ε κ τ) (level : Nat) : Walk w ε κ τ Caller := do
  if let some reason ← walker.stopAt? level then return .stop reason
  let bytes ← walker.callerRegister level walker.architecture.programCounter
  let pc ← Attempt.ofExcept (addressOf bytes)
  if (← get).frames.size ≠ level + 1 then throw (.internal "frame chain out of sync")
  modify fun stack => { stack with frames := stack.frames.push { pc } }
  return .level (level + 1)

def caller (walker : Walker w ε κ τ) (level : Nat) : Walk w ε κ τ Caller := do
  match (← known level).caller with
  | some caller => pure caller
  | none =>
    let caller ← walker.findCaller level
    updateFrame level ({ · with caller := some caller })
    return caller

end Walker

end Inferior

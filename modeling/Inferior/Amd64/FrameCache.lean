import Inferior.Amd64.Prologue
import Inferior.Frame.Query

/-! What unwinding keeps of a frame, and the unwinder for the frames of functions. -/

set_option autoImplicit false

namespace Inferior.Amd64

structure FrameCache where
  /-- The address of the saved `rbp`, or where it would be without a frame pointer. -/
  base : BitVec 64
  /-- The entry address of the function, or zero if it is not known. -/
  function : BitVec 64
  spOffset : Int
  saved : SavedRegisters (BitVec 64)
  /-- The caller's stack pointer, or zero if it is found like any other register. -/
  callerSp : BitVec 64
  frameless : Bool
  deriving DecidableEq, Repr

namespace FrameCache

def previousRegister (cache : FrameCache) (number : Nat) : PreviousRegister 64 :=
  if number = rsp ∧ cache.callerSp ≠ 0 then .constant cache.callerSp
  else match cache.saved.get? number with
    | some address => .memory address
    | none => .register number

variable {ε : Type}

/-- What the prologue of the function of the frame at `pc` has done, if the function is known. -/
def prologueAt (function pc : BitVec 64) : FrameQuery 64 ε Prologue := do
  if function = 0 then return {}
  let (stop, prologue) ← Prologue.analyze .tryMemory function pc {}
  match stop with
  | .ok _ => return prologue
  | .error error => .fail error

/-- The base of a frame after a prologue. Without a frame pointer, the stack pointer is assumed not
to have moved since. -/
def baseAfter (prologue : Prologue) : FrameQuery 64 ε (BitVec 64) := do
  if prologue.frameless then return (← .askAddress rsp) + BitVec.ofInt 64 prologue.spOffset
  else .askAddress rbp

/-- The cache of a function's frame. The return address lies just above the saved `rbp`. -/
def ofFunction (pc : BitVec 64) : FrameQuery 64 ε FrameCache := do
  let function := (← .askFunctionEntry pc).getD 0
  let prologue ← prologueAt function pc
  let base ← baseAfter prologue
  return {
    base, function
    spOffset := prologue.spOffset
    saved := (prologue.saved.set rip 8).toAddresses base
    callerSp := base + 16
    frameless := prologue.frameless }

end FrameCache

/-- The unwinder for functions with the usual prologue, and for functions without a frame pointer
that have not moved the stack pointer. It claims every frame, so it has to be the last one. The
outermost frame is the one with a zero frame pointer. -/
def functionUnwinder (ε : Type) : Unwinder 64 ε FrameCache where
  kind := .normal
  claims _ := pure true
  cache := FrameCache.ofFunction
  frameId cache _ := if cache.base = 0 then none else some ⟨cache.base + 16, cache.function⟩
  previousRegister := FrameCache.previousRegister
  base := FrameCache.base

end Inferior.Amd64

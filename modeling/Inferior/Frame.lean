/-! Stack frames: their identity and kind, where the caller's registers are found, and why
there is no caller.
-/

set_option autoImplicit false

namespace Inferior

/-- The identity of a frame: its canonical address on the stack, and the address of the code
that it belongs to. -/
structure FrameId (w : Nat) where
  stack : BitVec w
  code : BitVec w
  deriving DecidableEq, Repr

/-- Two ids name the same frame if they have the same stack address, whatever their code. -/
def FrameId.same {w : Nat} (first second : FrameId w) : Bool := first.stack == second.stack

inductive FrameKind where
  | normal
  /-- A frame set up by the kernel to deliver a signal. -/
  | signalTrampoline
  deriving DecidableEq, Repr

def FrameKind.name : FrameKind → String
  | .normal => "Normal"
  | .signalTrampoline => "Sigtramp"

inductive PreviousRegister (w : Nat) where
  /-- A computed value, which is not stored anywhere. -/
  | constant (value : BitVec w)
  | memory (address : BitVec w)
  | register (number : Nat)
  deriving DecidableEq, Repr

inductive UnwindStop where
  /-- The frame has no id: it is the outermost one. -/
  | outermost
  /-- The frame lies inside the frame that it called, so the stack is probably corrupt. -/
  | insideCallee
  /-- The frame has the id of the frame that it called, so the stack is probably corrupt. -/
  | sameAsCallee
  /-- The frame and the frame that it called find their callers' pc in the same place. -/
  | repeatedPc
  | zeroPc
  | noUnwinder
  | limit
  | error
  deriving DecidableEq, Repr

def UnwindStop.name : UnwindStop → String
  | .outermost => "NullId"
  | .insideCallee => "InnerId"
  | .sameAsCallee => "SameId"
  | .repeatedPc => "NoSavedPc"
  | .zeroPc => "ZeroPc"
  | .noUnwinder => "NoUnwinder"
  | .limit => "Limit"
  | .error => "Error"

inductive Caller where
  | level (level : Nat)
  | stop (reason : UnwindStop)
  deriving DecidableEq, Repr

inductive CacheStage (κ : Type) where
  | uncomputed
  | computing
  | ready (cache : κ)
  deriving DecidableEq, Repr

end Inferior

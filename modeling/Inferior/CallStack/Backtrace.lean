import Inferior.CallStack.Caller

/-! Backtraces: the frames of a call stack from the innermost one outwards, up to a limit. An
error does not lose the frames found before it.
-/

set_option autoImplicit false

namespace Inferior

structure BacktraceEntry (w : Nat) where
  level : Nat
  pc : BitVec w
  kind : Option FrameKind
  frameId : Option (FrameId w)
  deriving DecidableEq, Repr

structure Backtrace (w : Nat) (ε : Type) where
  frames : List (BacktraceEntry w)
  stop : UnwindStop
  error : Option (Error ε)

namespace Backtrace

variable {w : Nat} {ε : Type}

def stopped (reason : UnwindStop) : Backtrace w ε := ⟨[], reason, none⟩

def failed (error : Error ε) : Backtrace w ε :=
  let reason := match error with
    | .noUnwinder _ => .noUnwinder
    | _ => .error
  ⟨[], reason, some error⟩

def push (entry : BacktraceEntry w) (backtrace : Backtrace w ε) : Backtrace w ε :=
  { backtrace with frames := entry :: backtrace.frames }

end Backtrace

namespace Walker

variable {w : Nat} {ε κ τ : Type}

/-- The entry of a frame, without what cannot be found out. -/
def entry (walker : Walker w ε κ τ) (level : Nat) : Walk w ε κ τ (BacktraceEntry w) := do
  let pc ← pcAt level
  let kind ← (walker.kindAt level).result
  let frameId ← (walker.idAt level).result
  return { level, pc, kind := kind.toOption, frameId := frameId.toOption.join }

def backtraceFrom (walker : Walker w ε κ τ) (level : Nat) :
    (limit : Nat) → Walk w ε κ τ (Backtrace w ε)
  | 0 => pure (.stopped .limit)
  | limit + 1 => do
    let entry ← walker.entry level
    match ← (walker.caller level).result with
    | .ok (.level outer) => return (← walker.backtraceFrom outer limit).push entry
    | .ok (.stop reason) => return (Backtrace.stopped reason).push entry
    | .error error => return (Backtrace.failed error).push entry

def backtrace (walker : Walker w ε κ τ) (limit : Nat) : Walk w ε κ τ (Backtrace w ε) :=
  walker.backtraceFrom 0 limit

end Walker

end Inferior

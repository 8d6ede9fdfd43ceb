import Inferior.AddressRange
import Inferior.Amd64.FrameCache

/-! Signal trampolines. To deliver a signal, the kernel saves the interrupted registers on the
stack and calls the handler with a return address in a small piece of code that asks the kernel
to go on where the program was interrupted. The caller's registers of such a frame are the saved
ones.
-/

set_option autoImplicit false

namespace Inferior.Amd64

inductive ContextLocator where
  /-- At an offset from the stack pointer of the trampoline's frame. -/
  | stack (offset : BitVec 64)
  /-- At an offset from a register of the trampoline's frame. -/
  | register (number : Nat) (offset : BitVec 64)
  deriving DecidableEq, Repr

/-- The code of a trampoline, and the offsets in it at which the pc of its frame may be. -/
structure TrampolineCode where
  code : Bytes
  entries : List Nat
  deriving DecidableEq, Repr

namespace TrampolineCode

variable {m : Type → Type} [Monad m] {ε : Type}

/-- The start of a copy of the code that has `pc` at one of the given offsets, of which only those
whose byte of code is `opcode` are tried. -/
def locateFrom (trampoline : TrampolineCode)
    (read : BitVec 64 → (length : Nat) → m (Except ε (Block length))) (pc : BitVec 64)
    (opcode : Option UInt8) : List Nat → m (Option (BitVec 64))
  | [] => return none
  | entry :: rest => do
    if trampoline.code[entry]? ≠ opcode then trampoline.locateFrom read pc opcode rest
    else
      let start := pc - BitVec.ofNat 64 entry
      match ← read start trampoline.code.length with
      | .ok block =>
        if block.val = trampoline.code then return some start
        else trampoline.locateFrom read pc opcode rest
      | .error _ => trampoline.locateFrom read pc opcode rest

/-- The start of the copy of the code that `pc` points into. Memory that cannot be read matches
nothing. -/
def locate (trampoline : TrampolineCode)
    (read : BitVec 64 → (length : Nat) → m (Except ε (Block length))) (pc : BitVec 64) :
    m (Option (BitVec 64)) := do
  match ← read pc 1 with
  | .ok opcode => trampoline.locateFrom read pc opcode.val.head? trampoline.entries
  | .error _ => return none

end TrampolineCode

structure SignalLayout where
  context : Option ContextLocator := none
  /-- Offsets of the saved registers in the context, by register number. -/
  offsets : List (Option (BitVec 64)) := []
  /-- Where the trampoline is, if that is fixed. -/
  range : Option AddressRange := none
  code : Option TrampolineCode := none
  deriving DecidableEq, Repr

namespace SignalLayout

variable {ε : Type}

def claims (layout : SignalLayout) (pc : BitVec 64) : FrameQuery 64 ε Bool := do
  if layout.context.isNone then return false
  if let some code := layout.code then
    if (← code.locate .tryMemory pc).isSome then return true
  return layout.range.any (·.contains pc.toNat)

def contextAddress : ContextLocator → FrameQuery 64 ε (BitVec 64)
  | .stack offset => do return (← .askAddress rsp) + offset
  | .register number offset => do return (← .askAddress number) + offset

/-- The cache of a trampoline's frame, which looks like one on entry to a function. -/
def frameCache (layout : SignalLayout) : FrameQuery 64 ε FrameCache := do
  let some locator := layout.context
    | .fail (.internal "signal trampoline without a sigcontext")
  let sp ← .askAddress rsp
  let context ← contextAddress locator
  let entry : Prologue := {}
  return {
    base := sp - 8
    function := 0
    spOffset := entry.spOffset
    saved := (SavedRegisters.ofTable layout.offsets).map (context + ·)
    callerSp := 0
    frameless := entry.frameless }

/-- The unwinder for signal trampolines. It has to come before the one for functions. -/
def unwinder (ε : Type) (layout : SignalLayout) : Unwinder 64 ε FrameCache where
  kind := .signalTrampoline
  claims := layout.claims
  cache _ := layout.frameCache
  frameId cache pc := some ⟨cache.base + 16, pc⟩
  previousRegister := FrameCache.previousRegister
  base := FrameCache.base

end SignalLayout

end Inferior.Amd64

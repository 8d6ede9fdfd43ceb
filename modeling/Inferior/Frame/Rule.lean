import Inferior.AddressRange
import Inferior.Frame.Query

/-! Unwinders described by rules, whose frame cache is one address: the frame's base.

A rule computes an address from what is known of the frame. The same unwinder serves any
architecture, with arithmetic modulo the address width.
-/

set_option autoImplicit false

namespace Inferior

inductive RuleSource (w : Nat) where
  | constant
  | register (number : Nat)
  /-- The address stored in memory at an offset from a register's value. -/
  | load (number : Nat) (offset : BitVec w)
  /-- The entry address of the function, or zero. -/
  | functionEntry
  | addressInBlock
  | pc
  /-- Zero without an inner frame, one for a normal one and two for a signal trampoline. -/
  | innerKind
  | fail (text : String)
  deriving DecidableEq, Repr

structure Rule (w : Nat) where
  source : RuleSource w
  addend : BitVec w
  deriving DecidableEq, Repr

namespace RuleSource

variable {w : Nat} {ε : Type}

def loadAddress (address : BitVec w) : FrameQuery w ε (BitVec w) := do
  let block ← FrameQuery.askMemory address (Address.width w)
  match Address.ofBytes? block.val with
  | some loaded => pure loaded
  | none => FrameQuery.fail (.internal "register value does not fit in an address")

def eval (pc : BitVec w) : RuleSource w → FrameQuery w ε (BitVec w)
  | constant => pure 0
  | register number => .askAddress number
  | load number offset => do loadAddress ((← .askAddress number) + offset)
  | functionEntry => do return (← .askFunctionEntry pc).getD 0
  | addressInBlock => .askAddressInBlock pc
  | .pc => pure pc
  | innerKind => do
    return match ← .askInnerKind with
      | none => 0
      | some .normal => 1
      | some .signalTrampoline => 2
  | fail text => .fail (.internal text)

end RuleSource

def Rule.eval {w : Nat} {ε : Type} (pc : BitVec w) (rule : Rule w) : FrameQuery w ε (BitVec w) := do
  return (← rule.source.eval pc) + rule.addend

/-- Where a rule finds a caller's register, in terms of the frame's base. -/
inductive SaveRule (w : Nat) where
  | relative (offset : BitVec w)
  | absolute (address : BitVec w)
  /-- The base plus a number. -/
  | computed (offset : BitVec w)
  | register (number : Nat)
  deriving DecidableEq, Repr

def SaveRule.locate {w : Nat} (base : BitVec w) : SaveRule w → PreviousRegister w
  | relative offset => .memory (base + offset)
  | absolute address => .memory address
  | computed offset => .constant (base + offset)
  | register number => .register number

structure RuleUnwinder (w : Nat) where
  kind : FrameKind
  /-- A rule whose value must lie in one of the ranges for a frame to be claimed; without it all
  frames are claimed. -/
  claim : Option (Rule w)
  claimed : List AddressRange
  base : Rule w
  /-- The base of the frames that have no id. -/
  nullBase : BitVec w
  idAddend : BitVec w
  /-- Registers that are not listed are unchanged. -/
  saved : List (Nat × SaveRule w)

namespace RuleUnwinder

variable {w : Nat}

def unwinder (ε : Type) (rules : RuleUnwinder w) : Unwinder w ε (BitVec w) where
  kind := rules.kind
  claims pc :=
    match rules.claim with
    | none => pure true
    | some rule => do
      let value ← rule.eval pc
      return rules.claimed.any (·.contains value.toNat)
  cache pc := rules.base.eval pc
  frameId base pc := if base = rules.nullBase then none else some ⟨base + rules.idAddend, pc⟩
  previousRegister base number :=
    match rules.saved.lookup number with
    | some rule => rule.locate base
    | none => .register number
  base base := base

end RuleUnwinder

end Inferior

import Inferior.Architecture
import Inferior.Error
import Inferior.Frame

/-! Questions about one frame. An unwinder is written as a series of questions on the frame
that it looks at; what answers them is left open. A failed answer is handed to the unwinder,
which may go on without it.
-/

set_option autoImplicit false

namespace Inferior

inductive FrameQuery (w : Nat) (ε α : Type) where
  | done (result : Except (Error ε) α)
  /-- The kind of the next inner frame; the innermost frame has none. -/
  | innerKind (resume : Except (Error ε) (Option FrameKind) → FrameQuery w ε α)
  | register (number : Nat) (resume : Except (Error ε) Bytes → FrameQuery w ε α)
  | memory (address : BitVec w) (length : Nat)
      (resume : Except (Error ε) (Block length) → FrameQuery w ε α)
  /-- The entry address of the function that contains an address. -/
  | functionEntry (address : BitVec w) (resume : Option (BitVec w) → FrameQuery w ε α)

namespace FrameQuery

variable {w : Nat} {ε α β γ : Type}

def bind (query : FrameQuery w ε α) (next : α → FrameQuery w ε β) : FrameQuery w ε β :=
  match query with
  | done (.ok value) => next value
  | done (.error error) => done (.error error)
  | innerKind resume => innerKind fun answer => (resume answer).bind next
  | register number resume => register number fun answer => (resume answer).bind next
  | memory address length resume => memory address length fun answer => (resume answer).bind next
  | functionEntry address resume => functionEntry address fun answer => (resume answer).bind next

theorem bind_done (query : FrameQuery w ε α) :
    (query.bind fun value => done (.ok value)) = query := by
  induction query with
  | done result => cases result <;> rfl
  | innerKind resume ih => exact congrArg innerKind (funext ih)
  | register number resume ih => exact congrArg (register number) (funext ih)
  | memory address length resume ih => exact congrArg (memory address length) (funext ih)
  | functionEntry address resume ih => exact congrArg (functionEntry address) (funext ih)

theorem bind_assoc (query : FrameQuery w ε α) (next : α → FrameQuery w ε β)
    (last : β → FrameQuery w ε γ) :
    (query.bind next).bind last = query.bind fun value => (next value).bind last := by
  induction query with
  | done result => cases result <;> rfl
  | innerKind resume ih => exact congrArg innerKind (funext ih)
  | register number resume ih => exact congrArg (register number) (funext ih)
  | memory address length resume ih => exact congrArg (memory address length) (funext ih)
  | functionEntry address resume ih => exact congrArg (functionEntry address) (funext ih)

instance : Monad (FrameQuery w ε) where
  pure value := done (.ok value)
  bind := bind

instance : LawfulMonad (FrameQuery w ε) :=
  LawfulMonad.mk' (FrameQuery w ε) bind_done (fun _ _ => rfl) bind_assoc

def fail (error : Error ε) : FrameQuery w ε α := done (.error error)

def askInnerKind : FrameQuery w ε (Option FrameKind) := innerKind done

def askRegister (number : Nat) : FrameQuery w ε Bytes := register number done

/-- Read memory, and get a failure as a value. -/
def tryMemory (address : BitVec w) (length : Nat) :
    FrameQuery w ε (Except (Error ε) (Block length)) :=
  memory address length fun answer => done (.ok answer)

def askMemory (address : BitVec w) (length : Nat) : FrameQuery w ε (Block length) :=
  memory address length done

def askAddress (number : Nat) : FrameQuery w ε (BitVec w) := do
  match Address.ofBytes? (← askRegister number) with
  | some address => pure address
  | none => fail (.internal "register value does not fit in an address")

/-- An address inside the function of the frame at `pc`. The pc of a caller is a return
address, which may lie just past the end of a function that ends in a call. -/
def askAddressInBlock (pc : BitVec w) : FrameQuery w ε (BitVec w) := do
  return if (← askInnerKind) = some .normal then pc - 1 else pc

def askFunctionEntry (pc : BitVec w) : FrameQuery w ε (Option (BitVec w)) := do
  functionEntry (← askAddressInBlock pc) fun answer => done (.ok answer)

end FrameQuery

/-- An unwinder for frames of one kind, which keeps a cache of type `κ` for each frame. -/
structure Unwinder (w : Nat) (ε κ : Type) where
  kind : FrameKind
  claims : BitVec w → FrameQuery w ε Bool
  /-- What the unwinder has to know of the frame at a pc to answer all that follows. -/
  cache : BitVec w → FrameQuery w ε κ
  /-- The id of the frame at a pc; the outermost frame has none. -/
  frameId : κ → BitVec w → Option (FrameId w)
  previousRegister : κ → Nat → PreviousRegister w
  base : κ → BitVec w

end Inferior

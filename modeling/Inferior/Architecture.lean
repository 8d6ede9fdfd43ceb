import Inferior.Bytes.LittleEndian
import Inferior.RegisterFile

/-! What stack walking has to know of an architecture: the width of addresses, the registers
and the direction in which the stack grows.
-/

set_option autoImplicit false

namespace Inferior

/-- An architecture with addresses of `w` bits. Address arithmetic wraps. -/
structure Architecture (w : Nat) where
  file : RegisterFile
  programCounter : Nat
  stackPointer : Nat
  /-- Whether a stack address belongs to a more recent frame than another. -/
  innerThan : BitVec w → BitVec w → Bool := fun inner outer => inner < outer

structure Architecture.OrdersFrames {w : Nat} (architecture : Architecture w) : Prop where
  irrefl (address : BitVec w) : architecture.innerThan address address = false
  trans {first second third : BitVec w} (one : architecture.innerThan first second)
    (two : architecture.innerThan second third) : architecture.innerThan first third
  total {first second : BitVec w} (different : first ≠ second)
    (notInner : architecture.innerThan second first = false) : architecture.innerThan first second

namespace Architecture

variable {w : Nat} {architecture : Architecture w}

theorem ordersFrames_of_downward
    (downward : ∀ inner outer, architecture.innerThan inner outer = decide (inner < outer)) :
    architecture.OrdersFrames where
  irrefl address := by simp [downward]
  trans {first second third} one two := by
    simp only [downward, decide_eq_true_eq] at one two ⊢
    exact BitVec.lt_trans one two
  total {first second} different notInner := by
    simp only [downward, decide_eq_true_eq, decide_eq_false_iff_not] at notInner ⊢
    exact BitVec.lt_of_le_ne (BitVec.not_lt.1 notInner) different

/-- Frames stay ordered if the stack grows the other way. -/
theorem OrdersFrames.turned (orders : architecture.OrdersFrames) :
    { architecture with innerThan := fun inner outer => architecture.innerThan outer inner
      : Architecture w }.OrdersFrames where
  irrefl := orders.irrefl
  trans one two := orders.trans two one
  total different notInner := orders.total different.symm notInner

end Architecture

namespace Address

variable {w : Nat}

def width (w : Nat) : Nat := w / 8

/-- The address in the first bytes of a buffer; a short buffer is zero-extended. -/
def ofBytes? (bytes : Bytes) : Option (BitVec w) :=
  (LittleEndian.read? (width w) (bytes.take (width w))).map (BitVec.ofNat w)

/-- Every buffer holds an address, since bytes beyond the width are left alone. -/
theorem ofBytes?_eq_some (bytes : Bytes) :
    ofBytes? bytes = some (BitVec.ofNat w (LittleEndian.value (bytes.take (width w)))) := by
  have beyond : (bytes.take (width w)).drop (width w) = [] :=
    List.drop_eq_nil_of_le (List.length_take_le _ _)
  have whole : (bytes.take (width w)).take (width w) = bytes.take (width w) :=
    List.take_of_length_le (List.length_take_le _ _)
  rw [ofBytes?, LittleEndian.read?, beyond, whole]
  rfl

def toBytes (address : BitVec w) : Bytes := LittleEndian.digits (width w) address.toNat

end Address

end Inferior

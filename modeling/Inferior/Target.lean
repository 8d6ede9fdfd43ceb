import Inferior.Attempt
import Inferior.Bytes

/-! Access to the memory of a stopped program. -/

set_option autoImplicit false

namespace Inferior

/-- Why an access to memory failed. A fatal failure carries the target's own kind of error. -/
inductive TargetError (ε : Type) where
  | nonFatal
  | io (text : String)
  | errno (code : Nat)
  | fatal (error : ε)
  deriving DecidableEq, Repr

def TargetError.message {ε : Type} (describe : ε → String) : TargetError ε → String
  | .nonFatal => "non-fatal target error"
  | .io text => s!"target I/O error: {text}"
  | .errno code => s!"target error (errno {code})"
  | .fatal error => "fatal target error: " ++ describe error

abbrev Block (length : Nat) := { bytes : Bytes // bytes.length = length }

/-- A stopped program whose state is a `τ`. Every access may change the state, also one that
fails. -/
structure Target (w : Nat) (ε τ : Type) where
  read : BitVec w → (length : Nat) → Attempt τ (TargetError ε) (Block length)
  write : BitVec w → Bytes → Attempt τ (TargetError ε) Unit
  /-- The entry address of the function that contains an address, if it is known. -/
  functionEntry : BitVec w → StateM τ (Option (BitVec w))

end Inferior

import Inferior.RegisterCache
import Inferior.Target

/-! The ways in which examining a stopped program fails. -/

set_option autoImplicit false

namespace Inferior

inductive Error (ε : Type) where
  | target (error : TargetError ε)
  | register (error : RegisterError)
  | noUnwinder (level : Nat)
  /-- The cache of a frame was asked for while it was being computed. -/
  | cacheRecursion (level : Nat)
  | internal (text : String)
  deriving DecidableEq, Repr

def Error.message {ε : Type} (describe : ε → String) : Error ε → String
  | .target error => "Target memory access failed: " ++ error.message describe
  | .register error => "Register access failed: " ++ error.message
  | .noUnwinder level => s!"No unwinder accepted frame #{level}"
  | .cacheRecursion level => s!"Frame #{level} cache requested while it was being computed"
  | .internal text =>
    s!"Internal error: {text}. " ++
      "Please re-run with `log` trace-level logging enabled and file an issue."

end Inferior

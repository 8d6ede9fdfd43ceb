import Inferior.Error

/-! A stopped thread: its registers, and the memory of the program it belongs to. -/

set_option autoImplicit false

namespace Inferior

structure Machine (file : RegisterFile) (τ : Type) where
  registers : RegisterCache file
  memory : τ

namespace Machine

variable {file : RegisterFile} {ε τ α : Type}

def onRegisters (change : RegisterCache file → Except RegisterError (RegisterCache file)) :
    Attempt (Machine file τ) (Error ε) Unit := do
  let machine ← get
  match change machine.registers with
  | .ok registers => set { machine with registers }
  | .error error => throw (.register error)

def fromRegisters (look : RegisterCache file → Except RegisterError α) :
    Attempt (Machine file τ) (Error ε) α := do
  Attempt.ofExcept ((look (← get).registers).mapError .register)

def onMemory (access : Attempt τ (TargetError ε) α) : Attempt (Machine file τ) (Error ε) α :=
  (access.mapError .target).zoom Machine.memory fun memory machine => { machine with memory }

end Machine

end Inferior

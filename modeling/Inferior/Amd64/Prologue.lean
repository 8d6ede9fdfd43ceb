import Inferior.Amd64.SavedRegisters
import Inferior.Error

/-! Analysis of function prologues. The one prologue that is recognised is the usual set-up of
a frame pointer,

    push %rbp         55
    mov %rsp, %rbp    48 89 e5

and a function that starts with other code counts as one without a frame pointer.
-/

set_option autoImplicit false

namespace Inferior.Amd64

/-- What the code from the entry of a function up to some point has done. -/
structure Prologue where
  /-- The distance from the stack pointer to the frame base, as long as there is no frame
  pointer. On entry only the return address has been pushed. -/
  spOffset : Int := -8
  /-- Where registers are saved, as offsets from the frame base. -/
  saved : SavedRegisters Int := .empty
  /-- Whether `rbp` has not been set up as the frame pointer yet. -/
  frameless : Bool := true
  deriving DecidableEq, Repr

namespace Prologue

def pushCode : Bytes := [0x55]

def moveCode : Bytes := [0x48, 0x89, 0xe5]

def push (prologue : Prologue) : Prologue :=
  { prologue with spOffset := prologue.spOffset + 8, saved := prologue.saved.set rbp 0 }

variable {m : Type → Type} [Monad m] {ε : Type}

/-- Analyse the function at `start` for code that is stopped at `current`. The result is where the
analysis ends, and what the code up to there does: it ends at `current` if nothing of the function has
been executed, or the push alone, at code that is not recognised, and else past the move, even if
`current` lies inside it. A failed read keeps what was found before it. -/
def analyze (read : BitVec 64 → (length : Nat) → m (Except ε (Block length)))
    (start current : BitVec 64) (prologue : Prologue) :
    m (Except ε (BitVec 64) × Prologue) := do
  if current ≤ start then return (.ok current, prologue)
  match ← read start 1 with
  | .error error => return (.error error, prologue)
  | .ok first =>
    if first.val ≠ pushCode then return (.ok start, prologue)
    let prologue := prologue.push
    if current ≤ start + 1 then return (.ok current, prologue)
    match ← read (start + 1) 3 with
    | .error error => return (.error error, prologue)
    | .ok second =>
      if second.val ≠ moveCode then return (.ok (start + 1), prologue)
      return (.ok (start + 4), { prologue with frameless := false })

end Prologue

/-- The address just past the prologue of the function at `start`, which is `start` itself if
there is no recognised one. -/
def afterPrologue {ε τ : Type} (target : Target 64 ε τ) (start : BitVec 64) :
    Attempt τ (Error ε) (BitVec 64) := do
  let read := fun address length => (target.read address length).result
  let (stop, prologue) ← Prologue.analyze read start (.allOnes 64) {}
  let stop ← Attempt.ofExcept (stop.mapError .target)
  return if prologue.frameless then start else stop

end Inferior.Amd64

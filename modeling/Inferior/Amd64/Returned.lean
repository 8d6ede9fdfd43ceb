import Inferior.Amd64.Arguments
import Inferior.Machine

/-! Values that a function has just returned, or is made to return. -/

set_option autoImplicit false

namespace Inferior.Amd64

def integerReturns : List Nat := [rax, rdx]

def sseReturns : List Nat := [xmm 0, xmm 1]

/-- What to do with a value. Reading fills the front of a buffer, and writing takes the value from
there. -/
inductive Transfer where
  | inspect
  | read (buffer : Bytes)
  | write (buffer : Bytes)
  deriving DecidableEq, Repr

inductive ReturnConvention where
  | inRegisters
  /-- In memory, at an address that the caller passed in `rdi` and that is returned in `rax`. -/
  | inMemory
  deriving DecidableEq, Repr

inductive ReturnError where
  | bufferTooSmall
  | partlyInMemory
  | tooLarge
  | upperHalfAlone
  | exponentAlone
  | noRegister
  deriving DecidableEq, Repr

def ReturnError.message : ReturnError → String
  | .bufferTooSmall => "return value buffer is smaller than its type"
  | .partlyInMemory => "return value only partially in memory"
  | .tooLarge => "register return value larger than 16 bytes"
  | .upperHalfAlone => "SSEUP eightbyte without a preceding SSE"
  | .exponentAlone => "X87UP eightbyte without a preceding X87"
  | .noRegister => "unexpected register class for return value"

namespace Transfer

def room? : Transfer → Option Nat
  | inspect => none
  | read buffer | write buffer => some buffer.length

def buffer : Transfer → Bytes
  | inspect => []
  | read buffer | write buffer => buffer

def isWrite : Transfer → Bool
  | write _ => true
  | _ => false

end Transfer

/-- How far the eightbytes of a returned value have been dealt with. -/
structure ReturnProgress where
  integers : Nat
  sses : Nat
  /-- The bytes of the value that are left. -/
  remaining : Nat
  deriving DecidableEq, Repr

namespace ReturnProgress

/-- The register that holds an eightbyte and the offset in it, if the eightbyte is not padding. Of
an x87 number only the two bytes of the exponent are left after the mantissa. -/
def place (progress : ReturnProgress) (classes : Classification) (index : Nat) :
    EightbyteClass → Except ReturnError (Option (Nat × Nat) × ReturnProgress)
  | .integer =>
    match integerReturns[progress.integers]? with
    | some number => pure (some (number, 0), { progress with integers := progress.integers + 1 })
    | none => throw .noRegister
  | .sse =>
    match sseReturns[progress.sses]? with
    | some number => pure (some (number, 0), { progress with sses := progress.sses + 1 })
    | none => throw .noRegister
  | .sseUp =>
    match progress.sses with
    | 0 => throw .upperHalfAlone
    | last + 1 =>
      match sseReturns[last]? with
      | some number => pure (some (number, 8), progress)
      | none => throw .noRegister
  | .x87 => pure (some (st 0, 0), progress)
  | .x87Up =>
    if index = 0 ∨ classes.first ≠ .x87 then throw .exponentAlone
    else pure (some (st 0, 8), { progress with remaining := 2 })
  | .noClass => pure (none, progress)
  | .complexX87 | .memory => throw .noRegister

end ReturnProgress

variable {ε τ : Type}

abbrev Returning (ε τ α : Type) := Attempt (Machine registerFile τ) (Error ε) α

inductive Halt (ε : Type) where
  | failed (error : Error ε)
  /-- The program stops at an access to the bytes of a buffer up to `stop`, of which there are not as
  many. -/
  | outOfRange (stop length : Nat)
  deriving DecidableEq, Repr

/-- What is seen of an end from outside. A program that stops says why. -/
def Halt.error : Halt ε → Error ε
  | .failed error => error
  | .outOfRange stop length =>
    .internal s!"range end index {stop} out of range for slice of length {length}"

abbrev Transferring (ε τ α : Type) := Attempt (Machine registerFile τ) (Halt ε) α

def told {α : Type} (access : Returning ε τ α) : Transferring ε τ α := access.mapError .failed

/-- Make `st0` the only x87 register in use, as it is after a function has returned a number
there. -/
def occupyStackTop : Returning ε τ Unit := do
  let status ← Machine.fromRegisters (·.status fstat)
  let control ← if status = .valid then Machine.fromRegisters (·.readUnsigned fstat) else pure 0
  Machine.onRegisters (·.writeUnsigned fstat (control ||| 7 <<< 11))
  Machine.onRegisters (·.writeUnsigned ftag 0x3fff)

def needRoom (buffer : Bytes) (stop : Nat) : Transferring ε τ Unit :=
  if buffer.length < stop then throw (.outOfRange stop buffer.length) else pure ()

/-- Move the bytes of a buffer from `start` on to or from a part of a register. The result is the
buffer. -/
def transferPart (transfer : Transfer) (buffer : Bytes) (number offset start length : Nat) :
    Transferring ε τ Bytes :=
  match transfer with
  | .inspect => pure buffer
  | .read _ => do
    needRoom buffer (start + length)
    let value ← told (Machine.fromRegisters (·.readPart number offset length))
    return buffer.overwrite start value
  | .write _ => do
    needRoom buffer (start + length)
    told (Machine.onRegisters (·.writePart number offset (buffer.slice start length)))
    return buffer

/-- Transfer the eightbytes of a value, given with their indices, as far as the value reaches. -/
def transferEightbytes (transfer : Transfer) (classes : Classification) (buffer : Bytes)
    (progress : ReturnProgress) : List (EightbyteClass × Nat) → Transferring ε τ Bytes
  | [] => pure buffer
  | (eightbyteClass, index) :: rest => do
    if progress.remaining = 0 then return buffer
    let (place, progress) ← Attempt.ofExcept
      ((progress.place classes index eightbyteClass).mapError fun error =>
        .failed (.internal error.message))
    let after := { progress with remaining := progress.remaining - 8 }
    match place with
    | none => transferEightbytes transfer classes buffer after rest
    | some (number, offset) =>
      if eightbyteClass = .x87 ∧ transfer.isWrite then told occupyStackTop
      let buffer ← transferPart transfer buffer number offset (8 * index) (min progress.remaining 8)
      transferEightbytes transfer classes buffer after rest

/-- Transfer a returned value of a type. A value in memory can be read, through the address in
`rax`, but not written. The result is how the value is returned and what the buffer holds
afterwards. -/
def attemptTransfer (target : Target 64 ε τ) (type : DataType) (transfer : Transfer) :
    Transferring ε τ (ReturnConvention × Bytes) := do
  let classes := classify type
  let length := type.length
  if transfer.room?.any (· < length) then fail .bufferTooSmall
  if classes.first = .memory then
    let .read buffer := transfer | return (.inMemory, transfer.buffer)
    let address ← told (Machine.fromRegisters (·.readUnsigned rax))
    let block ← told (Machine.onMemory (target.read (BitVec.ofNat 64 address) length))
    return (.inMemory, buffer.overwrite 0 block.val)
  if classes.second = .memory then fail .partlyInMemory
  if length > 16 then fail .tooLarge
  let buffer ← transferEightbytes transfer classes transfer.buffer ⟨0, 0, length⟩
    classes.toList.zipIdx
  return (.inRegisters, buffer)
where
  fail (error : ReturnError) : Transferring ε τ Unit := throw (.failed (.internal error.message))

/-- A transfer of which only the error is seen if it ends early. -/
def transferReturned (target : Target 64 ε τ) (type : DataType) (transfer : Transfer) :
    Returning ε τ (ReturnConvention × Bytes) :=
  (attemptTransfer target type transfer).mapError Halt.error

end Inferior.Amd64

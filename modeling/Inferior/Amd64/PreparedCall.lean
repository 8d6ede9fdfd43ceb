import Inferior.Amd64.Arguments
import Inferior.Frame
import Inferior.Machine

/-! Calls set up by hand, which return to a breakpoint. -/

set_option autoImplicit false

namespace Inferior.Amd64

/-- Leaf functions may use this many bytes below the stack pointer without moving it. -/
def redZoneSize : Nat := 128

def alignStack (sp : BitVec 64) : BitVec 64 := sp &&& ~~~(15 : BitVec 64)

variable {ε τ : Type}

abbrev Setup (ε τ α : Type) := Attempt (Machine registerFile τ) (Error ε) α

/-- Put the eightbytes of an argument into their registers. The last one is filled up with
zeros. -/
def passInRegisters (argument : Value) (places : List ArgumentPlace) : Setup ε τ Unit :=
  places.forM fun
    | .register _ eightbyte number offset =>
      Machine.onRegisters (·.writePart number offset
        ((argument.contents.slice (8 * eightbyte) 8).resize 8))
    | .stack _ _ => pure ()

def passOnStack (target : Target 64 ε τ) (sp : BitVec 64) (argument : Value)
    (places : List ArgumentPlace) : Setup ε τ Unit :=
  places.forM fun
    | .register _ _ _ _ => pure ()
    | .stack offset length =>
      if length = 0 then pure ()
      else Machine.onMemory
        (target.write (sp + BitVec.ofNat 64 offset) (argument.contents.take length))

/-- Pass arguments to a function that is about to be called, and tell it in `rax` how many SSE
registers hold some. The result is the stack pointer below the arguments. -/
def passArguments (target : Target 64 ε τ) (arguments : List Value) (sp : BitVec 64)
    (structReturn : Bool) : Setup ε τ (BitVec 64) := do
  let layout ← Attempt.ofExcept ((layOutArguments arguments structReturn).mapError fun error =>
    .internal error.message)
  let placed := arguments.zip layout.places
  placed.forM fun (argument, places) => passInRegisters argument places
  let sp := alignStack (sp - BitVec.ofNat 64 (8 * layout.stackEightbytes))
  placed.forM fun (argument, places) => passOnStack target sp argument places
  Machine.onRegisters (·.writeUnsigned rax layout.ssesUsed)
  return sp

structure PreparedCall where
  /-- The stack pointer on entry to the function. -/
  sp : BitVec 64
  /-- The id of the frame that the function will return to. -/
  frameId : FrameId 64
  saved : RegisterCache registerFile

/-- Give a call up: the registers get back what they held before it. Memory stays as it is. -/
def PreparedCall.abandon (call : PreparedCall) (machine : Machine registerFile τ) :
    Machine registerFile τ :=
  { machine with registers := call.saved }

/-- Set up a call that returns to `returnAddress`. The frame pointer is made to point to the return
address, as it would in a function that has just been called, so that the frame has an id. -/
def placeCall (target : Target 64 ε τ) (arguments : List Value) (sp returnAddress : BitVec 64)
    (structAddress : Option (BitVec 64)) : Setup ε τ (BitVec 64) := do
  let sp ← passArguments target arguments sp structAddress.isSome
  if let some address := structAddress then
    Machine.onRegisters (·.writeUnsigned rdi address.toNat)
  let sp := sp - 8
  Machine.onMemory (target.write sp (LittleEndian.digits 8 returnAddress.toNat))
  Machine.onRegisters (·.writeUnsigned rsp sp.toNat)
  Machine.onRegisters (·.writeUnsigned rbp sp.toNat)
  return sp

/-- Set up a call. If that fails, the registers are as before. -/
def prepareCall (target : Target 64 ε τ) (arguments : List Value) (sp returnAddress : BitVec 64)
    (structAddress : Option (BitVec 64)) : Setup ε τ PreparedCall := do
  let saved := (← get).registers
  match ← (placeCall target arguments sp returnAddress structAddress).result with
  | .ok sp => return ⟨sp, ⟨sp + 16, returnAddress⟩, saved⟩
  | .error error => do
    modify fun machine => { machine with registers := saved }
    throw error

/-- The id of the frame of a prepared call whose function has returned to `pc`. -/
def idAfterReturn (registers : RegisterCache registerFile) (pc : BitVec 64) :
    Except RegisterError (FrameId 64) := do
  return ⟨BitVec.ofNat 64 (← registers.readUnsigned rbp) + 16, pc⟩

end Inferior.Amd64

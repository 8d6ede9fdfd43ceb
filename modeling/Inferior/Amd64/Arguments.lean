import Inferior.Amd64.Classification
import Inferior.Amd64.Registers
import Inferior.Value

/-! Where the arguments of a call travel: each argument goes to registers as a whole or to the
stack as a whole. One that finds too few free registers goes to the stack and leaves the free
ones to later arguments.
-/

set_option autoImplicit false

namespace Inferior.Amd64

def integerArguments : List Nat := [rdi, rsi, rdx, rcx, r8, r9]

def sseArguments : List Nat := [xmm 0, xmm 1, xmm 2, xmm 3, xmm 4, xmm 5, xmm 6, xmm 7]

def eightbytes (length : Nat) : Nat := (length + 7) / 8

inductive ArgumentPlace where
  /-- One eightbyte of an argument, in the bytes of a register from an offset on. -/
  | register (eightbyteClass : EightbyteClass) (eightbyte number offset : Nat)
  /-- A whole argument, at an offset from the aligned stack pointer. -/
  | stack (offset length : Nat)
  deriving DecidableEq, Repr

structure ArgumentLayout where
  places : List (List ArgumentPlace)
  stackEightbytes : Nat
  /-- This includes a register for the address of a returned structure. -/
  integersUsed : Nat
  ssesUsed : Nat
  deriving DecidableEq, Repr

inductive LayoutError where
  /-- A value of more than two eightbytes is to go to registers. -/
  | tooLarge
  | upperHalfAlone
  | noRegister
  deriving DecidableEq, Repr

def LayoutError.message : LayoutError → String
  | .tooLarge => "register argument larger than 16 bytes"
  | .upperHalfAlone => "SSEUP eightbyte without a preceding SSE"
  | .noRegister => "unexpected register class for argument"

namespace ArgumentLayout

/-- What earlier arguments have taken. -/
structure Usage where
  integers : Nat
  sses : Nat
  stackEightbytes : Nat
  deriving DecidableEq, Repr

/-- The register that holds an eightbyte and the offset in it, if the eightbyte is not padding, and
what is taken afterwards. -/
def placeEightbyte (usage : Usage) :
    EightbyteClass → Except LayoutError (Option (Nat × Nat) × Usage)
  | .integer =>
    match integerArguments[usage.integers]? with
    | some number => pure (some (number, 0), { usage with integers := usage.integers + 1 })
    | none => throw .noRegister
  | .sse =>
    match sseArguments[usage.sses]? with
    | some number => pure (some (number, 0), { usage with sses := usage.sses + 1 })
    | none => throw .noRegister
  | .sseUp =>
    match usage.sses with
    | 0 => throw .upperHalfAlone
    | last + 1 =>
      match sseArguments[last]? with
      | some number => pure (some (number, 8), usage)
      | none => throw .noRegister
  | .noClass => pure (none, usage)
  | .x87 | .x87Up | .complexX87 | .memory => throw .noRegister

def placeEightbytes (usage : Usage) :
    List (EightbyteClass × Nat) → Except LayoutError (List ArgumentPlace × Usage)
  | [] => pure ([], usage)
  | (eightbyteClass, index) :: rest => do
    let (place, usage) ← placeEightbyte usage eightbyteClass
    let (places, usage) ← placeEightbytes usage rest
    return match place with
      | some (number, offset) => (.register eightbyteClass index number offset :: places, usage)
      | none => (places, usage)

/-- Whether a value goes to the stack: it needs no register, or more than are free. -/
def spills (usage : Usage) (classes : Classification) : Bool :=
  usage.integers + classes.integerCount > integerArguments.length ||
    usage.sses + classes.sseCount > sseArguments.length ||
    (classes.integerCount == 0 && classes.sseCount == 0)

def placeArgument (usage : Usage) (type : DataType) :
    Except LayoutError (List ArgumentPlace × Usage) :=
  let length := type.length
  let classes := classify type
  if spills usage classes then
    pure ([.stack (8 * usage.stackEightbytes) length],
      { usage with stackEightbytes := usage.stackEightbytes + eightbytes length })
  else if length > 16 then throw .tooLarge
  else placeEightbytes usage (classes.toList.zipIdx.take (eightbytes length))

def placeArguments (usage : Usage) :
    List Value → Except LayoutError (List (List ArgumentPlace) × Usage)
  | [] => pure ([], usage)
  | argument :: rest => do
    let (places, usage) ← placeArgument usage argument.type
    let (others, usage) ← placeArguments usage rest
    return (places :: others, usage)

end ArgumentLayout

/-- Place all arguments. The address of a structure to return takes the first integer register. -/
def layOutArguments (arguments : List Value) (structReturn : Bool) :
    Except LayoutError ArgumentLayout := do
  let reserved := if structReturn then 1 else 0
  let (places, usage) ← ArgumentLayout.placeArguments ⟨reserved, 0, 0⟩ arguments
  return ⟨places, usage.stackEightbytes, usage.integers, usage.sses⟩

end Inferior.Amd64

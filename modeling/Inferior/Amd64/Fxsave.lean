import Inferior.Amd64.Registers
import Inferior.RegisterSet

/-! The area that the FXSAVE instruction fills: the x87 and SSE registers.

      0  fctrl (2 bytes)    2  fstat (2)    4  abridged ftag (1)    6  fop (11 bits)
      8  fioff (4)         12  fiseg (4)   16  fooff (4)           20  foseg (4)
     24  mxcsr (4)         32  st0 to st7, 16 bytes apart         160  xmm0 to xmm15

The abridged tag has one bit for each physical x87 register, set unless it is empty. The full
tag word has two bits for each, which tell apart valid numbers (0), zeros (1), special numbers
(2) and empty registers (3). Stack registers are counted from the top of the stack, a physical
register whose number is in `fstat`.
-/

set_option autoImplicit false

namespace Inferior.Amd64.Fxsave

def areaSize : Nat := 512

def numbers : List Nat := (List.range registerFile.count).drop (st 0)

/-- The offset of a register in the area and its width there. -/
def place (number : Nat) : Option (Nat × Nat) :=
  if st 0 ≤ number ∧ number ≤ st 7 then some (32 + 16 * (number - st 0), stSize)
  else if xmm 0 ≤ number ∧ number ≤ xmm 15 then some (160 + 16 * (number - xmm 0), 16)
  else if number = fctrl then some (0, 2)
  else if number = fstat then some (2, 2)
  else if number = ftag then some (4, 2)
  else if number = fop then some (6, 2)
  else if number = fioff then some (8, 4)
  else if number = fiseg then some (12, 4)
  else if number = fooff then some (16, 4)
  else if number = foseg then some (20, 4)
  else if number = mxcsr then some (24, 4)
  else none

/-- The tag of an extended precision number that is not empty. -/
def tag (raw : Bytes) : Nat :=
  let bits := BitVec.ofNat 80 (LittleEndian.value raw)
  let exponent := bits.extractLsb' 64 15
  let integer := bits.getLsbD 63
  let fraction := bits.extractLsb' 0 63
  if exponent = 0x7fff then 2
  else if exponent = 0 then if fraction = 0 ∧ !integer then 1 else 2
  else if integer then 0 else 2

/-- The number of the physical register on top of the stack. -/
def top (blob : Bytes) : Nat := (LittleEndian.value (blob.slice 2 2) >>> 11) % 8

def stackBytes (blob : Bytes) (index : Nat) : Bytes := blob.slice (32 + 16 * index) stSize

def tagOf (blob : Bytes) (physical : Nat) : Nat :=
  if (LittleEndian.value (blob.slice 4 1)).testBit physical then
    tag (stackBytes blob ((physical + 8 - top blob) % 8))
  else 3

def expandTags (blob : Bytes) : Nat :=
  (List.range 8).foldl (fun tags physical => tags + tagOf blob physical <<< (2 * physical)) 0

def abridgeTags (tags : Nat) : Nat :=
  (List.range 8).foldl (fun abridged physical =>
    if (tags >>> (2 * physical)) % 4 = 3 then abridged else abridged + 1 <<< physical) 0

def checkLength (length : Nat) : Except RegisterSetError Unit :=
  if length < areaSize then throw (.blobTooShort areaSize length) else pure ()

/-- The eleven bits of an x87 opcode. -/
def opcodeOf (number : Nat) : Nat := number % 2048

/-- The value of a register in an area, before it is filled up to the register's size. -/
def valueIn (blob : Bytes) (number offset width : Nat) : Bytes :=
  let raw := blob.slice offset width
  if number = fop then LittleEndian.digits 4 (opcodeOf (LittleEndian.value raw))
  else if number = ftag then LittleEndian.digits 4 (expandTags blob)
  else raw

/-- What a register's place in an area holds after collecting the register. The five bits beside
the opcode are kept. -/
def collected (cache : RegisterCache registerFile) (number : Nat) (old : Bytes) :
    Except RegisterError Bytes := do
  if number = fop then
    let opcode := opcodeOf (LittleEndian.value (← cache.collect number (Bytes.zeros 4)))
    let before := LittleEndian.value old
    return LittleEndian.digits 2 (before - opcodeOf before + opcode)
  else if number = ftag then
    let tags := LittleEndian.value (← cache.collect number (Bytes.zeros 4))
    return LittleEndian.digits 2 (abridgeTags tags)
  else cache.collect number old

def supplyRegister (blob : Bytes) (number : Nat) :
    Attempt (RegisterCache registerFile) RegisterSetError Unit := do
  match place number with
  | none => pure ()
  | some (offset, width) =>
    let cache ← get
    let value := valueIn blob number offset width
    set (← Attempt.ofExcept ((cache.supply number value).mapError .register))

def collectRegister (cache : RegisterCache registerFile) (number : Nat) :
    Attempt Bytes RegisterSetError Unit := do
  match place number with
  | none => pure ()
  | some (offset, width) =>
    let blob ← get
    let bytes ← Attempt.ofExcept
      ((collected cache number (blob.slice offset width)).mapError .register)
    set (blob.overwrite offset bytes)

def codec : RegisterCodec registerFile where
  supply selection blob := do
    Attempt.ofExcept (checkLength blob.length)
    (numbers.filter selection.includes).forM (supplyRegister blob)
  collect cache selection := do
    Attempt.ofExcept (checkLength (← get).length)
    (numbers.filter selection.includes).forM (collectRegister cache)

end Inferior.Amd64.Fxsave

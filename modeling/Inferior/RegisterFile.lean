/-! Register files: the registers of an architecture, by number.

A number below the count of registers may still belong to a register without a name or a
size. Such a register takes no room in a register image.
-/

set_option autoImplicit false

namespace Inferior

structure Register where
  name : Option String
  /-- Size in bytes. -/
  size : Option Nat
  deriving DecidableEq, Repr

structure RegisterFile where
  registers : List Register
  deriving DecidableEq, Repr

namespace RegisterFile

def count (file : RegisterFile) : Nat := file.registers.length

def name? (file : RegisterFile) (number : Nat) : Option String :=
  file.registers[number]? >>= Register.name

def size? (file : RegisterFile) (number : Nat) : Option Nat :=
  file.registers[number]? >>= Register.size

def width (file : RegisterFile) (number : Nat) : Nat := (file.size? number).getD 0

theorem width_eq_zero {file : RegisterFile} {number : Nat} (beyond : file.count ≤ number) :
    file.width number = 0 := by
  simp [width, size?, List.getElem?_eq_none beyond]

/-- Registers lie back to back in an image, in the order of their numbers. -/
def offset (file : RegisterFile) : Nat → Nat
  | 0 => 0
  | number + 1 => file.offset number + file.width number

theorem offset_add_width_le (file : RegisterFile) {first second : Nat} (before : first < second) :
    file.offset first + file.width first ≤ file.offset second := by
  induction before with
  | refl => exact Nat.le_refl _
  | step _ ih => exact Nat.le_trans ih (Nat.le_add_right _ _)

def imageLength (file : RegisterFile) : Nat := file.offset file.count

structure TableError where
  table : String
  index : Nat
  number : Nat
  deriving DecidableEq, Repr

def TableError.message (error : TableError) : String :=
  let ⟨table, index, number⟩ := error
  s!"register table `{table}` entry {index} names register {number}, " ++
    "which is not part of the register file"

/-- Find the first entry of a table that names a register without a size. -/
def checkTable (file : RegisterFile) (table : String) (numbers : List Nat) :
    Except TableError Unit :=
  numbers.zipIdx.forM fun (number, index) =>
    if (file.size? number).isSome then pure () else throw { table, index, number }

end RegisterFile

end Inferior

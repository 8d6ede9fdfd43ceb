import Inferior.Bytes.LittleEndian
import Inferior.RegisterFile
import Inferior.Text.Hexadecimal
import Inferior.Text.Quoted

/-! The registers of a stopped thread: one image of all registers, back to back, and a status
for each of them.

Accesses are checked in a fixed order: the register number first, then the bounds, and only
then whether the register holds a value. An access that is refused changes nothing.
-/

set_option autoImplicit false

namespace Inferior

inductive RegisterStatus where
  /-- Not supplied yet. -/
  | unknown
  | valid
  /-- Known to have no value, as a register that is missing from a core file. -/
  | unavailable
  deriving DecidableEq, Repr

def RegisterStatus.name : RegisterStatus → String
  | .unknown => "Unknown"
  | .valid => "Valid"
  | .unavailable => "Unavailable"

inductive RegisterError where
  | invalidRegister (number : Nat)
  | unavailable (number : Nat)
  | outOfBounds (number offset length : Nat)
  deriving DecidableEq, Repr

def RegisterError.message : RegisterError → String
  | .invalidRegister number => s!"invalid register number {number}"
  | .unavailable number => s!"register {number} is unavailable"
  | .outOfBounds number offset length =>
    s!"access of {length} bytes at offset {offset} is out of bounds for register {number}"

structure RegisterCache (file : RegisterFile) where
  image : Bytes
  statuses : List RegisterStatus
  length_image : image.length = file.imageLength
  length_statuses : statuses.length = file.count
  deriving DecidableEq

namespace RegisterCache

variable {file : RegisterFile}

def empty (file : RegisterFile) : RegisterCache file where
  image := Bytes.zeros file.imageLength
  statuses := List.replicate file.count .unknown
  length_image := Bytes.length_zeros _
  length_statuses := List.length_replicate

/-- The image of a register, whatever its status. -/
def bytes (cache : RegisterCache file) (number : Nat) : Bytes :=
  cache.image.slice (file.offset number) (file.width number)

@[simp] theorem length_bytes (cache : RegisterCache file) (number : Nat) :
    (cache.bytes number).length = file.width number := by
  rw [bytes, Bytes.length_slice, cache.length_image]
  by_cases known : number < file.count
  · have := file.offset_add_width_le known
    simp only [RegisterFile.imageLength]
    omega
  · simp [RegisterFile.width_eq_zero (Nat.le_of_not_lt known)]

theorem bytes_empty (number : Nat) :
    (empty file).bytes number = Bytes.zeros (file.width number) := by
  apply List.ext_getElem?
  intro index
  have sized := (empty file).length_bytes number
  rw [bytes, Bytes.length_slice, (empty file).length_image] at sized
  simp only [bytes, empty, Bytes.getElem?_slice, Bytes.getElem?_zeros]
  grind

def store (cache : RegisterCache file) (number offset : Nat) (patch : Bytes)
    (status : RegisterStatus) : RegisterCache file where
  image := cache.image.overwrite (file.offset number + offset) patch
  statuses := cache.statuses.set number status
  length_image := (Bytes.length_overwrite _ _ _).trans cache.length_image
  length_statuses := List.length_set.trans cache.length_statuses

theorem bytes_store (cache : RegisterCache file) (number offset : Nat) {patch : Bytes}
    (status : RegisterStatus) (fits : offset + patch.length ≤ file.width number) :
    (cache.store number offset patch status).bytes number =
      (cache.bytes number).overwrite offset patch := by
  apply List.ext_getElem?
  intro index
  have sized := cache.length_bytes number
  rw [bytes, Bytes.length_slice] at sized
  simp only [bytes, store, Bytes.getElem?_slice, Bytes.getElem?_overwrite, Bytes.length_slice]
  grind

theorem bytes_store_of_ne (cache : RegisterCache file) {number other offset : Nat} {patch : Bytes}
    (status : RegisterStatus) (fits : offset + patch.length ≤ file.width number)
    (different : other ≠ number) :
    (cache.store number offset patch status).bytes other = cache.bytes other := by
  apply List.ext_getElem?
  intro index
  simp only [bytes, store, Bytes.getElem?_slice, Bytes.getElem?_overwrite]
  rcases Nat.lt_or_gt_of_ne different with before | after
  · have := file.offset_add_width_le before
    grind
  · have := file.offset_add_width_le after
    grind

def size (_cache : RegisterCache file) (number : Nat) : Except RegisterError Nat :=
  if number < file.count then pure (file.width number) else throw (.invalidRegister number)

def status (cache : RegisterCache file) (number : Nat) : Except RegisterError RegisterStatus :=
  match cache.statuses[number]? with
  | some status => pure status
  | none => throw (.invalidRegister number)

/-- Give a register a value, cut off or filled up to its size, or mark it as having none. -/
def supply (cache : RegisterCache file) (number : Nat) (value : Option Bytes) :
    Except RegisterError (RegisterCache file) := do
  let size ← cache.size number
  return match value with
    | some value => cache.store number 0 (value.resize size) .valid
    | none => cache.store number 0 (Bytes.zeros size) .unavailable

/-- Copy a register's image to the front of a buffer, as far as there is room, whatever its
status. A register that was never supplied reads as zero. -/
def collect (cache : RegisterCache file) (number : Nat) (buffer : Bytes) :
    Except RegisterError Bytes := do
  let _ ← cache.size number
  return buffer.overwrite 0 (cache.bytes number)

def readPart (cache : RegisterCache file) (number offset length : Nat) :
    Except RegisterError Bytes := do
  if (← cache.size number) < offset + length then throw (.outOfBounds number offset length)
  if (← cache.status number) ≠ .valid then throw (.unavailable number)
  return (cache.bytes number).slice offset length

def read (cache : RegisterCache file) (number : Nat) : Except RegisterError Bytes := do
  cache.readPart number 0 (← cache.size number)

theorem read_of_valid {cache : RegisterCache file} {number : Nat} {value : Bytes}
    (valid : cache.statuses[number]? = some .valid) (content : cache.bytes number = value) :
    cache.read number = .ok value := by
  subst content
  have known : number < file.count := by
    have inside := (List.getElem?_eq_some_iff.1 valid).1
    rwa [cache.length_statuses] at inside
  have whole : (cache.bytes number).slice 0 (file.width number) = cache.bytes number := by
    rw [Bytes.slice, List.drop_zero, ← cache.length_bytes number, List.take_length]
  have size : cache.size number = .ok (file.width number) := if_pos known
  have status : cache.status number = .ok .valid := by
    rw [RegisterCache.status, valid]
    rfl
  simp only [read, readPart, size, status, bind, Except.bind, Nat.zero_add, Nat.lt_irrefl, if_false,
    ne_eq, not_true, whole]
  rfl

theorem read_of_size_error {cache : RegisterCache file} {number : Nat} {error : RegisterError}
    (unsized : cache.size number = .error error) : cache.read number = .error error := by
  rw [read, unsized]
  rfl

theorem size_of_read {cache : RegisterCache file} {number : Nat} {value : Bytes}
    (content : cache.read number = .ok value) : cache.size number = .ok value.length := by
  cases sized : cache.size number with
  | error error =>
    rw [read_of_size_error sized] at content
    cases content
  | ok size =>
    have width : file.width number = size := by
      rw [RegisterCache.size] at sized
      split at sized
      · exact Except.ok.inj sized
      · cases sized
    simp only [read, readPart, sized, bind, Except.bind, Nat.zero_add, Nat.lt_irrefl, if_false]
      at content
    cases status : cache.status number with
    | error error => simp [status] at content
    | ok status' =>
      by_cases valid : status' = .valid
      · simp only [status, valid, ne_eq, not_true, if_false] at content
        rw [← Except.ok.inj content, Bytes.length_slice, length_bytes, width, Nat.sub_zero,
          Nat.min_self]
      · simp only [status, ne_eq, valid, not_false_eq_true, if_true] at content
        cases content

theorem read_store_of_ne (cache : RegisterCache file) {number other offset : Nat} {patch : Bytes}
    (status : RegisterStatus) (fits : offset + patch.length ≤ file.width number)
    (different : other ≠ number) :
    (cache.store number offset patch status).read other = cache.read other := by
  have content := cache.bytes_store_of_ne status fits different
  have kept : (cache.store number offset patch status).statuses[other]? = cache.statuses[other]? :=
    List.getElem?_set_ne different.symm
  simp only [read, readPart, RegisterCache.status, content, kept]
  rfl

/-- Copy a register's value to the front of a buffer, as far as there is room, and tell the
size of the register. -/
def readInto (cache : RegisterCache file) (number : Nat) (buffer : Bytes) :
    Except RegisterError (Nat × Bytes) := do
  let size ← cache.size number
  let value ← cache.readPart number 0 (min size buffer.length)
  return (size, buffer.overwrite 0 value)

/-- Overwrite some bytes of a register, which makes it valid as a whole. -/
def writePart (cache : RegisterCache file) (number offset : Nat) (value : Bytes) :
    Except RegisterError (RegisterCache file) := do
  if (← cache.size number) < offset + value.length then
    throw (.outOfBounds number offset value.length)
  return cache.store number offset value .valid

def write (cache : RegisterCache file) (number : Nat) (value : Bytes) :
    Except RegisterError (RegisterCache file) := do
  if value.length ≠ (← cache.size number) then throw (.outOfBounds number 0 value.length)
  cache.writePart number 0 value

def readUnsigned (cache : RegisterCache file) (number : Nat) : Except RegisterError Nat := do
  let length := min (← cache.size number) 8
  return LittleEndian.value (← cache.readPart number 0 length)

def readSigned (cache : RegisterCache file) (number : Nat) : Except RegisterError Int := do
  let length := min (← cache.size number) 8
  return (BitVec.ofNat (8 * length) (← cache.readUnsigned number)).toInt

/-- Write a number below 2^64, cut off or filled up to the size of the register. -/
def writeUnsigned (cache : RegisterCache file) (number value : Nat) :
    Except RegisterError (RegisterCache file) := do
  let size ← cache.size number
  cache.write number ((LittleEndian.digits 8 value).resize size)

def forget (cache : RegisterCache file) (number : Nat) :
    Except RegisterError (RegisterCache file) := do
  let size ← cache.size number
  return cache.store number 0 (Bytes.zeros size) .unknown

/-- The registers whose status or image differs from that in another cache. -/
def changes (cache other : RegisterCache file) : List Nat :=
  (List.range file.count).filter fun number =>
    cache.statuses[number]? != other.statuses[number]? || cache.bytes number != other.bytes number

/-- The value of a valid register in hexadecimal, most significant byte first; the status of
any other. -/
def entryText (cache : RegisterCache file) (number : Nat) : String :=
  let name := Text.quoted ((file.name? number).getD "?")
  let shown := match cache.statuses[number]? with
    | some .valid => "0x" ++ Text.Hexadecimal.ofBytes (cache.bytes number).reverse
    | some status => status.name
    | none => RegisterStatus.unknown.name
  name ++ ": " ++ shown

def text (cache : RegisterCache file) : String :=
  "\x7b" ++ ", ".intercalate ((List.range file.count).map cache.entryText) ++ "\x7d"

end RegisterCache

end Inferior

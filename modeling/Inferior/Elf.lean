import Inferior.Bytes.LittleEndian

/-! The notes of ELF files, of 32 or 64 bits and either byte order. -/

set_option autoImplicit false

namespace Inferior

namespace Elf

inductive Width where
  | bits32
  | bits64
  deriving DecidableEq, Repr

inductive ByteOrder where
  | little
  | big
  deriving DecidableEq, Repr

/-- What the first bytes of a file say of how to read the rest. -/
structure Format where
  width : Width
  order : ByteOrder
  deriving DecidableEq, Repr

def number? (format : Format) (file : Bytes) (offset length : Nat) : Option Nat :=
  let bytes := file.slice offset length
  if bytes.length < length then none
  else some (LittleEndian.value (match format.order with
    | .little => bytes
    | .big => bytes.reverse))

def field? (format : Format) (file : Bytes) (base : Nat) (narrow wide : Nat × Nat) : Option Nat :=
  match format.width with
  | .bits32 => number? format file (base + narrow.1) narrow.2
  | .bits64 => number? format file (base + wide.1) wide.2

def magic : Bytes := [0x7f, 0x45, 0x4c, 0x46]

def format? (file : Bytes) : Option Format := do
  guard (file.take 4 = magic)
  let width ← width? (file.slice 4 1)
  let order ← order? (file.slice 5 1)
  return ⟨width, order⟩
where
  width? : Bytes → Option Width
    | [1] => some .bits32
    | [2] => some .bits64
    | _ => none
  order? : Bytes → Option ByteOrder
    | [1] => some .little
    | [2] => some .big
    | _ => none

def headerSize : Width → Nat
  | .bits32 => 52
  | .bits64 => 64

def segmentSize : Width → Nat
  | .bits32 => 32
  | .bits64 => 56

structure Segment where
  kind : Nat
  offset : Nat
  length : Nat
  alignment : Nat
  deriving DecidableEq, Repr

def Segment.read? (format : Format) (file : Bytes) (base : Nat) : Option Segment := do
  let kind ← number? format file base 4
  let offset ← field? format file base (4, 4) (8, 8)
  let length ← field? format file base (16, 4) (32, 8)
  let alignment ← field? format file base (28, 4) (48, 8)
  return { kind, offset, length, alignment }

structure Header where
  fileType : Nat
  segments : List Segment
  deriving DecidableEq, Repr

def Header.read? (format : Format) (file : Bytes) : Option Header := do
  guard (headerSize format.width ≤ file.length)
  let fileType ← number? format file 16 2
  let table ← field? format file 0 (28, 4) (32, 8)
  let count ← field? format file 0 (44, 2) (56, 2)
  guard (count * segmentSize format.width ≤ file.length)
  let segments ← (List.range count).mapM fun index =>
    Segment.read? format file (table + index * segmentSize format.width)
  return { fileType, segments }

/-- The type of a file that describes a process that has ended. -/
def coreType : Nat := 4

def noteKind : Nat := 4

structure Note where
  type : Nat
  descriptor : Bytes
  deriving DecidableEq, Repr

def alignUp (alignment offset : Nat) : Nat := (offset + alignment - 1) / alignment * alignment

/-- Notes are padded to multiples of four or eight bytes. -/
def padding? (alignment : Nat) : Option Nat :=
  if alignment ≤ 4 then some 4 else if alignment = 8 then some 8 else none

/-- Read the note that some bytes begin with: the lengths of its name and descriptor, its type, the
name and the descriptor, each of the latter two padded from the start of the note on. The name is
UTF-8 text with a terminating byte, which is counted but may be anything; an empty name has none.
The note comes with the number of bytes it takes, not counting the twelve bytes of numbers. -/
def Note.read? (format : Format) (alignment : Nat) (bytes : Bytes) : Option (Note × Nat) := do
  let padding ← padding? alignment
  let nameLength ← number? format bytes 0 4
  let length ← number? format bytes 4 4
  let type ← number? format bytes 8 4
  let name := bytes.slice 12 (nameLength - 1)
  guard name.toByteArray.validateUTF8
  let start := alignUp padding (12 + nameLength)
  let rest := bytes.drop start
  let descriptor := rest.take length
  guard (rest ≠ [] ∧ descriptor.length = length)
  return (⟨type, descriptor⟩, alignUp padding (start + length) - 12)

/-- The notes that begin in the first `extent` bytes of a file's rest. -/
def notesWithin (format : Format) (alignment extent : Nat) (bytes : Bytes) : Option (List Note) :=
  if 0 < extent then
    match Note.read? format alignment bytes with
    | none => none
    | some (note, size) => do
      let others ← notesWithin format alignment (extent - (12 + size)) (bytes.drop (12 + size))
      return note :: others
  else some []
termination_by extent

/-- Places in a file are numbers of eight bytes, in narrow files as well. -/
def lastOffset : Nat := LittleEndian.capacity 8 - 1

/-- How far a segment reaches. It does not reach beyond the last offset there is, and the byte at
that offset belongs to no segment. -/
def Segment.extent (segment : Segment) : Nat := min segment.length (lastOffset - segment.offset)

def Segment.notes? (format : Format) (file : Bytes) (segment : Segment) : Option (List Note) :=
  notesWithin format segment.alignment segment.extent (file.drop segment.offset)

end Elf

end Inferior

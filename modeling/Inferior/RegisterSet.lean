import Inferior.Attempt
import Inferior.RegisterCache

/-! Register sets: blobs that hold several registers, as the sections of a core file do.

A transfer handles its registers one after the other. One that fails has transferred the
registers before the offending one.
-/

set_option autoImplicit false

namespace Inferior

inductive Selection where
  | all
  /-- One register, which need not be in the set. -/
  | only (number : Nat)
  deriving DecidableEq, Repr

def Selection.includes : Selection → Nat → Bool
  | .all, _ => true
  | .only number, other => number == other

inductive SectionLength where
  | exactly (length : Nat)
  | atLeast (length : Nat)
  deriving DecidableEq, Repr

def SectionLength.fits : SectionLength → Nat → Bool
  | .exactly length, given => given == length
  | .atLeast length, given => length ≤ given

def SectionLength.text : SectionLength → String
  | .exactly length => s!"Exact({length})"
  | .atLeast length => s!"AtLeast({length})"

inductive RegisterSetError where
  | blobTooShort (needed length : Nat)
  | register (error : RegisterError)
  deriving DecidableEq, Repr

def RegisterSetError.message : RegisterSetError → String
  | .blobTooShort needed length =>
    s!"register set blob is {length} bytes long, but {needed} bytes are required"
  | .register error => error.message

structure RegisterCodec (file : RegisterFile) where
  supply : Selection → Bytes → Attempt (RegisterCache file) RegisterSetError Unit
  collect : RegisterCache file → Selection → Attempt Bytes RegisterSetError Unit

structure RegisterSet (file : RegisterFile) where
  name : String
  size : SectionLength
  codec : RegisterCodec file

namespace RegisterSet

variable {file : RegisterFile}

def accepts (set : RegisterSet file) (name : String) (length : Nat) : Bool :=
  set.name == name && set.size.fits length

def select? (sets : List (RegisterSet file)) (name : String) (length : Nat) :
    Option (RegisterSet file) :=
  sets.find? (·.accepts name length)

def text (set : RegisterSet file) : String :=
  "RegisterSet \x7b name: " ++ Text.quoted set.name ++ ", size: " ++ set.size.text ++ " \x7d"

end RegisterSet

/-- Byte offsets by register number. Each register takes as many bytes as its size. -/
abbrev OffsetTable := List (Option Nat)

namespace OffsetTable

variable {file : RegisterFile}

def slotSize (file : RegisterFile) (number offset length : Nat) : Except RegisterSetError Nat :=
  match file.size? number with
  | none => throw (.register (.invalidRegister number))
  | some size =>
    if length < offset + size then throw (.blobTooShort (offset + size) length) else pure size

/-- The selected registers of a table, with their offsets, in the order of their numbers. -/
def selected (table : OffsetTable) (selection : Selection) : List (Nat × Nat) :=
  table.zipIdx.filterMap fun (offset, number) =>
    if selection.includes number then offset.map (number, ·) else none

def supply (table : OffsetTable) (selection : Selection) (blob : Bytes) :
    Attempt (RegisterCache file) RegisterSetError Unit :=
  (table.selected selection).forM fun (number, offset) => do
    let size ← Attempt.ofExcept (slotSize file number offset blob.length)
    let cache ← get
    set (← Attempt.ofExcept ((cache.supply number (blob.slice offset size)).mapError .register))

def collect (table : OffsetTable) (cache : RegisterCache file) (selection : Selection) :
    Attempt Bytes RegisterSetError Unit :=
  (table.selected selection).forM fun (number, offset) => do
    let blob ← get
    let size ← Attempt.ofExcept (slotSize file number offset blob.length)
    let slot ← Attempt.ofExcept ((cache.collect number (blob.slice offset size)).mapError .register)
    set (blob.overwrite offset slot)

def codec (table : OffsetTable) : RegisterCodec file where
  supply := table.supply
  collect := table.collect

end OffsetTable

end Inferior

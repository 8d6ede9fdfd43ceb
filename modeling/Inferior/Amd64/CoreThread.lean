import Inferior.Amd64.Platform
import Inferior.Elf

/-! The registers of the threads in a core file. The notes of a thread start with one on its
status, which holds the general registers, and a note with an FXSAVE area usually follows.
-/

set_option autoImplicit false

namespace Inferior.Amd64

inductive CoreError where
  | malformed
  | notCore
  | noNotes
  | shortNote (type length needed : Nat)
  | noSuchThread (index : Nat)
  | registerSet (error : RegisterSetError)
  deriving DecidableEq, Repr

def CoreError.message : CoreError → String
  | .malformed => "could not parse core file"
  | .notCore => "not a core file"
  | .noNotes => "core file has no notes"
  | .shortNote type length needed =>
    s!"note of type {type} is {length} bytes long, but {needed} bytes are required"
  | .noSuchThread index => s!"core file has no thread #{index}"
  | .registerSet error => error.message

structure RegisterSection where
  name : String
  contents : Bytes
  deriving DecidableEq, Repr

abbrev CoreThread := List RegisterSection

namespace CoreThread

/-- The type of a note on the status of a thread. -/
def statusNote : Nat := 1

/-- The type of a note with floating-point registers. -/
def floatNote : Nat := 2

/-- Where the general registers are in a note on the status of a thread. -/
def generalOffset : Nat := 112

/-- The section that a note holds, if it holds registers. There is no answer where the program stops,
since the end of the general registers does not fit into 64 bits or, once it has wrapped, lies in front
of their start. -/
def sectionOf? (overflow : Overflow) (platform : Platform) (note : Elf.Note) :
    Option (Except CoreError (Option RegisterSection)) := do
  let length := note.descriptor.length
  if note.type = statusNote then
    let stop ← overflow.add generalOffset platform.config.generalSize
    if length < stop then return throw (.shortNote note.type length stop)
    else if stop < generalOffset then none
    else
      let registers := note.descriptor.slice generalOffset (stop - generalOffset)
      return pure (some ⟨Platform.generalSection, registers⟩)
  else if note.type = floatNote then
    return pure (some ⟨Platform.floatSection, note.descriptor⟩)
  else return pure none

/-- The section that a note holds, as it is told where sums wrap. A program that stops is one that could
not read the file. -/
def sectionOf (platform : Platform) (note : Elf.Note) : Except CoreError (Option RegisterSection) :=
  (sectionOf? .wraps platform note).getD (throw .malformed)

/-- Split sections into threads. Each section with general registers starts a thread, and those
before the first one, which come apart, belong to none. -/
def group (sections : List RegisterSection) : List RegisterSection × List CoreThread :=
  sections.foldr (fun head (pending, threads) =>
    if head.name = Platform.generalSection then ([], (head :: pending) :: threads)
    else (head :: pending, threads)) ([], [])

/-- The threads that a list of notes describes, unless the program stops. -/
def ofNotes? (overflow : Overflow) (platform : Platform) (notes : List Elf.Note) :
    Option (Except CoreError (List CoreThread)) :=
  ExceptT.run do
    let sections ← notes.mapM fun note => ExceptT.mk (sectionOf? overflow platform note)
    return (group (sections.filterMap id)).2

/-- The threads that a list of notes describes, as they are told where sums wrap. -/
def ofNotes (platform : Platform) (notes : List Elf.Note) : Except CoreError (List CoreThread) :=
  (ofNotes? .wraps platform notes).getD (throw .malformed)

def ofFile (platform : Platform) (file : Bytes) : Except CoreError (List CoreThread) := do
  let some format := Elf.format? file | throw .malformed
  let some header := Elf.Header.read? format file | throw .malformed
  if header.fileType ≠ Elf.coreType then throw .notCore
  let segments := header.segments.filter (·.kind = Elf.noteKind)
  if segments.isEmpty then throw .noNotes
  let some notes := segments.mapM (·.notes? format file) | throw .malformed
  ofNotes platform notes.flatten

/-- Move the registers of a thread into a cache. Sections without a register set are left out. -/
def supply (platform : Platform) (thread : CoreThread) :
    Attempt (RegisterCache registerFile) CoreError Unit :=
  thread.forM fun part =>
    match platform.registerSet? part.name part.contents.length with
    | some set => (set.codec.supply .all part.contents).mapError .registerSet
    | none => pure ()

/-- Move the registers of a thread of a core file, by its place among the threads, into a cache. -/
def supplyFromFile (platform : Platform) (file : Bytes) (index : Nat) :
    Attempt (RegisterCache registerFile) CoreError Unit := do
  let threads ← Attempt.ofExcept (ofFile platform file)
  match threads[index]? with
  | some thread => supply platform thread
  | none => throw (.noSuchThread index)

end CoreThread

end Inferior.Amd64

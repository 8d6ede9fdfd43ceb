import Mathlib.Data.List.Forall2
import Inferior.Proofs.SectionDecoding
import Inferior.Proofs.TableTransfers

/-! Core files bring back the registers that were written to them. The notes of a file may describe
any number of threads, with other notes anywhere between, and the registers of one thread do not
depend on those of another.
-/

set_option autoImplicit false

namespace Inferior.Amd64

namespace CoreThread

def Unrelated (note : Elf.Note) : Prop := note.type ≠ statusNote ∧ note.type ≠ floatNote

/-- The general registers in a note on the status of a thread end before 64 bits do. -/
def EndFits (platform : Platform) : Prop :=
  generalOffset + platform.config.generalSize < 1 <<< 64

instance (platform : Platform) : Decidable (EndFits platform) := inferInstanceAs (Decidable (_ < _))

/-- The section of a note, with sums of any size. -/
def plainSection (platform : Platform) (note : Elf.Note) : Except CoreError (Option RegisterSection) :=
  let length := note.descriptor.length
  if note.type = statusNote then
    let size := platform.config.generalSize
    if length < generalOffset + size then
      throw (.shortNote note.type length (generalOffset + size))
    else pure (some ⟨Platform.generalSection, note.descriptor.slice generalOffset size⟩)
  else if note.type = floatNote then pure (some ⟨Platform.floatSection, note.descriptor⟩)
  else pure none

def sections (platform : Platform) (notes : List Elf.Note) :
    Except CoreError (List RegisterSection) := do
  return (← notes.mapM (plainSection platform)).filterMap id

variable {platform : Platform} {note : Elf.Note} {notes : List Elf.Note}

theorem sectionOf?_eq (fits : EndFits platform) (overflow : Overflow) (note : Elf.Note) :
    sectionOf? overflow platform note = some (plainSection platform note) := by
  have ahead : ¬generalOffset + platform.config.generalSize < generalOffset := by omega
  unfold sectionOf? plainSection
  dsimp only
  split
  · rw [Overflow.add_eq_iff.2 fits, Option.bind_eq_bind, Option.bind_some, if_neg ahead, Nat.add_sub_cancel_left]
    split <;> rfl
  · split <;> rfl

theorem mapM_mk {ε α β : Type} {f : α → Option (Except ε β)} {g : α → Except ε β}
    (same : ∀ value, f value = some (g value)) (values : List α) :
    (values.mapM fun value => ExceptT.mk (f value)).run = some (values.mapM g) := by
  induction values with
  | nil => rfl
  | cons value rest ih =>
    have head : (ExceptT.mk (f value)).run = some (g value) := same value
    rw [List.mapM_cons, List.mapM_cons, ExceptT.run_bind, head, Option.bind_eq_bind,
      Option.bind_some]
    cases g value with
    | error error => rfl
    | ok first =>
      change (do let others ← rest.mapM _; pure (first :: others) : ExceptT ε Option _).run = _
      rw [ExceptT.run_bind, ih]
      cases rest.mapM g <;> rfl

theorem ofNotes?_eq (fits : EndFits platform) (overflow : Overflow) (notes : List Elf.Note) :
    ofNotes? overflow platform notes =
      some ((sections platform notes).map fun parts => (group parts).2) := by
  have found := mapM_mk (sectionOf?_eq fits overflow) notes
  unfold ofNotes? sections
  rw [ExceptT.run_bind, found]
  cases notes.mapM (plainSection platform) <;> rfl

theorem ofNotes_eq (fits : EndFits platform) {parts : List RegisterSection}
    (found : sections platform notes = .ok parts) :
    ofNotes platform notes = .ok (group parts).2 := by
  rw [ofNotes, ofNotes?_eq fits, found]
  rfl

theorem plainSection_unrelated (unrelated : Unrelated note) :
    plainSection platform note = .ok none := by
  rw [plainSection, if_neg unrelated.1, if_neg unrelated.2]
  rfl

theorem sections_cons {part : Option RegisterSection} {parts : List RegisterSection}
    (first : plainSection platform note = .ok part) (rest : sections platform notes = .ok parts) :
    sections platform (note :: notes) = .ok (part.toList ++ parts) := by
  obtain ⟨found, listed, same⟩ := bind_eq_ok.1 rest
  cases same
  rw [sections, List.mapM_cons, first, ok_bind, listed]
  cases part <;> rfl

theorem sections_append {between : List Elf.Note} (unrelated : ∀ note ∈ between, Unrelated note)
    {parts : List RegisterSection} (rest : sections platform notes = .ok parts) :
    sections platform (between ++ notes) = .ok parts := by
  induction between with
  | nil => exact rest
  | cons note between ih =>
    obtain ⟨here, unrelated⟩ := List.forall_mem_cons.1 unrelated
    exact sections_cons (plainSection_unrelated here) (ih unrelated)

theorem group_general {first : RegisterSection} (starts : first.name = Platform.generalSection)
    (parts : List RegisterSection) :
    group (first :: parts) = ([], (first :: (group parts).1) :: (group parts).2) := if_pos starts

theorem group_other {first : RegisterSection} (other : first.name ≠ Platform.generalSection)
    (parts : List RegisterSection) :
    group (first :: parts) = (first :: (group parts).1, (group parts).2) := if_neg other

theorem group_thread {parts : List RegisterSection} {threads : List CoreThread}
    (rest : group parts = ([], threads)) (general float : Bytes) :
    group (⟨Platform.generalSection, general⟩ :: ⟨Platform.floatSection, float⟩ :: parts) =
      ([], [⟨Platform.generalSection, general⟩, ⟨Platform.floatSection, float⟩] :: threads) := by
  have other : Platform.floatSection ≠ Platform.generalSection := by decide
  rw [group_general rfl, group_other other, rest]

end CoreThread

namespace Platform

variable {platform : Platform} {general : GeneralSet} {cache : RegisterCache registerFile}
  {name : String} {length : Nat} {contents : Bytes}

/-- A platform whose core files have a place of its own for each register. -/
structure Separates (platform : Platform) (general : GeneralSet) : Prop where
  configured : platform.config.general = some general
  apart : general.table.Apart registerFile
  floatFits : Fxsave.areaSize ≤ platform.config.floatSize

def Collects (platform : Platform) (cache : RegisterCache registerFile) (name : String)
    (length : Nat) (contents : Bytes) : Prop :=
  ∃ set buffer, platform.registerSet? name length = some set ∧ buffer.length = length ∧
    Attempt.run (set.codec.collect cache .all) buffer = (.ok ⟨⟩, contents)

theorem registerSet?_general (configured : platform.config.general = some general) :
    platform.registerSet? generalSection general.size =
      some ⟨generalSection, .exactly general.size, general.table.codec⟩ := by
  simp [registerSet?, RegisterSet.select?, registerSets, configured, RegisterSet.accepts,
    SectionLength.fits]

/-- The table of the general registers does not reach up to those of an FXSAVE area. -/
theorem not_mem_numbers (configured : platform.config.general = some general) {slot : Nat × Nat}
    (listed : slot ∈ general.table.selected .all) : slot.1 ∉ Fxsave.numbers := by
  obtain ⟨_, -, checked⟩ := bind_eq_ok.1 platform.checked
  rw [configured] at checked
  obtain ⟨_, short, -⟩ := bind_eq_ok.1 checked
  have beyond : ∀ number ∈ Fxsave.numbers, generalCount ≤ number := by decide +kernel
  intro number
  unfold Config.checkLength at short
  split at short
  · cases short
  · have inside := (List.getElem?_eq_some_iff.1 (OffsetTable.mem_selected.1 listed).1).1
    have := beyond slot.1 number
    omega

theorem generalSize_eq (configured : platform.config.general = some general) :
    platform.config.generalSize = general.size := by
  rw [Config.generalSize, configured]
  rfl

namespace Separates

variable (separates : platform.Separates general)
include separates

theorem collects_general
    (collects : platform.Collects cache generalSection platform.config.generalSize contents) :
    ∃ buffer : Bytes, buffer.length = general.size ∧
      Attempt.run (general.table.collect cache .all) buffer = (.ok ⟨⟩, contents) := by
  obtain ⟨set, buffer, accepted, sized, collected⟩ := collects
  rw [generalSize_eq separates.configured] at accepted sized
  cases (registerSet?_general separates.configured).symm.trans accepted
  exact ⟨buffer, sized, collected⟩

theorem collects_float
    (collects : platform.Collects cache floatSection platform.config.floatSize contents) :
    ∃ buffer : Bytes, buffer.length = platform.config.floatSize ∧
      Attempt.run (Fxsave.codec.collect cache .all) buffer = (.ok ⟨⟩, contents) := by
  obtain ⟨set, buffer, accepted, sized, collected⟩ := collects
  cases (registerSet?_float separates.configured).symm.trans accepted
  exact ⟨buffer, sized, collected⟩

theorem length_general
    (collects : platform.Collects cache generalSection platform.config.generalSize contents) :
    contents.length = platform.config.generalSize := by
  obtain ⟨buffer, sized, collected⟩ := separates.collects_general collects
  have fits := fits_general separates.configured
  rw [← sized] at fits
  rw [fits.run_collect cache] at collected
  rw [← (Prod.mk.inj collected).2, BlobEdit.length_applyAll, sized,
    generalSize_eq separates.configured]

theorem length_float
    (collects : platform.Collects cache floatSection platform.config.floatSize contents) :
    contents.length = platform.config.floatSize := by
  obtain ⟨buffer, sized, collected⟩ := separates.collects_float collects
  rw [Fxsave.run_collect (le_of_le_of_eq separates.floatFits sized.symm)] at collected
  rw [← (Prod.mk.inj collected).2, BlobEdit.length_applyAll, sized]

end Separates

end Platform

namespace CoreThread

open Platform

structure HoldsGeneral (platform : Platform) (cache : RegisterCache registerFile)
    (note : Elf.Note) : Prop where
  type : note.type = statusNote
  descriptor : ∃ header contents trailer, note.descriptor = header ++ contents ++ trailer ∧
    header.length = generalOffset ∧
    platform.Collects cache generalSection platform.config.generalSize contents

structure HoldsFloat (platform : Platform) (cache : RegisterCache registerFile)
    (note : Elf.Note) : Prop where
  type : note.type = floatNote
  descriptor : platform.Collects cache floatSection platform.config.floatSize note.descriptor

/-- Notes on threads that have the registers of some caches, in this order. -/
inductive Describes (platform : Platform) :
    List (RegisterCache registerFile) → List Elf.Note → Prop where
  | none : Describes platform [] []
  | unrelated {caches : List (RegisterCache registerFile)} {note : Elf.Note} {notes : List Elf.Note} :
    Unrelated note → Describes platform caches notes → Describes platform caches (note :: notes)
  | thread {cache : RegisterCache registerFile} {caches : List (RegisterCache registerFile)}
    {general float : Elf.Note} {between notes : List Elf.Note} :
    HoldsGeneral platform cache general → (∀ note ∈ between, Unrelated note) →
    HoldsFloat platform cache float → Describes platform caches notes →
    Describes platform (cache :: caches) (general :: between ++ float :: notes)

def Renders (platform : Platform) (cache : RegisterCache registerFile) (thread : CoreThread) : Prop :=
  ∃ general float, thread = [⟨generalSection, general⟩, ⟨floatSection, float⟩] ∧
    platform.Collects cache generalSection platform.config.generalSize general ∧
    platform.Collects cache floatSection platform.config.floatSize float

/-- Whatever cache a thread is supplied to, some of the general registers are those of a given cache
afterwards, and so are the floating-point registers for whose values an FXSAVE area has room, but for
the tags. -/
def Revives (platform : Platform) (numbers : List Nat) (cache : RegisterCache registerFile)
    (thread : CoreThread) : Prop :=
  ∀ start, ∃ next, Attempt.run (supply platform thread) start = (.ok ⟨⟩, next) ∧
    (∀ number ∈ numbers, next.Restores cache number) ∧
    ∀ number ∈ Fxsave.numbers, number ≠ ftag → Fxsave.Fits cache number →
      next.Restores cache number

variable {platform : Platform} {general : GeneralSet} {cache : RegisterCache registerFile}
  {note : Elf.Note} {thread : CoreThread}

theorem HoldsGeneral.plainSection (separates : platform.Separates general)
    (holds : HoldsGeneral platform cache note) :
    ∃ contents, platform.Collects cache generalSection platform.config.generalSize contents ∧
      CoreThread.plainSection platform note = .ok (some ⟨generalSection, contents⟩) := by
  obtain ⟨header, contents, trailer, descriptor, ahead, collects⟩ := holds.descriptor
  have sized := separates.length_general collects
  have cut : note.descriptor.slice generalOffset platform.config.generalSize = contents := by
    rw [descriptor, ← ahead, ← sized]
    simp [Bytes.slice]
  have long : ¬ note.descriptor.length < generalOffset + platform.config.generalSize := by
    rw [descriptor, List.length_append, List.length_append, ahead, sized]
    omega
  refine ⟨contents, collects, ?_⟩
  rw [CoreThread.plainSection, if_pos holds.type, ← cut]
  exact if_neg long

theorem HoldsFloat.plainSection (holds : HoldsFloat platform cache note) :
    CoreThread.plainSection platform note = .ok (some ⟨floatSection, note.descriptor⟩) := by
  have other : note.type ≠ statusNote := by
    rw [holds.type]
    decide
  rw [CoreThread.plainSection, if_neg other, if_pos holds.type]
  rfl

theorem Renders.revives (separates : platform.Separates general)
    (renders : Renders platform cache thread) :
    Revives platform ((general.table.selected .all).map Prod.fst) cache thread := by
  obtain ⟨contents, area, rfl, collects, collects'⟩ := renders
  intro start
  obtain ⟨buffer, sized, collected⟩ := separates.collects_general collects
  have fits := fits_general separates.configured
  rw [← sized] at fits
  obtain ⟨middle, supplied, restored⟩ := fits.supply_collected separates.apart collected start
  obtain ⟨buffer', sized', collected'⟩ := separates.collects_float collects'
  obtain ⟨next, supplied', restored', kept⟩ := Fxsave.supply_collected
    (le_of_le_of_eq separates.floatFits sized'.symm) collected' middle
  refine ⟨next, ?_, List.forall_mem_map.2 fun slot listed => ?_, restored'⟩
  · have accepted := registerSet?_general separates.configured
    have accepted' := registerSet?_float separates.configured
    rw [← generalSize_eq separates.configured, ← separates.length_general collects] at accepted
    rw [← separates.length_float collects'] at accepted'
    exact (run_supply_cons_of_ok accepted supplied _).trans
      (run_supply_cons_of_ok accepted' supplied' [])
  · -- The second section has none of the general registers.
    exact kept _ (not_mem_numbers separates.configured listed) (restored slot listed)

theorem Describes.sections (separates : platform.Separates general)
    {caches : List (RegisterCache registerFile)} {notes : List Elf.Note}
    (describes : Describes platform caches notes) :
    ∃ parts threads, CoreThread.sections platform notes = .ok parts ∧ group parts = ([], threads) ∧
      List.Forall₂ (Renders platform) caches threads := by
  -- What is said of a thread puts its two sections in front of those of the threads that follow.
  induction describes with
  | none => exact ⟨[], [], rfl, rfl, .nil⟩
  | unrelated unrelated _ ih =>
    obtain ⟨parts, threads, found, grouped, rendered⟩ := ih
    exact ⟨parts, threads, sections_cons (plainSection_unrelated unrelated) found, grouped, rendered⟩
  | thread general between float _ ih =>
    obtain ⟨parts, threads, found, grouped, rendered⟩ := ih
    obtain ⟨contents, collects, first⟩ := general.plainSection separates
    have second := sections_append between (sections_cons float.plainSection found)
    exact ⟨_, _, sections_cons first second, group_thread grouped contents _,
      .cons ⟨contents, _, rfl, collects, float.descriptor⟩ rendered⟩

/-- The notes of a core file on any number of threads give back as many threads, each with the
registers that were written for it. -/
theorem Describes.revives (separates : platform.Separates general) (fits : EndFits platform)
    {caches : List (RegisterCache registerFile)} {notes : List Elf.Note}
    (describes : Describes platform caches notes) :
    ∃ threads, ofNotes platform notes = .ok threads ∧
      List.Forall₂ (Revives platform ((general.table.selected .all).map Prod.fst)) caches threads := by
  obtain ⟨parts, threads, found, grouped, rendered⟩ := describes.sections separates
  refine ⟨threads, ?_, rendered.imp fun _ _ => Renders.revives separates⟩
  rw [ofNotes_eq fits found, grouped]

end CoreThread

namespace Linux

open CoreThread

theorem separates : platform.Separates ⟨generalTable, generalSize⟩ where
  configured := rfl
  apart := by
    unfold OffsetTable.Apart
    decide +kernel
  floatFits := by decide

theorem generalTable_complete :
    (generalTable.selected .all).map Prod.fst = List.range generalCount := by
  decide +kernel

/-- A core file of GNU/Linux gives back the registers of any number of threads, the general ones and
those of the FXSAVE area. -/
theorem ofNotes_revives {caches : List (RegisterCache registerFile)} {notes : List Elf.Note}
    (describes : Describes platform caches notes) :
    ∃ threads, ofNotes platform notes = .ok threads ∧
      List.Forall₂ (Revives platform (List.range generalCount)) caches threads := by
  rw [← generalTable_complete]
  exact describes.revives separates (by decide)

example : generalOffset = 112 ∧ platform.config.generalSize = 216 ∧
    platform.config.floatSize = 512 := by decide

def statusOf (cache : RegisterCache registerFile) : Elf.Note :=
  ⟨statusNote, Bytes.zeros generalOffset ++
    (Attempt.run (generalTable.collect cache .all) (Bytes.zeros generalSize)).2 ++ [0xff]⟩

def floatOf (cache : RegisterCache registerFile) : Elf.Note :=
  ⟨floatNote, (Attempt.run (Fxsave.codec.collect cache .all) (Bytes.zeros Fxsave.areaSize)).2⟩

theorem holdsGeneral_statusOf (cache : RegisterCache registerFile) :
    HoldsGeneral platform cache (statusOf cache) where
  type := rfl
  descriptor := by
    have fits := Platform.fits_general separates.configured
    rw [← Bytes.length_zeros generalSize] at fits
    have collected : Attempt.run (generalTable.collect cache .all) (Bytes.zeros generalSize) = _ :=
      fits.run_collect cache
    refine ⟨Bytes.zeros generalOffset, _, [0xff], rfl, Bytes.length_zeros _, ?_⟩
    refine ⟨_, _, Platform.registerSet?_general separates.configured, Bytes.length_zeros _, ?_⟩
    rw [collected]
    exact collected

theorem holdsFloat_floatOf (cache : RegisterCache registerFile) :
    HoldsFloat platform cache (floatOf cache) where
  type := rfl
  descriptor := by
    have collected : Attempt.run (Fxsave.codec.collect cache .all) (Bytes.zeros Fxsave.areaSize) = _ :=
      Fxsave.run_collect (Nat.le_of_eq (Bytes.length_zeros _).symm) cache
    refine ⟨_, _, Platform.registerSet?_float separates.configured, Bytes.length_zeros _, ?_⟩
    rw [floatOf, collected]
    exact collected

def sampleRegisters (accumulator : Nat) : RegisterCache registerFile :=
  (RegisterCache.empty registerFile).storeAll
    [.whole rax accumulator, ⟨fctrl, 0, LittleEndian.digits 4 0x37f⟩,
      ⟨fop, 0, LittleEndian.digits 4 0x7ff⟩, ⟨xmm 0, 0, LittleEndian.digits 16 accumulator⟩]

/-- Two threads, with a note of another type in front of, within and behind what is said of them. -/
def sampleNotes : List Elf.Note :=
  [⟨6, []⟩, statusOf (sampleRegisters 1), ⟨3, [0x2a]⟩, floatOf (sampleRegisters 1),
    statusOf (sampleRegisters 2), floatOf (sampleRegisters 2), ⟨6, []⟩]

theorem ofNotes_revives_sampleNotes :
    Describes platform [sampleRegisters 1, sampleRegisters 2] sampleNotes ∧
      Fxsave.Fits (sampleRegisters 1) fop ∧
      ∃ threads, ofNotes platform sampleNotes = .ok threads ∧
        List.Forall₂ (Revives platform (List.range generalCount))
          [sampleRegisters 1, sampleRegisters 2] threads := by
  have unrelated (type : Nat) (other : type ≠ statusNote ∧ type ≠ floatNote) (descriptor : Bytes) :
      Unrelated ⟨type, descriptor⟩ := other
  have describes : Describes platform [sampleRegisters 1, sampleRegisters 2] sampleNotes := by
    apply Describes.unrelated (unrelated 6 (by decide) _)
    apply Describes.thread (holdsGeneral_statusOf _)
      (List.forall_mem_singleton.2 (unrelated 3 (by decide) _)) (holdsFloat_floatOf _)
    apply Describes.thread (holdsGeneral_statusOf _) (List.forall_mem_nil _) (holdsFloat_floatOf _)
    exact Describes.unrelated (unrelated 6 (by decide) _) .none
  have small : LittleEndian.value ((sampleRegisters 1).bytes fop) < 1 <<< 11 := by decide +kernel
  exact ⟨describes, ⟨by decide, fun _ => small⟩, ofNotes_revives describes⟩

end Linux

end Inferior.Amd64

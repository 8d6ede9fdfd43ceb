import Inferior.Proofs.CoreRoundTrip

/-! How the notes of a core file come apart into threads. A note on the status of a thread starts a run of
notes, which ends in front of the next one. The notes of a run make up a thread, and no note is left
over but those in front of the first run. All of this is so only as long as the end of the general
registers in a note can be added up: the size of a register set is not checked from above.
-/

set_option autoImplicit false

namespace Inferior.Amd64.CoreThread

/-- A note on the status of a thread that does not have all of the general registers. -/
structure Short (platform : Platform) (note : Elf.Note) : Prop where
  type : note.type = statusNote
  length : note.descriptor.length < generalOffset + platform.config.generalSize

instance (platform : Platform) (note : Elf.Note) : Decidable (Short platform note) :=
  decidable_of_iff (note.type = statusNote ∧
    note.descriptor.length < generalOffset + platform.config.generalSize)
    ⟨fun both => ⟨both.1, both.2⟩, fun short => ⟨short.type, short.length⟩⟩

def generalPart (platform : Platform) (note : Elf.Note) : RegisterSection :=
  ⟨Platform.generalSection, note.descriptor.slice generalOffset platform.config.generalSize⟩

def floatPart (note : Elf.Note) : RegisterSection := ⟨Platform.floatSection, note.descriptor⟩

def partOf (platform : Platform) (note : Elf.Note) : Option RegisterSection :=
  if note.type = statusNote then some (generalPart platform note)
  else if note.type = floatNote then some (floatPart note)
  else none

/-- A note on the status of a thread, and what follows it up to the next one. -/
structure NoteRun where
  status : Elf.Note
  following : List Elf.Note
  starts : status.type = statusNote
  continues : ∀ note ∈ following, note.type ≠ statusNote

namespace NoteRun

def notes (run : NoteRun) : List Elf.Note := run.status :: run.following

def thread (platform : Platform) (run : NoteRun) : CoreThread :=
  generalPart platform run.status :: (run.following.filter (·.type = floatNote)).map floatPart

end NoteRun

variable {platform : Platform} {note : Elf.Note} {notes : List Elf.Note}

theorem plainSection_of_short (short : Short platform note) :
    plainSection platform note = .error (.shortNote statusNote note.descriptor.length
      (generalOffset + platform.config.generalSize)) := by
  rw [plainSection, if_pos short.type, short.type]
  exact if_pos short.length

theorem plainSection_of_long (long : ¬Short platform note) :
    plainSection platform note = .ok (partOf platform note) := by
  unfold plainSection partOf
  by_cases status : note.type = statusNote
  · rw [if_pos status, if_pos status]
    exact if_neg fun short => long ⟨status, short⟩
  · rw [if_neg status, if_neg status]
    split <;> rfl

theorem sections_of_long (long : ∀ note ∈ notes, ¬Short platform note) :
    sections platform notes = .ok (notes.filterMap (partOf platform)) := by
  induction notes with
  | nil => rfl
  | cons note rest ih =>
    obtain ⟨here, long⟩ := List.forall_mem_cons.1 long
    rw [sections_cons (plainSection_of_long here) (ih long), List.filterMap_cons]
    cases partOf platform note <;> rfl

theorem ofNotes?_of_long (fits : EndFits platform) (overflow : Overflow)
    (long : ∀ note ∈ notes, ¬Short platform note) :
    ofNotes? overflow platform notes = some (.ok (group (notes.filterMap (partOf platform))).2) := by
  rw [ofNotes?_eq fits, sections_of_long long]
  rfl

structure FirstShort (platform : Platform) (notes : List Elf.Note) (note : Elf.Note) : Prop where
  short : Short platform note
  first : ∃ before rest, notes = before ++ note :: rest ∧ ∀ earlier ∈ before, ¬Short platform earlier

theorem FirstShort.ofNotes? (first : FirstShort platform notes note) (fits : EndFits platform)
    (overflow : Overflow) :
    CoreThread.ofNotes? overflow platform notes = some (.error (.shortNote statusNote
      note.descriptor.length (generalOffset + platform.config.generalSize))) := by
  obtain ⟨before, rest, rfl, long⟩ := first.first
  -- All notes before it have been gone through without a failure.
  obtain ⟨found, listed, -⟩ := bind_eq_ok.1 (sections_of_long long)
  rw [ofNotes?_eq fits, sections, List.mapM_append, listed, ok_bind, List.mapM_cons,
    plainSection_of_short first.short]
  rfl

theorem long_or_firstShort (platform : Platform) (notes : List Elf.Note) :
    (∀ note ∈ notes, ¬Short platform note) ∨ ∃ note, FirstShort platform notes note := by
  induction notes with
  | nil => exact .inl (List.forall_mem_nil _)
  | cons note rest ih =>
    by_cases short : Short platform note
    · exact .inr ⟨note, short, [], rest, rfl, List.forall_mem_nil _⟩
    · rcases ih with long | ⟨found, first, before, after, rfl, long⟩
      · exact .inl (List.forall_mem_cons.2 ⟨short, long⟩)
      · exact .inr ⟨found, first, note :: before, after, rfl, List.forall_mem_cons.2 ⟨short, long⟩⟩

theorem filterMap_partOf (others : ∀ note ∈ notes, note.type ≠ statusNote) :
    notes.filterMap (partOf platform) = (notes.filter (·.type = floatNote)).map floatPart := by
  induction notes with
  | nil => rfl
  | cons note rest ih =>
    obtain ⟨here, others⟩ := List.forall_mem_cons.1 others
    rw [List.filterMap_cons, List.filter_cons, partOf, if_neg here, ih others]
    by_cases float : note.type = floatNote
    · simp [float]
    · simp [float]

theorem NoteRun.filterMap_notes (run : NoteRun) :
    run.notes.filterMap (partOf platform) = run.thread platform := by
  have status : partOf platform run.status = some (generalPart platform run.status) :=
    if_pos run.starts
  rw [notes, List.filterMap_cons, status, filterMap_partOf run.continues]
  rfl

theorem group_append {parts : List RegisterSection}
    (others : ∀ part ∈ parts, part.name ≠ Platform.generalSection) (rest : List RegisterSection) :
    group (parts ++ rest) = (parts ++ (group rest).1, (group rest).2) := by
  induction parts with
  | nil => rfl
  | cons part parts ih =>
    obtain ⟨here, others⟩ := List.forall_mem_cons.1 others
    rw [List.cons_append, group_other here, ih others]
    rfl

theorem name_floatParts (notes : List Elf.Note) :
    ∀ part ∈ (notes.filter (·.type = floatNote)).map floatPart,
      part.name ≠ Platform.generalSection :=
  have other : Platform.floatSection ≠ Platform.generalSection := by decide
  List.forall_mem_map.2 fun _ _ => other

theorem group_threads (runs : List NoteRun) :
    group (runs.map (NoteRun.thread platform)).flatten = ([], runs.map (NoteRun.thread platform)) := by
  induction runs with
  | nil => rfl
  | cons run rest ih =>
    rw [List.map_cons, List.flatten_cons, NoteRun.thread, List.cons_append, group_general rfl,
      group_append (name_floatParts _), ih, List.append_nil]

/-- Notes that come apart into runs, but for those in front of the first run. -/
structure Splits (notes leading : List Elf.Note) (runs : List NoteRun) : Prop where
  whole : notes = leading ++ (runs.map NoteRun.notes).flatten
  ahead : ∀ note ∈ leading, note.type ≠ statusNote

theorem exists_splits (notes : List Elf.Note) : ∃ leading runs, Splits notes leading runs := by
  -- From the last note to the first. What was ahead of the first run follows a note that starts one.
  induction notes with
  | nil => exact ⟨[], [], rfl, List.forall_mem_nil _⟩
  | cons note rest ih =>
    obtain ⟨leading, runs, rfl, ahead⟩ := ih
    by_cases status : note.type = statusNote
    · exact ⟨[], ⟨note, leading, status, ahead⟩ :: runs, rfl, List.forall_mem_nil _⟩
    · exact ⟨note :: leading, runs, rfl, List.forall_mem_cons.2 ⟨status, ahead⟩⟩

namespace Splits

variable {leading : List Elf.Note} {runs : List NoteRun}

theorem filterMap_runs (runs : List NoteRun) :
    (runs.map NoteRun.notes).flatten.filterMap (partOf platform) =
      (runs.map (NoteRun.thread platform)).flatten := by
  rw [List.filterMap_flatten, List.map_map]
  exact congrArg List.flatten (List.map_congr_left fun run _ => run.filterMap_notes)

theorem group (splits : Splits notes leading runs) :
    (CoreThread.group (notes.filterMap (partOf platform))).2 =
      runs.map (NoteRun.thread platform) := by
  rw [splits.whole, List.filterMap_append, filterMap_partOf splits.ahead, filterMap_runs,
    group_append (name_floatParts _), group_threads]

theorem dropWhile (splits : Splits notes leading runs) :
    notes.dropWhile (·.type ≠ statusNote) = (runs.map NoteRun.notes).flatten := by
  have ahead : ∀ note ∈ leading, decide (note.type ≠ statusNote) = true := by
    simpa using splits.ahead
  rw [splits.whole, List.dropWhile_append_of_pos ahead]
  cases runs with
  | nil => rfl
  | cons run rest =>
    have starts : ¬decide (run.status.type ≠ statusNote) = true := by simp [run.starts]
    exact List.dropWhile_cons_of_neg starts

theorem countP (splits : Splits notes leading runs) :
    notes.countP (·.type = statusNote) = runs.length := by
  have none {notes : List Elf.Note} (others : ∀ note ∈ notes, note.type ≠ statusNote) :
      notes.countP (·.type = statusNote) = 0 := by
    simpa using others
  rw [splits.whole, List.countP_append, none splits.ahead, Nat.zero_add]
  clear splits
  induction runs with
  | nil => rfl
  | cons run rest ih =>
    rw [List.map_cons, List.flatten_cons, List.countP_append, ih, NoteRun.notes, List.countP_cons,
      none run.continues, List.length_cons]
    simp [run.starts, Nat.add_comm]

/-- Further notes that start with one on the status of a thread add their runs to those before them. -/
theorem append {others leading' : List Elf.Note} {runs' : List NoteRun}
    (splits : Splits notes leading runs) (splits' : Splits (note :: others) leading' runs')
    (status : note.type = statusNote) :
    Splits (notes ++ note :: others) leading (runs ++ runs') := by
  have none : leading' = [] := by
    cases leading' with
    | nil => rfl
    | cons first rest =>
      obtain ⟨rfl, -⟩ := List.cons.inj splits'.whole
      exact absurd status (splits'.ahead note List.mem_cons_self)
  refine ⟨?_, splits.ahead⟩
  rw [splits.whole, splits'.whole, none, List.nil_append, List.map_append, List.flatten_append,
    List.append_assoc]

end Splits

/-- There are threads if no note is short, and they are those of the runs. -/
theorem exists_runs {threads : List CoreThread} {overflow : Overflow} (fits : EndFits platform)
    (found : ofNotes? overflow platform notes = some (.ok threads)) :
    (∀ note ∈ notes, ¬Short platform note) ∧
      ∃ leading runs, Splits notes leading runs ∧ threads = runs.map (NoteRun.thread platform) := by
  rcases long_or_firstShort platform notes with long | ⟨note, first⟩
  · obtain ⟨leading, runs, splits⟩ := exists_splits notes
    rw [ofNotes?_of_long fits overflow long, splits.group] at found
    cases found
    exact ⟨long, leading, runs, splits, rfl⟩
  · rw [first.ofNotes? fits overflow] at found
    cases found

/-- The notes of a core file give a thread for each note on the status of one, if none of those is short.
A thread has the registers of its own notes and of no others, in the order of the notes. More notes
add threads, if they start with the status of one. -/
structure Groups (overflow : Overflow) (platform : Platform) (notes : List Elf.Note) : Prop where
  succeeds : (∃ threads, ofNotes? overflow platform notes = some (.ok threads)) ↔
    ∀ note ∈ notes, ¬Short platform note
  fails {note : Elf.Note} (first : FirstShort platform notes note) :
    ofNotes? overflow platform notes = some (.error (.shortNote statusNote note.descriptor.length
      (generalOffset + platform.config.generalSize)))
  runs {threads : List CoreThread} (found : ofNotes? overflow platform notes = some (.ok threads)) :
    threads.length = notes.countP (·.type = statusNote) ∧
    (∃ leading runs, Splits notes leading runs ∧ threads = runs.map (NoteRun.thread platform)) ∧
    threads.flatten = (notes.dropWhile (·.type ≠ statusNote)).filterMap (partOf platform)
  append {note : Elf.Note} {others : List Elf.Note} {front back : List CoreThread}
    (status : note.type = statusNote)
    (found : ofNotes? overflow platform notes = some (.ok front))
    (found' : ofNotes? overflow platform (note :: others) = some (.ok back)) :
    ofNotes? overflow platform (notes ++ note :: others) = some (.ok (front ++ back))

theorem groups_of_endFits (fits : EndFits platform) (overflow : Overflow) (notes : List Elf.Note) :
    Groups overflow platform notes where
  succeeds := ⟨fun ⟨_, found⟩ => (exists_runs fits found).1,
    fun long => ⟨_, ofNotes?_of_long fits overflow long⟩⟩
  fails first := first.ofNotes? fits overflow
  runs found := by
    obtain ⟨-, leading, runs, splits, rfl⟩ := exists_runs fits found
    refine ⟨?_, ⟨leading, runs, splits, rfl⟩, ?_⟩
    · rw [splits.countP, List.length_map]
    · rw [splits.dropWhile, Splits.filterMap_runs]
  append {note others front back} status found found' := by
    obtain ⟨long, leading, runs, splits, rfl⟩ := exists_runs fits found
    obtain ⟨long', leading', runs', splits', rfl⟩ := exists_runs fits found'
    have together : ∀ other ∈ notes ++ note :: others, ¬Short platform other :=
      List.forall_mem_append.2 ⟨long, long'⟩
    rw [ofNotes?_of_long fits overflow together, (splits.append splits' status).group,
      List.map_append]

def emptyStatus : Elf.Note := ⟨statusNote, []⟩

/-- A length that is told to be needed is where the general registers end. -/
theorem add_of_sectionOf? {overflow : Overflow} {type length needed : Nat}
    (status : note.type = statusNote)
    (refused : sectionOf? overflow platform note = some (.error (.shortNote type length needed))) :
    overflow.add generalOffset platform.config.generalSize = some needed := by
  unfold sectionOf? at refused
  dsimp only at refused
  rw [if_pos status] at refused
  obtain ⟨stop, added, refused⟩ := Option.bind_eq_some_iff.1 refused
  split at refused
  · cases refused
    exact added
  · split at refused <;> cases refused

theorem sectionOf?_of_ofNotes? {overflow : Overflow} {error : CoreError}
    (failed : ofNotes? overflow platform [note] = some (.error error)) :
    sectionOf? overflow platform note = some (.error error) := by
  have alone : ofNotes? overflow platform [note] = (sectionOf? overflow platform note).map
      (Except.map fun part => (group ([part].filterMap id)).2) := by
    unfold ofNotes?
    rw [List.mapM_cons, List.mapM_nil]
    rcases sectionOf? overflow platform note with _ | _ | _ <;> rfl
  rw [alone] at failed
  obtain ⟨result, found, failed⟩ := Option.map_eq_some_iff.1 failed
  cases result with
  | error other =>
    cases failed
    exact found
  | ok part => cases failed

theorem endFits_of_groups {overflow : Overflow} (groups : ∀ notes, Groups overflow platform notes) :
    EndFits platform := by
  by_contra large
  have short : Short platform emptyStatus :=
    ⟨rfl, Nat.lt_add_right platform.config.generalSize (by decide : 0 < generalOffset)⟩
  have refused := (groups [emptyStatus]).fails ⟨short, [], [], rfl, List.forall_mem_nil _⟩
  exact large (Overflow.add_eq_iff.1 (add_of_sectionOf? rfl (sectionOf?_of_ofNotes? refused)))

/-- Two threads, the first of which has floating-point registers. The note in front of them that has some
belongs to no thread. -/
def sampleRuns : List Elf.Note :=
  [⟨floatNote, [0x2a]⟩, ⟨statusNote, Bytes.zeros 328⟩, ⟨3, []⟩, ⟨floatNote, Bytes.zeros 512⟩,
    ⟨statusNote, Bytes.zeros 336⟩]

/-- A platform whose general registers take up all but one of the bytes that 64 bits can count. -/
def largestPlatform : Platform := ⟨{ general := some ⟨[], (1 <<< 64) - 1⟩ }, by decide⟩

end Inferior.Amd64.CoreThread

import Mathlib.Data.List.Pairwise
import Mathlib.Data.Nat.Find
import Inferior.Architecture.Sample
import Inferior.Proofs.RegisterTransfers

/-! What a table of offsets makes of a transfer. Either the slots of some registers are supplied, or the
images of some are collected, and nothing else changes. That says all there is to say about the
outcome, so it does not matter in which order the registers are taken.
-/

set_option autoImplicit false

namespace Inferior

theorem Selection.includes_only {number other : Nat} :
    (Selection.only number).includes other = true ↔ other = number :=
  beq_iff_eq.trans eq_comm

namespace OffsetTable

variable {file : RegisterFile} {table : OffsetTable} {blob : Bytes}

def Lists (table : OffsetTable) (number offset : Nat) : Prop := table[number]? = some (some offset)

theorem Lists.eq {number offset offset' : Nat} (listed : table.Lists number offset)
    (listed' : table.Lists number offset') : offset = offset' :=
  Option.some.inj (Option.some.inj (listed.symm.trans listed'))

theorem Lists.selected {number offset : Nat} (listed : table.Lists number offset)
    {selection : Selection} (taken : selection.includes number = true) :
    (number, offset) ∈ table.selected selection := mem_selected.2 ⟨listed, taken⟩

def Covers (table : OffsetTable) (file : RegisterFile) (number index : Nat) : Prop :=
  ∃ offset, table.Lists number offset ∧ offset ≤ index ∧ index < offset + file.width number

def Disjoint (table : OffsetTable) (file : RegisterFile) : Prop :=
  ∀ index number number', table.Covers file number index → table.Covers file number' index →
    number = number'

inductive SlotRefused (file : RegisterFile) (length number offset : Nat) :
    RegisterSetError → Prop where
  | unsized (none : file.size? number = none) :
      SlotRefused file length number offset (.register (.invalidRegister number))
  | outside {size : Nat} (sized : file.size? number = some size) (short : length < offset + size) :
      SlotRefused file length number offset (.blobTooShort (offset + size) length)

theorem slotSize_eq_error_iff {length number offset : Nat} {error : RegisterSetError} :
    slotSize file number offset length = .error error ↔
      SlotRefused file length number offset error := by
  unfold slotSize
  constructor
  · intro refused
    split at refused
    · cases refused
      exact .unsized ‹_›
    · split at refused
      · cases refused
        exact .outside ‹_› ‹_›
      · cases refused
  · rintro (none | ⟨sized, short⟩)
    · rw [none]
      rfl
    · rw [sized]
      exact if_pos short

theorem fits_iff {length : Nat} : table.Fits file length ↔
    ∀ number offset error, table.Lists number offset → ¬SlotRefused file length number offset error := by
  refine forall₂_congr fun number offset => ?_
  constructor
  · rintro fits error listed (none | ⟨sized, short⟩)
    · have := (fits listed).1
      rw [none] at this
      cases this
    · have := (fits listed).2
      rw [RegisterFile.width, sized, Option.getD_some] at this
      omega
  · intro accepted listed
    cases sized : file.size? number with
    | none => exact absurd (.unsized sized) (accepted _ listed)
    | some size =>
      refine ⟨rfl, Nat.not_lt.1 fun short => ?_⟩
      rw [RegisterFile.width, sized, Option.getD_some] at short
      exact accepted _ listed (.outside sized short)

/-- The register whose slot is the first that cannot be transferred. -/
structure FirstRefused (table : OffsetTable) (file : RegisterFile) (length number : Nat)
    (error : RegisterSetError) : Prop where
  refused : ∃ offset, table.Lists number offset ∧ SlotRefused file length number offset error
  earlier : ∀ before < number, ∀ offset error, table.Lists before offset →
    ¬SlotRefused file length before offset error

theorem FirstRefused.not_fits {length number : Nat} {error : RegisterSetError}
    (first : table.FirstRefused file length number error) : ¬table.Fits file length := by
  obtain ⟨offset, listed, refused⟩ := first.refused
  exact fun fits => fits_iff.1 fits number offset error listed refused

theorem exists_firstRefused {length : Nat} (unfit : ¬table.Fits file length) :
    ∃ number error, table.FirstRefused file length number error := by
  classical
  have unfitting : ∃ number offset error,
      table.Lists number offset ∧ SlotRefused file length number offset error := by
    simpa only [fits_iff, not_forall, not_not, exists_prop] using unfit
  obtain ⟨offset, error, refused⟩ := Nat.find_spec unfitting
  refine ⟨Nat.find unfitting, error, ⟨offset, refused⟩, ?_⟩
  intro before earlier offset error listed refused
  exact Nat.find_min unfitting earlier ⟨offset, error, listed, refused⟩

/-- Some of the registers have been given their slots, and no other register has changed. -/
structure Supplied (table : OffsetTable) (blob : Bytes) (chosen : Nat → Prop)
    (before after : RegisterCache file) : Prop where
  valid {number offset : Nat} (listed : table.Lists number offset) (taken : chosen number) :
    after.statuses[number]? = some .valid
  bytes {number offset : Nat} (listed : table.Lists number offset) (taken : chosen number) :
    after.bytes number = blob.slice offset (file.width number)
  others {number : Nat} (other : ∀ offset, table.Lists number offset → ¬chosen number) :
    after.AgreesAt before number

namespace Supplied

variable {chosen chosen' : Nat → Prop} {before middle after after' : RegisterCache file}

theorem refl (cache : RegisterCache file) : table.Supplied blob (fun _ => False) cache cache where
  valid _ := False.elim
  bytes _ := False.elim
  others _ := .refl cache _

theorem trans (first : table.Supplied blob chosen before middle)
    (second : table.Supplied blob chosen' middle after) :
    table.Supplied blob (fun number => chosen number ∨ chosen' number) before after where
  -- A register that is supplied twice has what it was given last, which is no other value.
  valid {number offset} listed taken := by
    by_cases later : chosen' number
    · exact second.valid listed later
    · exact (second.others fun _ _ => later).status.trans
        (first.valid listed (taken.resolve_right later))
  bytes {number offset} listed taken := by
    by_cases later : chosen' number
    · exact second.bytes listed later
    · exact (second.others fun _ _ => later).bytes.trans
        (first.bytes listed (taken.resolve_right later))
  others other :=
    (second.others fun offset listed => (not_or.1 (other offset listed)).2).trans
      (first.others fun offset listed => (not_or.1 (other offset listed)).1)

theorem congr (supplied : table.Supplied blob chosen before after)
    (same : ∀ number offset, table.Lists number offset → (chosen number ↔ chosen' number)) :
    table.Supplied blob chosen' before after where
  valid listed taken := supplied.valid listed ((same _ _ listed).2 taken)
  bytes listed taken := supplied.bytes listed ((same _ _ listed).2 taken)
  others other := supplied.others fun offset listed taken =>
    other offset listed ((same _ _ listed).1 taken)

theorem unique (supplied : table.Supplied blob chosen before after)
    (supplied' : table.Supplied blob chosen before after') : after = after' := by
  apply RegisterCache.eq_of_agrees
  intro number
  by_cases moved : ∃ offset, table.Lists number offset ∧ chosen number
  · obtain ⟨offset, listed, taken⟩ := moved
    exact ⟨(supplied.valid listed taken).trans (supplied'.valid listed taken).symm,
      (supplied.bytes listed taken).trans (supplied'.bytes listed taken).symm⟩
  · have other : ∀ offset, table.Lists number offset → ¬chosen number :=
      fun offset listed taken => moved ⟨offset, listed, taken⟩
    have agrees := supplied'.others other
    exact (supplied.others other).trans ⟨agrees.status.symm, agrees.bytes.symm⟩

end Supplied

theorem Fits.supplies (fits : table.Fits file blob.length) (selection : Selection)
    (cache : RegisterCache file) :
    ∃ after, Attempt.run (table.supply selection blob) cache = (.ok ⟨⟩, after) ∧
      table.Supplied blob (selection.includes · = true) cache after := by
  refine ⟨_, fits.run_supply cache, fun {number offset} listed taken => ?_,
    fun {number offset} listed taken => ?_, fun {number} other => ?_⟩
  · have selected := listed.selected taken
    exact cache.status_storeAll_of_mem (List.mem_map_of_mem selected) (fits.known selected)
  · have selected := listed.selected taken
    exact cache.bytes_storeAll_of_mem fits.whole (List.pairwise_map.2 (table.distinct_selected _))
      (List.mem_map_of_mem selected)
  · have different : ∀ write ∈ (table.selected selection).map (slotWrite file blob),
        write.number ≠ number := by
      refine List.forall_mem_map.2 fun slot selected same => ?_
      obtain ⟨listed, taken⟩ := mem_selected.1 selected
      subst same
      exact other _ listed taken
    exact ⟨cache.status_storeAll_of_ne different, cache.bytes_storeAll_of_ne fits.whole different⟩

theorem Fits.supplyEach (fits : table.Fits file blob.length) (order : List Nat)
    (cache : RegisterCache file) :
    ∃ after, Attempt.run (table.codec.supplyEach order blob) cache = (.ok ⟨⟩, after) ∧
      table.Supplied blob (· ∈ order) cache after := by
  -- By induction on the order, from any cache. What is said of the outcome allows for a register that
  -- comes up more than once, and for one that the table does not have.
  induction order generalizing cache with
  | nil => exact ⟨cache, rfl, (Supplied.refl cache).congr fun _ _ _ => by simp⟩
  | cons number rest ih =>
    obtain ⟨middle, run, first⟩ := fits.supplies (.only number) cache
    obtain ⟨after, run', later⟩ := ih middle
    refine ⟨after, ?_, (first.trans later).congr fun other _ _ => ?_⟩
    · change Attempt.run (table.supply (.only number) blob >>= fun _ =>
        table.codec.supplyEach rest blob) cache = _
      rw [Attempt.run_bind, run]
      exact run'
    · rw [Selection.includes_only, List.mem_cons]

def below (table : OffsetTable) (number : Nat) : OffsetTable := table.take number

theorem selected_below {number offset : Nat} (listed : table.Lists number offset) :
    ∃ rest, table.selected .all = (table.below number).selected .all ++ (number, offset) :: rest := by
  obtain ⟨inside, found⟩ := List.getElem?_eq_some_iff.1 listed
  -- The entries behind it are numbered on from there.
  have split : table = table.take number ++ some offset :: table.drop (number + 1) := by
    rw [← found, List.getElem_cons_drop, List.take_append_drop]
  have length : (table.take number).length = number := List.length_take_of_le (Nat.le_of_lt inside)
  have whole := congrArg (fun table : OffsetTable => table.selected .all) split
  apply Exists.intro
  refine whole.trans ?_
  dsimp only [selected]
  rw [List.zipIdx_append, List.filterMap_append, List.zipIdx_cons, List.filterMap_cons, length,
    Nat.zero_add]
  rfl

theorem lists_below {number before offset : Nat} :
    (table.below number).Lists before offset ↔ before < number ∧ table.Lists before offset := by
  unfold Lists below
  rw [List.getElem?_take]
  split
  · simp [*]
  · simp [*]

theorem FirstRefused.supplies {number : Nat} {error : RegisterSetError}
    (first : table.FirstRefused file blob.length number error) (cache : RegisterCache file) :
    ∃ after, Attempt.run (table.supply .all blob) cache = (.error error, after) ∧
      table.Supplied blob (· < number) cache after := by
  obtain ⟨offset, listed, refused⟩ := first.refused
  obtain ⟨rest, split⟩ := selected_below listed
  have fits : (table.below number).Fits file blob.length :=
    fits_iff.2 fun before offset error taken =>
      first.earlier before (lists_below.1 taken).1 offset error (lists_below.1 taken).2
  obtain ⟨after, run, supplied⟩ := fits.supplies .all cache
  refine ⟨after, ?_, fun {before offset} taken earlier => ?_, fun {before offset} taken earlier => ?_,
    fun {before} other => ?_⟩
  · rw [supply, split]
    apply Attempt.run_forM_of_error run
    rw [Attempt.run_bind, Attempt.run_ofExcept, slotSize_eq_error_iff.2 refused]
  · exact supplied.valid (lists_below.2 ⟨earlier, taken⟩) rfl
  · exact supplied.bytes (lists_below.2 ⟨earlier, taken⟩) rfl
  · exact supplied.others fun offset taken _ =>
      other offset (lists_below.1 taken).2 (lists_below.1 taken).1

theorem supply_cases (table : OffsetTable) (blob : Bytes) (cache : RegisterCache file) :
    (table.Fits file blob.length ∧ ∃ after,
      Attempt.run (table.supply .all blob) cache = (.ok ⟨⟩, after) ∧
      table.Supplied blob (fun _ => True) cache after) ∨
    ∃ number error after, table.FirstRefused file blob.length number error ∧
      Attempt.run (table.supply .all blob) cache = (.error error, after) ∧
      table.Supplied blob (· < number) cache after := by
  by_cases fits : table.Fits file blob.length
  · obtain ⟨after, run, supplied⟩ := fits.supplies .all cache
    exact .inl ⟨fits, after, run, supplied.congr fun _ _ _ => by simp [Selection.includes]⟩
  · obtain ⟨number, error, first⟩ := exists_firstRefused fits
    obtain ⟨after, run, supplied⟩ := first.supplies cache
    exact .inr ⟨number, error, after, first, run, supplied⟩

theorem Fits.supplyEach_eq (fits : table.Fits file blob.length) {order : List Nat}
    (complete : ∀ number offset, table.Lists number offset → number ∈ order)
    (cache : RegisterCache file) :
    Attempt.run (table.codec.supplyEach order blob) cache =
      Attempt.run (table.supply .all blob) cache := by
  obtain ⟨after, run, supplied⟩ := fits.supplies .all cache
  obtain ⟨after', run', supplied'⟩ := fits.supplyEach order cache
  have same := supplied'.unique (supplied.congr fun number offset listed =>
    ⟨fun _ => complete number offset listed, fun _ => rfl⟩)
  rw [run', run, same]

/-- The images of some of the registers have been put into their slots, and nothing else has changed. -/
structure Collected (table : OffsetTable) (cache : RegisterCache file) (chosen : Nat → Prop)
    (before after : Bytes) : Prop where
  length : after.length = before.length
  slots {number offset : Nat} (listed : table.Lists number offset) (taken : chosen number) :
    after.slice offset (file.width number) = cache.bytes number
  others {index : Nat} (other : ∀ number, chosen number → ¬table.Covers file number index) :
    after[index]? = before[index]?

namespace Collected

variable {chosen chosen' : Nat → Prop} {cache : RegisterCache file} {before middle after after' : Bytes}

theorem refl (blob : Bytes) : table.Collected cache (fun _ => False) blob blob where
  length := rfl
  slots _ := False.elim
  others _ := rfl

theorem slice_of_disjoint (collected : table.Collected cache chosen before after)
    (disjoint : table.Disjoint file) {number offset : Nat} (listed : table.Lists number offset)
    (other : ¬chosen number) :
    after.slice offset (file.width number) = before.slice offset (file.width number) := by
  apply List.ext_getElem?
  intro index
  simp only [Bytes.getElem?_slice]
  split
  · have inside : table.Covers file number (offset + index) :=
      ⟨offset, listed, Nat.le_add_right _ _, Nat.add_lt_add_left ‹_› _⟩
    refine collected.others fun number' taken inside' => ?_
    rw [disjoint _ _ _ inside inside'] at other
    exact other taken
  · rfl

theorem trans (first : table.Collected cache chosen before middle)
    (second : table.Collected cache chosen' middle after) (disjoint : table.Disjoint file) :
    table.Collected cache (fun number => chosen number ∨ chosen' number) before after where
  length := second.length.trans first.length
  slots {number offset} listed taken := by
    by_cases later : chosen' number
    · exact second.slots listed later
    · rw [second.slice_of_disjoint disjoint listed later]
      exact first.slots listed (taken.resolve_right later)
  others other :=
    (second.others fun number taken => other number (.inr taken)).trans
      (first.others fun number taken => other number (.inl taken))

theorem congr (collected : table.Collected cache chosen before after)
    (same : ∀ number offset, table.Lists number offset → (chosen number ↔ chosen' number)) :
    table.Collected cache chosen' before after where
  length := collected.length
  slots listed taken := collected.slots listed ((same _ _ listed).2 taken)
  others other := collected.others fun number taken => by
    rintro ⟨offset, listed, inside⟩
    exact other number ((same _ _ listed).1 taken) ⟨offset, listed, inside⟩

theorem getElem?_eq (collected : table.Collected cache chosen before after) {number offset index : Nat}
    (listed : table.Lists number offset) (taken : chosen number) (below : index < file.width number) :
    after[offset + index]? = (cache.bytes number)[index]? := by
  rw [← collected.slots listed taken, Bytes.getElem?_slice, if_pos below]

theorem unique (collected : table.Collected cache chosen before after)
    (collected' : table.Collected cache chosen before after') : after = after' := by
  apply List.ext_getElem?
  intro index
  by_cases moved : ∃ number, chosen number ∧ table.Covers file number index
  · obtain ⟨number, taken, offset, listed, start, stop⟩ := moved
    obtain ⟨index, rfl⟩ := Nat.exists_eq_add_of_le start
    have below := Nat.lt_of_add_lt_add_left stop
    rw [collected.getElem?_eq listed taken below, collected'.getElem?_eq listed taken below]
  · have other : ∀ number, chosen number → ¬table.Covers file number index :=
      fun number taken covered => moved ⟨number, taken, covered⟩
    rw [collected.others other, collected'.others other]

theorem one {slot : Nat × Nat} (listed : table.Lists slot.1 slot.2)
    (inside : slot.2 + file.width slot.1 ≤ blob.length) :
    table.Collected cache (· = slot.1) blob ((slotEdit cache slot).apply blob) where
  length := BlobEdit.length_apply _ _
  slots {number offset} listed' taken := by
    subst taken
    rw [listed'.eq listed]
    exact BlobEdit.slice_apply inside
  others {index} other := by
    have outside := not_and.1 fun both => other slot.1 rfl ⟨slot.2, listed, both⟩
    have beside : index < slot.2 ∨ slot.2 + file.width slot.1 ≤ index := by omega
    exact @BlobEdit.getElem?_apply_of_outside (slotEdit cache slot) _ inside _ beside

theorem all {slots : List (Nat × Nat)} (disjoint : table.Disjoint file)
    (listed : ∀ slot ∈ slots, table.Lists slot.1 slot.2)
    (inside : ∀ slot ∈ slots, slot.2 + file.width slot.1 ≤ blob.length) :
    table.Collected cache (∃ slot ∈ slots, · = slot.1) blob
      (BlobEdit.applyAll (slots.map (slotEdit cache)) blob) := by
  -- By induction on the slots, for any blob. Those that follow keep out of the first one.
  induction slots generalizing blob with
  | nil => exact (refl blob).congr fun _ _ _ => by simp
  | cons slot rest ih =>
    obtain ⟨here, listed⟩ := List.forall_mem_cons.1 listed
    obtain ⟨fits, inside⟩ := List.forall_mem_cons.1 inside
    have first := @one _ _ _ cache _ here fits
    rw [← first.length] at inside
    exact (first.trans (ih listed inside) disjoint).congr fun _ _ _ => by simp

end Collected

/-- Collecting a selection to a blob that has all slots, none of which share a byte. -/
theorem Fits.collects (fits : table.Fits file blob.length) (disjoint : table.Disjoint file)
    (selection : Selection) (cache : RegisterCache file) :
    ∃ after, Attempt.run (table.collect cache selection) blob = (.ok ⟨⟩, after) ∧
      table.Collected cache (selection.includes · = true) blob after := by
  have collected := @Collected.all _ _ _ cache _ disjoint
    (fun slot selected => (@mem_selected table selection slot).1 selected |>.1)
    (fun slot selected => fits.inside selected)
  refine ⟨_, fits.run_collect cache, collected.congr fun number offset listed => ?_⟩
  constructor
  · rintro ⟨slot, selected, rfl⟩
    exact (mem_selected.1 selected).2
  · exact fun taken => ⟨(number, offset), mem_selected.2 ⟨listed, taken⟩, rfl⟩

theorem Fits.collectEach (fits : table.Fits file blob.length) (disjoint : table.Disjoint file)
    (order : List Nat) (cache : RegisterCache file) :
    ∃ after, Attempt.run (table.codec.collectEach cache order) blob = (.ok ⟨⟩, after) ∧
      table.Collected cache (· ∈ order) blob after := by
  induction order generalizing blob with
  | nil => exact ⟨blob, rfl, (Collected.refl blob).congr fun _ _ _ => by simp⟩
  | cons number rest ih =>
    obtain ⟨middle, run, first⟩ := fits.collects disjoint (.only number) cache
    rw [← first.length] at fits
    obtain ⟨after, run', later⟩ := ih fits
    refine ⟨after, ?_, (first.trans later disjoint).congr fun other _ _ => ?_⟩
    · change Attempt.run (table.collect cache (.only number) >>= fun _ =>
        table.codec.collectEach cache rest) blob = _
      rw [Attempt.run_bind, run]
      exact run'
    · rw [Selection.includes_only, List.mem_cons]

theorem Fits.collectEach_eq (fits : table.Fits file blob.length) (disjoint : table.Disjoint file)
    {order : List Nat} (complete : ∀ number offset, table.Lists number offset → number ∈ order)
    (cache : RegisterCache file) :
    Attempt.run (table.codec.collectEach cache order) blob =
      Attempt.run (table.collect cache .all) blob := by
  obtain ⟨after, run, collected⟩ := fits.collects disjoint .all cache
  obtain ⟨after', run', collected'⟩ := fits.collectEach disjoint order cache
  have same := collected'.unique (collected.congr fun number offset listed =>
    ⟨fun _ => complete number offset listed, fun _ => rfl⟩)
  rw [run', run, same]

/-- What has been supplied is collected as it was, and no other byte changes. -/
theorem Fits.exists_collected (fits : table.Fits file blob.length) {out : Bytes}
    (room : table.Fits file out.length) (disjoint : table.Disjoint file) (start : RegisterCache file) :
    ∃ middle after, Attempt.run (table.supply .all blob) start = (.ok ⟨⟩, middle) ∧
      Attempt.run (table.collect middle .all) out = (.ok ⟨⟩, after) ∧ after.length = out.length ∧
      (∀ index number, table.Covers file number index → after[index]? = blob[index]?) ∧
      ∀ index, (∀ number, ¬table.Covers file number index) → after[index]? = out[index]? := by
  obtain ⟨middle, run, supplied⟩ := fits.supplies .all start
  obtain ⟨after, run', collected⟩ := room.collects disjoint .all middle
  refine ⟨middle, after, run, run', collected.length, fun index number => ?_,
    fun index outside => collected.others fun number _ => outside number⟩
  rintro ⟨offset, listed, reached, stop⟩
  obtain ⟨index, rfl⟩ := Nat.exists_eq_add_of_le reached
  have below := Nat.lt_of_add_lt_add_left stop
  rw [collected.getElem?_eq listed rfl below, supplied.bytes listed rfl, Bytes.getElem?_slice,
    if_pos below]

/-- What has been collected is supplied as it was, whatever was there before. -/
theorem Fits.exists_restored (fits : table.Fits file blob.length) (disjoint : table.Disjoint file)
    (cache start : RegisterCache file) :
    ∃ after next, Attempt.run (table.collect cache .all) blob = (.ok ⟨⟩, after) ∧
      Attempt.run (table.supply .all after) start = (.ok ⟨⟩, next) ∧
      ∀ number offset, table.Lists number offset → next.Restores cache number := by
  obtain ⟨after, run, collected⟩ := fits.collects disjoint .all cache
  rw [← collected.length] at fits
  obtain ⟨next, run', supplied⟩ := fits.supplies .all start
  refine ⟨after, next, run, run', fun number offset listed => ⟨?_, ?_⟩⟩
  · exact RegisterCache.status_eq_ok_iff.2 (supplied.valid listed rfl)
  · rw [supplied.bytes listed rfl, collected.slots listed rfl]

/-- A table of offsets supplies all registers or those below the first one that it refuses, and no others.
If no two slots share a byte, what has been supplied is collected again as it was, and what has been
collected is supplied again. The registers can as well be transferred one at a time, in any order
that has all of them. -/
theorem transfers_exact (table : OffsetTable) (blob out : Bytes) (start cache : RegisterCache file) :
    (((Attempt.run (table.supply .all blob) start).1 = .ok ⟨⟩ ↔ table.Fits file blob.length) ∧
      (∀ after, Attempt.run (table.supply .all blob) start = (.ok ⟨⟩, after) →
        table.Supplied blob (fun _ => True) start after) ∧
      ∀ error after, Attempt.run (table.supply .all blob) start = (.error error, after) →
        ∃ number, table.FirstRefused file blob.length number error ∧
          table.Supplied blob (· < number) start after) ∧
    (table.Fits file blob.length →
      ∀ order : List Nat, (∀ number offset, table.Lists number offset → number ∈ order) →
        Attempt.run (table.codec.supplyEach order blob) start =
          Attempt.run (table.supply .all blob) start) ∧
    (table.Disjoint file → table.Fits file out.length →
      (table.Fits file blob.length → ∃ middle after,
        Attempt.run (table.supply .all blob) start = (.ok ⟨⟩, middle) ∧
        Attempt.run (table.collect middle .all) out = (.ok ⟨⟩, after) ∧
        after.length = out.length ∧
        (∀ index number, table.Covers file number index → after[index]? = blob[index]?) ∧
        ∀ index, (∀ number, ¬table.Covers file number index) → after[index]? = out[index]?) ∧
      (∃ after next,
        Attempt.run (table.collect cache .all) out = (.ok ⟨⟩, after) ∧
        Attempt.run (table.supply .all after) start = (.ok ⟨⟩, next) ∧
        ∀ number offset, table.Lists number offset → next.Restores cache number) ∧
      ∀ order : List Nat, (∀ number offset, table.Lists number offset → number ∈ order) →
        Attempt.run (table.codec.collectEach cache order) out =
          Attempt.run (table.collect cache .all) out) := by
  refine ⟨?_, fun fits order complete => fits.supplyEach_eq complete start,
    fun disjoint room => ⟨fun fits => fits.exists_collected room disjoint start,
      room.exists_restored disjoint cache start,
      fun order complete => room.collectEach_eq disjoint complete cache⟩⟩
  rcases table.supply_cases blob start with
    ⟨fits, after, run, supplied⟩ | ⟨number, error, after, first, run, supplied⟩
  · rw [run]
    refine ⟨iff_of_true rfl fits, ?_, ?_⟩
    · rintro _ ⟨⟩
      exact supplied
    · rintro _ _ ⟨⟩
  · rw [run]
    refine ⟨iff_of_false (by simp) first.not_fits, ?_, ?_⟩
    · rintro _ ⟨⟩
    · rintro _ _ ⟨⟩
      exact ⟨number, first, supplied⟩

instance (table : OffsetTable) (file : RegisterFile) : Decidable (table.Apart file) :=
  inferInstanceAs (Decidable (List.Pairwise _ _))

theorem Apart.disjoint (apart : table.Apart file) : table.Disjoint file := by
  rintro index number number' ⟨offset, listed, start, stop⟩ ⟨offset', listed', start', stop'⟩
  by_contra different
  have symmetric : Std.Symm fun first second : Nat × Nat =>
      first.2 + file.width first.1 ≤ second.2 ∨ second.2 + file.width second.1 ≤ first.2 :=
    ⟨fun _ _ => Or.symm⟩
  have separate := List.Pairwise.forall apart (listed.selected rfl) (listed'.selected rfl)
    (fun same => different (congrArg Prod.fst same))
  dsimp only at separate
  omega

theorem Fits.supply_collected (fits : table.Fits file blob.length) (apart : table.Apart file)
    {cache : RegisterCache file} {after : Bytes}
    (collected : Attempt.run (table.collect cache .all) blob = (.ok ⟨⟩, after))
    (start : RegisterCache file) :
    ∃ next, Attempt.run (table.supply .all after) start = (.ok ⟨⟩, next) ∧
      ∀ slot ∈ table.selected .all, next.Restores cache slot.1 := by
  obtain ⟨_, next, run, run', restored⟩ := fits.exists_restored apart.disjoint cache start
  cases run.symm.trans collected
  exact ⟨next, run', fun slot listed => restored _ _ (mem_selected.1 listed).1⟩

/-- Two registers with their slots the other way round, and a third one after a gap. -/
def sampleTable : OffsetTable := [some 8, some 0, none, some 20]

/-- The bytes in the gap stay. -/
theorem transfers_exact_sampleTable :
    sampleTable.Fits (Architecture.sampleFile 8) 24 ∧
    sampleTable.Disjoint (Architecture.sampleFile 8) ∧ ∃ middle after,
      Attempt.run (sampleTable.supply .all ((List.range 24).map UInt8.ofNat))
        (.empty (Architecture.sampleFile 8)) = (.ok ⟨⟩, middle) ∧
      middle.bytes 3 = [20, 21] ∧
      Attempt.run (sampleTable.collect middle .all) (List.replicate 24 0xff) = (.ok ⟨⟩, after) ∧
      after[17]? = some 0xff ∧ after[21]? = some 21 := by
  have places {number offset : Nat} (listed : sampleTable.Lists number offset) :
      (number, offset) ∈ [(0, 8), (1, 0), (3, 20)] := @Lists.selected _ _ _ listed .all rfl
  have inside : ∀ slot ∈ [(0, 8), (1, 0), (3, 20)],
      ((Architecture.sampleFile 8).size? slot.1).isSome ∧
        slot.2 + (Architecture.sampleFile 8).width slot.1 ≤ 24 ∧
        ¬(slot.2 ≤ 17 ∧ 17 < slot.2 + (Architecture.sampleFile 8).width slot.1) := by
    decide
  have fits : sampleTable.Fits (Architecture.sampleFile 8) 24 := fun number offset listed =>
    ⟨(inside _ (places listed)).1, (inside _ (places listed)).2.1⟩
  have disjoint : sampleTable.Disjoint (Architecture.sampleFile 8) := Apart.disjoint (by decide)
  obtain ⟨⟨-, whole, -⟩, -, both⟩ :=
    sampleTable.transfers_exact ((List.range 24).map UInt8.ofNat) (List.replicate 24 0xff)
      (.empty (Architecture.sampleFile 8)) (.empty (Architecture.sampleFile 8))
  obtain ⟨middle, after, supplied, collected, -, covered, kept⟩ := (both disjoint fits).1 fits
  have half : sampleTable.Lists 3 20 := rfl
  refine ⟨fits, disjoint, middle, after, supplied, (whole middle supplied).bytes half trivial, collected,
    kept 17 ?_, covered 21 3 ⟨20, half, by decide⟩⟩
  rintro number ⟨offset, listed, reached⟩
  exact (inside _ (places listed)).2.2 reached

end OffsetTable

end Inferior

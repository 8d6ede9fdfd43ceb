import Inferior.Proofs.Overlay
import Inferior.RegisterSet

/-! What is moved between a register cache and a blob. Supplying registers writes each of them as a
whole, and collecting them edits the places of a blob that belong to them. Places that lie apart are
edited independently, so what is collected from a cache can be supplied to another one.
-/

set_option autoImplicit false

namespace Inferior

/-- A loop whose steps succeed wherever an invariant holds is a fold. -/
theorem Attempt.run_forM_eq_foldl {σ ε α : Type} {step : α → Attempt σ ε Unit} {next : σ → α → σ}
    {items : List α} (Good : σ → Prop)
    (steps : ∀ item ∈ items, ∀ state, Good state →
      Attempt.run (step item) state = (.ok ⟨⟩, next state item) ∧ Good (next state item))
    {state : σ} (good : Good state) :
    Attempt.run (items.forM step) state = (.ok ⟨⟩, items.foldl next state) := by
  induction items generalizing state with
  | nil => rfl
  | cons item rest ih =>
    obtain ⟨here, steps⟩ := List.forall_mem_cons.1 steps
    obtain ⟨first, good⟩ := here state good
    change Attempt.run (step item >>= fun _ => rest.forM step) state = _
    rw [run_bind, first, List.foldl_cons]
    exact ih steps good

theorem Attempt.run_forM_eq_ok {σ ε α : Type} {step : α → Attempt σ ε Unit} {items : List α}
    (steps : ∀ item ∈ items, ∀ state, (Attempt.run (step item) state).1 = .ok ⟨⟩) (state : σ) :
    (Attempt.run (items.forM step) state).1 = .ok ⟨⟩ := by
  have folded : Attempt.run (items.forM step) state =
      (.ok ⟨⟩, items.foldl (fun state item => (Attempt.run (step item) state).2) state) :=
    run_forM_eq_foldl (fun _ => True)
      (fun item listed state _ => ⟨Prod.ext (steps item listed state) rfl, trivial⟩) trivial
  rw [folded]

theorem Attempt.run_forM_of_error {σ ε α : Type} {step : α → Attempt σ ε Unit} {front : List α}
    {item : α} {before middle after : σ} {error : ε}
    (done : Attempt.run (front.forM step) before = (.ok ⟨⟩, middle))
    (failed : Attempt.run (step item) middle = (.error error, after)) (rest : List α) :
    Attempt.run ((front ++ item :: rest).forM step) before = (.error error, after) := by
  rw [List.forM_eq_forM] at done ⊢
  rw [List.forM_append, run_bind, done, List.forM_cons]
  dsimp only
  rw [run_bind, failed]

theorem Bytes.length_slice_of_le {bytes : Bytes} {offset length : Nat}
    (inside : offset + length ≤ bytes.length) : (bytes.slice offset length).length = length := by
  rw [length_slice]
  omega

theorem Bytes.overwrite_of_le {bytes patch : Bytes} (long : bytes.length ≤ patch.length) :
    bytes.overwrite 0 patch = patch.take bytes.length := by
  simp [overwrite, long]

theorem Bytes.overwrite_of_length {bytes patch : Bytes} (sized : patch.length = bytes.length) :
    bytes.overwrite 0 patch = patch := by
  rw [overwrite_of_le (Nat.le_of_eq sized.symm), ← sized, List.take_length]

theorem Bytes.overwrite_comm (bytes : Bytes) {offset offset' : Nat} {patch patch' : Bytes}
    (apart : offset + patch.length ≤ offset' ∨ offset' + patch'.length ≤ offset) :
    (bytes.overwrite offset patch).overwrite offset' patch' =
      (bytes.overwrite offset' patch').overwrite offset patch := by
  apply List.ext_getElem?
  intro index
  simp only [getElem?_overwrite, length_overwrite]
  grind

theorem RegisterFile.exists_place (file : RegisterFile) {count index : Nat}
    (inside : index < file.offset count) :
    ∃ number, file.offset number ≤ index ∧ index - file.offset number < file.width number := by
  induction count with
  | zero => cases inside
  | succ count ih =>
    rcases Nat.lt_or_ge index (file.offset count) with before | reached
    · exact ih before
    · exact ⟨count, reached, Nat.sub_lt_left_of_lt_add reached inside⟩

structure RegisterWrite.Whole (write : RegisterWrite) (file : RegisterFile) : Prop where
  offset : write.offset = 0
  length : write.bytes.length = file.width write.number

theorem RegisterWrite.Whole.fits {write : RegisterWrite} {file : RegisterFile}
    (whole : write.Whole file) :
    write.offset + write.bytes.length ≤ file.width write.number := by
  rw [whole.offset, Nat.zero_add]
  exact Nat.le_of_eq whole.length

namespace RegisterCache

variable {file : RegisterFile} {writes : List RegisterWrite}

theorem supply_eq_store (cache : RegisterCache file) {number : Nat} (known : number < file.count)
    (value : Bytes) :
    cache.supply number (some value) =
      .ok (cache.store number 0 (value.resize (file.width number)) .valid) := by
  have size : cache.size number = .ok (file.width number) := if_pos known
  rw [supply, size]
  rfl

theorem collect_eq_overwrite (cache : RegisterCache file) {number : Nat}
    (known : number < file.count) (buffer : Bytes) :
    cache.collect number buffer = .ok (buffer.overwrite 0 (cache.bytes number)) := by
  have size : cache.size number = .ok (file.width number) := if_pos known
  rw [collect, size]
  rfl

theorem bytes_storeAll_of_ne (cache : RegisterCache file)
    (whole : ∀ write ∈ writes, write.Whole file) {number : Nat}
    (different : ∀ write ∈ writes, write.number ≠ number) :
    (cache.storeAll writes).bytes number = cache.bytes number := by
  induction writes generalizing cache with
  | nil => rfl
  | cons write rest ih =>
    obtain ⟨first, whole⟩ := List.forall_mem_cons.1 whole
    obtain ⟨here, different⟩ := List.forall_mem_cons.1 different
    exact (ih _ whole different).trans (cache.bytes_store_of_ne .valid first.fits here.symm)

theorem bytes_storeAll_of_mem (cache : RegisterCache file)
    (whole : ∀ write ∈ writes, write.Whole file)
    (distinct : writes.Pairwise fun first second => first.number ≠ second.number)
    {write : RegisterWrite} (listed : write ∈ writes) :
    (cache.storeAll writes).bytes write.number = write.bytes := by
  induction writes generalizing cache with
  | nil => cases listed
  | cons first rest ih =>
    obtain ⟨here, remaining⟩ := List.forall_mem_cons.1 whole
    obtain ⟨others, distinct⟩ := List.pairwise_cons.1 distinct
    rcases List.mem_cons.1 listed with rfl | later
    · -- No later write is to the same register.
      have kept := (cache.store write.number write.offset write.bytes .valid).bytes_storeAll_of_ne
        remaining fun other member => (others other member).symm
      refine Eq.trans kept ?_
      have fits : 0 + write.bytes.length ≤ file.width write.number := by
        rw [Nat.zero_add]
        exact Nat.le_of_eq here.length
      rw [here.offset, cache.bytes_store _ _ _ fits, Bytes.overwrite_of_length]
      rw [here.length, length_bytes]
    · exact ih _ remaining distinct later

theorem store_comm (cache : RegisterCache file) {number number' offset offset' : Nat}
    {patch patch' : Bytes} (status status' : RegisterStatus)
    (fits : offset + patch.length ≤ file.width number)
    (fits' : offset' + patch'.length ≤ file.width number') (different : number ≠ number') :
    (cache.store number offset patch status).store number' offset' patch' status' =
      (cache.store number' offset' patch' status').store number offset patch status := by
  have apart : file.offset number + offset + patch.length ≤ file.offset number' + offset' ∨
      file.offset number' + offset' + patch'.length ≤ file.offset number + offset := by
    rcases Nat.lt_or_gt_of_ne different with before | after
    · have := file.offset_add_width_le before
      omega
    · have := file.offset_add_width_le after
      omega
  simp only [store, cache.image.overwrite_comm apart, List.set_comm _ _ different]

/-- Registers can be written in any order, if what is written to a register does not depend on it. -/
theorem storeAll_perm (cache : RegisterCache file) {writes' : List RegisterWrite}
    (perm : writes.Perm writes') (whole : ∀ write ∈ writes, write.Whole file)
    (determined : ∀ first ∈ writes, ∀ second ∈ writes, first.number = second.number → first = second) :
    cache.storeAll writes = cache.storeAll writes' := by
  apply perm.foldl_eq'
  intro first listed second listed' cache
  by_cases same : first.number = second.number
  · rw [determined first listed second listed' same]
  · exact cache.store_comm _ _ (whole first listed).fits (whole second listed').fits same

structure AgreesAt (first second : RegisterCache file) (number : Nat) :
    Prop where
  status : first.statuses[number]? = second.statuses[number]?
  bytes : first.bytes number = second.bytes number

theorem AgreesAt.refl (cache : RegisterCache file) (number : Nat) :
    cache.AgreesAt cache number := ⟨rfl, rfl⟩

theorem AgreesAt.trans {first second third : RegisterCache file} {number : Nat}
    (agrees : first.AgreesAt second number) (agrees' : second.AgreesAt third number) :
    first.AgreesAt third number :=
  ⟨agrees.status.trans agrees'.status, agrees.bytes.trans agrees'.bytes⟩

/-- There is nothing in a cache but its registers. -/
theorem eq_of_agrees {first second : RegisterCache file}
    (agrees : ∀ number, first.AgreesAt second number) : first = second := by
  have statuses : first.statuses = second.statuses :=
    List.ext_getElem? fun number => (agrees number).status
  have image : first.image = second.image := by
    apply List.ext_getElem?
    intro index
    rcases Nat.lt_or_ge index file.imageLength with inside | beyond
    · obtain ⟨number, start, below⟩ := file.exists_place inside
      have same := congrArg (·[index - file.offset number]?) (agrees number).bytes
      simpa only [bytes, Bytes.getElem?_slice, if_pos below, Nat.add_sub_cancel' start] using same
    · rw [List.getElem?_eq_none (first.length_image.symm ▸ beyond),
        List.getElem?_eq_none (second.length_image.symm ▸ beyond)]
  cases first
  cases second
  simp_all

theorem AgreesAt.store {first second : RegisterCache file} {other : Nat}
    (agrees : first.AgreesAt second other) {number offset : Nat} {patch : Bytes}
    (status : RegisterStatus) (fits : offset + patch.length ≤ file.width number)
    (different : number ≠ other) :
    (first.store number offset patch status).AgreesAt second other where
  status := (List.getElem?_set_ne different).trans agrees.status
  bytes := (first.bytes_store_of_ne status fits different.symm).trans agrees.bytes

/-- What a part of a register holds stays there when other bytes are stored. -/
theorem readPart_store_of_apart {cache : RegisterCache file} {number offset length : Nat}
    {value : Bytes} (held : cache.readPart number offset length = .ok value)
    {number' offset' : Nat} {patch : Bytes} (fits : offset' + patch.length ≤ file.width number')
    (apart : number' ≠ number ∨ offset + length ≤ offset' ∨ offset' + patch.length ≤ offset) :
    (cache.store number' offset' patch .valid).readPart number offset length = .ok value := by
  obtain ⟨valid, inside, content⟩ := readPart_eq_ok_iff.1 held
  by_cases same : number' = number
  · subst same
    refine readPart_eq_ok_iff.2 ⟨?_, inside, ?_⟩
    · have known := (List.getElem?_eq_some_iff.1 valid).1
      exact List.getElem?_set_self known
    · rw [cache.bytes_store _ _ _ fits, ← content]
      apply List.ext_getElem?
      intro index
      simp only [Bytes.getElem?_slice, Bytes.getElem?_overwrite]
      grind
  · have agrees := (AgreesAt.refl cache number).store .valid fits same
    exact readPart_eq_ok_iff.2 ⟨agrees.status.trans valid, inside, agrees.bytes ▸ content⟩

theorem readPart_store_self (cache : RegisterCache file) {number offset : Nat} {value : Bytes}
    (known : number < file.count) (fits : offset + value.length ≤ file.width number) :
    (cache.store number offset value .valid).readPart number offset value.length = .ok value := by
  refine readPart_eq_ok_iff.2 ⟨List.getElem?_set_self (cache.length_statuses.symm ▸ known), fits, ?_⟩
  rw [cache.bytes_store _ _ _ fits]
  apply List.ext_getElem?
  intro index
  simp only [Bytes.getElem?_slice, Bytes.getElem?_overwrite, length_bytes]
  grind

structure Restores (after cache : RegisterCache file) (number : Nat) : Prop where
  status : after.status number = .ok .valid
  bytes : after.bytes number = cache.bytes number

/-- A transfer to a cache restores the registers for which another cache has the values. -/
theorem restores_storeAll (start : RegisterCache file) {cache : RegisterCache file}
    (whole : ∀ write ∈ writes, write.Whole file)
    (distinct : writes.Pairwise fun first second => first.number ≠ second.number)
    {write : RegisterWrite} (listed : write ∈ writes) (known : write.number < file.count)
    (same : write.bytes = cache.bytes write.number) :
    (start.storeAll writes).Restores cache write.number where
  status := status_eq_ok_iff.2 (start.status_storeAll_of_mem listed known)
  bytes := (start.bytes_storeAll_of_mem whole distinct listed).trans same

theorem Restores.storeAll {after cache : RegisterCache file} {number : Nat}
    (restores : after.Restores cache number) (whole : ∀ write ∈ writes, write.Whole file)
    (different : ∀ write ∈ writes, write.number ≠ number) :
    (after.storeAll writes).Restores cache number where
  status := by
    rw [← restores.status, RegisterCache.status, after.status_storeAll_of_ne different]
    rfl
  bytes := (after.bytes_storeAll_of_ne whole different).trans restores.bytes

end RegisterCache

/-- A change to the bytes at a place of a blob, which keeps their number. -/
structure BlobEdit where
  offset : Nat
  width : Nat
  change : Bytes → Bytes
  length_change {old : Bytes} : old.length = width → (change old).length = width

namespace BlobEdit

def apply (edit : BlobEdit) (blob : Bytes) : Bytes :=
  blob.overwrite edit.offset (edit.change (blob.slice edit.offset edit.width))

def Inside (edit : BlobEdit) (length : Nat) : Prop := edit.offset + edit.width ≤ length

def Apart (first second : BlobEdit) : Prop :=
  first.offset + first.width ≤ second.offset ∨ second.offset + second.width ≤ first.offset

variable {edit : BlobEdit} {edits : List BlobEdit} {blob : Bytes}

@[simp] theorem length_apply (edit : BlobEdit) (blob : Bytes) :
    (edit.apply blob).length = blob.length := Bytes.length_overwrite _ _ _

theorem length_new (inside : edit.Inside blob.length) :
    (edit.change (blob.slice edit.offset edit.width)).length = edit.width :=
  edit.length_change (Bytes.length_slice_of_le inside)

theorem slice_apply (inside : edit.Inside blob.length) :
    (edit.apply blob).slice edit.offset edit.width =
      edit.change (blob.slice edit.offset edit.width) := by
  have sized := length_new inside
  unfold Inside at inside
  apply List.ext_getElem?
  intro index
  rw [Bytes.getElem?_slice, apply, Bytes.getElem?_overwrite, sized]
  grind

theorem getElem?_apply_of_outside (inside : edit.Inside blob.length) {index : Nat}
    (outside : index < edit.offset ∨ edit.offset + edit.width ≤ index) :
    (edit.apply blob)[index]? = blob[index]? := by
  rw [apply, Bytes.getElem?_overwrite, length_new inside, if_neg (by omega)]

def applyAll (edits : List BlobEdit) (blob : Bytes) : Bytes :=
  edits.foldl (fun blob edit => edit.apply blob) blob

@[simp] theorem length_applyAll (edits : List BlobEdit) (blob : Bytes) :
    (applyAll edits blob).length = blob.length := by
  induction edits generalizing blob with
  | nil => rfl
  | cons edit rest ih => exact (ih _).trans (length_apply edit blob)

theorem getElem?_applyAll_of_outside (inside : ∀ edit ∈ edits, edit.Inside blob.length) {index : Nat}
    (outside : ∀ edit ∈ edits, index < edit.offset ∨ edit.offset + edit.width ≤ index) :
    (applyAll edits blob)[index]? = blob[index]? := by
  induction edits generalizing blob with
  | nil => rfl
  | cons edit rest ih =>
    obtain ⟨here, inside⟩ := List.forall_mem_cons.1 inside
    obtain ⟨beside, outside⟩ := List.forall_mem_cons.1 outside
    rw [← edit.length_apply blob] at inside
    exact (ih inside outside).trans (getElem?_apply_of_outside here beside)

theorem slice_applyAll_of_apart (inside : ∀ edit ∈ edits, edit.Inside blob.length)
    (apart : ∀ other ∈ edits, edit.Apart other) :
    (applyAll edits blob).slice edit.offset edit.width = blob.slice edit.offset edit.width := by
  apply List.ext_getElem?
  intro index
  simp only [Bytes.getElem?_slice]
  split
  · apply getElem?_applyAll_of_outside inside
    intro other listed
    have := apart other listed
    unfold Apart at this
    omega
  · rfl

/-- At a place that no other edit reaches, an edit finds what was there at the start, and what it
puts there stays. -/
theorem slice_applyAll_of_mem (inside : ∀ edit ∈ edits, edit.Inside blob.length)
    (apart : edits.Pairwise Apart) (listed : edit ∈ edits) :
    (applyAll edits blob).slice edit.offset edit.width =
      edit.change (blob.slice edit.offset edit.width) := by
  -- By induction on the edits, for any blob. What an edit finds is what the ones before it have left.
  induction edits generalizing blob with
  | nil => cases listed
  | cons first rest ih =>
    obtain ⟨here, others⟩ := List.forall_mem_cons.1 inside
    obtain ⟨beside, apart⟩ := List.pairwise_cons.1 apart
    rw [← first.length_apply blob] at others
    change (applyAll rest (first.apply blob)).slice edit.offset edit.width = _
    rcases List.mem_cons.1 listed with rfl | later
    · rw [slice_applyAll_of_apart others beside, slice_apply here]
    · -- The first edit has left the place as it was.
      have alone : (applyAll [first] blob).slice edit.offset edit.width =
          blob.slice edit.offset edit.width :=
        slice_applyAll_of_apart (List.forall_mem_singleton.2 here)
          (List.forall_mem_singleton.2 (beside edit later).symm)
      rw [ih others apart later]
      exact congrArg edit.change alone

theorem getElem?_applyAll_of_mem (inside : ∀ edit ∈ edits, edit.Inside blob.length)
    (apart : edits.Pairwise Apart) (listed : edit ∈ edits) {index : Nat}
    (start : edit.offset ≤ index) (stop : index < edit.offset + edit.width) :
    (applyAll edits blob)[index]? =
      (edit.change (blob.slice edit.offset edit.width))[index - edit.offset]? := by
  have below : index - edit.offset < edit.width := by omega
  rw [← slice_applyAll_of_mem inside apart listed, Bytes.getElem?_slice, if_pos below,
    Nat.add_sub_cancel' start]

/-- Edits at places that lie apart can be made in any order. -/
theorem applyAll_perm {edits' : List BlobEdit} (perm : edits.Perm edits')
    (inside : ∀ edit ∈ edits, edit.Inside blob.length) (apart : edits.Pairwise Apart) :
    applyAll edits blob = applyAll edits' blob := by
  have inside' : ∀ edit ∈ edits', edit.Inside blob.length := fun edit listed =>
    inside edit (perm.mem_iff.2 listed)
  have apart' : edits'.Pairwise Apart := (perm.pairwise_iff fun apart => apart.symm).1 apart
  apply List.ext_getElem?
  intro index
  by_cases covered : ∃ edit ∈ edits, edit.offset ≤ index ∧ index < edit.offset + edit.width
  · obtain ⟨edit, listed, start, stop⟩ := covered
    rw [getElem?_applyAll_of_mem inside apart listed start stop,
      getElem?_applyAll_of_mem inside' apart' (perm.mem_iff.1 listed) start stop]
  · have outside : ∀ edit ∈ edits, index < edit.offset ∨ edit.offset + edit.width ≤ index := by
      intro edit listed
      have := not_and.1 fun both => covered ⟨edit, listed, both⟩
      omega
    rw [getElem?_applyAll_of_outside inside outside,
      getElem?_applyAll_of_outside inside' fun edit listed => outside edit (perm.mem_iff.2 listed)]

end BlobEdit

namespace RegisterCodec

variable {file : RegisterFile}

def supplyEach (codec : RegisterCodec file) (order : List Nat) (blob : Bytes) :
    Attempt (RegisterCache file) RegisterSetError Unit :=
  order.forM fun number => codec.supply (.only number) blob

def collectEach (codec : RegisterCodec file) (cache : RegisterCache file) (order : List Nat) :
    Attempt Bytes RegisterSetError Unit :=
  order.forM fun number => codec.collect cache (.only number)

end RegisterCodec

namespace OffsetTable

variable {file : RegisterFile} {table : OffsetTable} {selection : Selection} {blob : Bytes}

theorem mem_selected {slot : Nat × Nat} :
    slot ∈ table.selected selection ↔
      table[slot.1]? = some (some slot.2) ∧ selection.includes slot.1 = true := by
  obtain ⟨number, offset⟩ := slot
  simp only [selected, List.mem_filterMap, List.mem_zipIdx_iff_getElem?, Prod.exists]
  constructor
  · rintro ⟨entry, index, found, kept⟩
    split at kept
    · cases entry with
      | none => cases kept
      | some place =>
        cases kept
        exact ⟨found, ‹_›⟩
    · cases kept
  · rintro ⟨found, included⟩
    exact ⟨some offset, number, found, by simp [included]⟩

theorem distinct_selected (table : OffsetTable) (selection : Selection) :
    (table.selected selection).Pairwise fun first second => first.1 ≠ second.1 := by
  have numbered : table.zipIdx.Pairwise fun first second => first.2 ≠ second.2 := by
    apply List.pairwise_map.1
    rw [List.zipIdx_map_snd]
    exact List.nodup_range'
  refine numbered.filterMap _ fun first second different slot kept slot' kept' => ?_
  have same (entry : Option Nat × Nat) (slot : Nat × Nat)
      (kept : (if selection.includes entry.2 then entry.1.map (entry.2, ·) else none) = some slot) :
      slot.1 = entry.2 := by
    split at kept
    · obtain ⟨_, -, rfl⟩ := Option.map_eq_some_iff.1 kept
      rfl
    · cases kept
  rwa [same first slot kept, same second slot' kept']

/-- A table whose registers are known and have their slots within blobs of a length. -/
def Fits (table : OffsetTable) (file : RegisterFile) (length : Nat) : Prop :=
  ∀ number offset, table[number]? = some (some offset) →
    (file.size? number).isSome ∧ offset + file.width number ≤ length

variable {slot : Nat × Nat}

theorem Fits.known {length : Nat} (fits : table.Fits file length)
    (listed : slot ∈ table.selected selection) : slot.1 < file.count := by
  have sized := (fits _ _ (mem_selected.1 listed).1).1
  apply Nat.lt_of_not_le
  intro beyond
  simp [RegisterFile.size?, List.getElem?_eq_none beyond] at sized

theorem Fits.inside {length : Nat} (fits : table.Fits file length)
    (listed : slot ∈ table.selected selection) : slot.2 + file.width slot.1 ≤ length :=
  (fits _ _ (mem_selected.1 listed).1).2

theorem Fits.slotSize {length : Nat} (fits : table.Fits file length)
    (listed : slot ∈ table.selected selection) :
    slotSize file slot.1 slot.2 length = .ok (file.width slot.1) := by
  obtain ⟨size, sized⟩ := Option.isSome_iff_exists.1 (fits _ _ (mem_selected.1 listed).1).1
  have width : file.width slot.1 = size := by rw [RegisterFile.width, sized, Option.getD_some]
  have inside := fits.inside listed
  rw [width] at inside ⊢
  rw [OffsetTable.slotSize, sized]
  exact if_neg (Nat.not_lt.2 inside)

def slotWrite (file : RegisterFile) (blob : Bytes) (slot : Nat × Nat) : RegisterWrite :=
  ⟨slot.1, 0, blob.slice slot.2 (file.width slot.1)⟩

theorem Fits.whole (fits : table.Fits file blob.length) :
    ∀ write ∈ (table.selected selection).map (slotWrite file blob), write.Whole file :=
  List.forall_mem_map.2 fun _ listed => ⟨rfl, Bytes.length_slice_of_le (fits.inside listed)⟩

theorem Fits.run_supply (fits : table.Fits file blob.length) (cache : RegisterCache file) :
    Attempt.run (table.supply selection blob) cache =
      (.ok ⟨⟩, cache.storeAll ((table.selected selection).map (slotWrite file blob))) := by
  rw [RegisterCache.storeAll, List.foldl_map]
  apply Attempt.run_forM_eq_foldl (fun _ => True) _ trivial
  rintro ⟨number, offset⟩ listed cache -
  have known : number < file.count := fits.known listed
  have sized := Bytes.length_slice_of_le (fits.inside listed)
  have supplied := cache.supply_eq_store known (blob.slice offset (file.width number))
  rw [Bytes.resize_eq_self sized] at supplied
  refine ⟨?_, trivial⟩
  simp only [Attempt.run_bind, Attempt.run_ofExcept, fits.slotSize listed, Attempt.run_get, supplied,
    mapError_ok, Attempt.run_set]
  rfl

def slotEdit (cache : RegisterCache file) (slot : Nat × Nat) : BlobEdit where
  offset := slot.2
  width := file.width slot.1
  change _ := cache.bytes slot.1
  length_change _ := cache.length_bytes slot.1

theorem Fits.run_collect (fits : table.Fits file blob.length) (cache : RegisterCache file) :
    Attempt.run (table.collect cache selection) blob =
      (.ok ⟨⟩, BlobEdit.applyAll ((table.selected selection).map (slotEdit cache)) blob) := by
  rw [BlobEdit.applyAll, List.foldl_map]
  apply Attempt.run_forM_eq_foldl (fun edited => edited.length = blob.length) _ rfl
  rintro ⟨number, offset⟩ listed edited same
  have known : number < file.count := fits.known listed
  have inside := fits.inside listed
  rw [← same] at inside
  have sized := (cache.length_bytes number).trans (Bytes.length_slice_of_le inside).symm
  have collected := cache.collect_eq_overwrite known (edited.slice offset (file.width number))
  rw [Bytes.overwrite_of_length sized] at collected
  refine ⟨?_, (BlobEdit.length_apply _ _).trans same⟩
  simp only [Attempt.run_bind, Attempt.run_get, Attempt.run_ofExcept, same, fits.slotSize listed,
    collected, mapError_ok, Attempt.run_set]
  rfl

def Apart (table : OffsetTable) (file : RegisterFile) : Prop :=
  (table.selected .all).Pairwise fun first second =>
    first.2 + file.width first.1 ≤ second.2 ∨ second.2 + file.width second.1 ≤ first.2

end OffsetTable

end Inferior

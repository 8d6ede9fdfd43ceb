import Inferior.Amd64.Fxsave
import Inferior.Proofs.RegisterTransfers

/-! Transfers between a register cache and an FXSAVE area. Every register of the area has a place of
its own. A value that its place has room for comes back as it was; the tags of the x87 registers do
not, since only an abridged form of them is kept.
-/

set_option autoImplicit false

namespace Inferior

namespace LittleEndian

theorem digits_zero (width : Nat) : digits width 0 = Bytes.zeros width := by
  induction width with
  | zero => rfl
  | succ width ih =>
    rw [digits, Nat.zero_div, ih]
    rfl

theorem drop_of_value_lt {bytes : Bytes} {width : Nat} (small : value bytes < capacity width) :
    bytes.drop width = Bytes.zeros (bytes.length - width) := by
  by_cases short : bytes.length ≤ width
  · rw [List.drop_of_length_le short, Nat.sub_eq_zero_of_le short]
    rfl
  · have split := value_append (bytes.take width) (bytes.drop width)
    rw [List.take_append_drop, List.length_take_of_le (Nat.le_of_not_le short)] at split
    -- If they were not, they alone would count for as much as there are numbers of the width.
    have zero : value (bytes.drop width) = 0 := by
      apply Nat.eq_zero_of_not_pos
      intro positive
      have := Nat.le_mul_of_pos_right (capacity width) positive
      omega
    rw [← digits_value (bytes.drop width), zero, digits_zero, List.length_drop]

/-- A number that has been cut to a width it fits in is filled up again. -/
theorem resize_take {bytes : Bytes} {width : Nat} (small : value bytes < capacity width) :
    Bytes.resize (bytes.take width) bytes.length = bytes := by
  have kept : (bytes.take width).take bytes.length = bytes.take width :=
    List.take_of_length_le (List.length_take_le' width bytes)
  have filled : bytes.length - (bytes.take width).length = bytes.length - width := by
    rw [List.length_take]
    omega
  rw [Bytes.resize, kept, filled, ← drop_of_value_lt small, List.take_append_drop]

end LittleEndian

namespace Amd64.Fxsave

def placeOf (number : Nat) : Nat × Nat := (place number).getD (0, 0)

theorem placed : ∀ number ∈ numbers, place number = some (placeOf number) := by decide +kernel

theorem placed_inside : ∀ number ∈ numbers, (placeOf number).1 + (placeOf number).2 ≤ areaSize := by
  decide +kernel

theorem placed_apart : numbers.Pairwise fun first second =>
    (placeOf first).1 + (placeOf first).2 ≤ (placeOf second).1 ∨
      (placeOf second).1 + (placeOf second).2 ≤ (placeOf first).1 := by
  decide +kernel

theorem numbers_distinct : numbers.Pairwise fun first second => first ≠ second := by decide +kernel

theorem numbers_known : ∀ number ∈ numbers, number < registerFile.count := by decide +kernel

theorem placed_narrow : ∀ number ∈ numbers, (placeOf number).2 ≤ registerFile.width number := by
  decide +kernel

theorem width_placeOf : ∀ number ∈ numbers, number = fctrl ∨ number = fstat ∨ number = ftag ∨
    number = fop ∨ (placeOf number).2 = registerFile.width number := by
  decide +kernel

theorem numbers_filter_all : numbers.filter Selection.all.includes = numbers :=
  List.filter_eq_self.2 fun _ _ => rfl

theorem numbers_filter_only : ∀ number ∈ numbers,
    numbers.filter (Selection.only number).includes = [number] := by
  decide +kernel

theorem checkLength_eq_ok {length : Nat} (long : areaSize ≤ length) : checkLength length = .ok ⟨⟩ :=
  if_neg (Nat.not_lt.2 long)

theorem run_supply_of_short {blob : Bytes} (short : blob.length < areaSize) (selection : Selection)
    (cache : RegisterCache registerFile) :
    Attempt.run (codec.supply selection blob) cache =
      (.error (.blobTooShort areaSize blob.length), cache) := by
  have refused : checkLength blob.length = .error (.blobTooShort areaSize blob.length) :=
    if_pos short
  change Attempt.run (Attempt.ofExcept (checkLength blob.length) >>= fun _ => _) cache = _
  rw [Attempt.run_bind, refused]
  rfl

theorem run_collect_of_short {blob : Bytes} (short : blob.length < areaSize) (selection : Selection)
    (cache : RegisterCache registerFile) :
    Attempt.run (codec.collect cache selection) blob =
      (.error (.blobTooShort areaSize blob.length), blob) := by
  have refused : checkLength blob.length = .error (.blobTooShort areaSize blob.length) :=
    if_pos short
  change Attempt.run (get >>= fun blob => Attempt.ofExcept (checkLength blob.length) >>= fun _ => _)
    blob = _
  rw [Attempt.run_bind, Attempt.run_get]
  dsimp only
  rw [Attempt.run_bind, refused]
  rfl

variable {selection : Selection} {blob : Bytes} {number : Nat}

def placeWrite (blob : Bytes) (number : Nat) : RegisterWrite :=
  ⟨number, 0, Bytes.resize (valueIn blob number (placeOf number).1 (placeOf number).2)
    (registerFile.width number)⟩

theorem placeWrite_whole (blob : Bytes) (selection : Selection) :
    ∀ write ∈ (numbers.filter selection.includes).map (placeWrite blob), write.Whole registerFile :=
  List.forall_mem_map.2 fun _ _ => ⟨rfl, Bytes.length_resize _ _⟩

theorem run_supply (long : areaSize ≤ blob.length) (cache : RegisterCache registerFile) :
    Attempt.run (codec.supply selection blob) cache =
      (.ok ⟨⟩, cache.storeAll ((numbers.filter selection.includes).map (placeWrite blob))) := by
  change Attempt.run (Attempt.ofExcept (checkLength blob.length) >>= fun _ => _) cache = _
  rw [Attempt.run_bind, checkLength_eq_ok long, RegisterCache.storeAll, List.foldl_map]
  apply Attempt.run_forM_eq_foldl (fun _ => True) _ trivial
  intro number selected cache _
  have listed := (List.mem_filter.1 selected).1
  refine ⟨?_, trivial⟩
  rw [supplyRegister, placed number listed]
  simp only [Attempt.run_bind, Attempt.run_ofExcept, Attempt.run_get,
    cache.supply_eq_store (numbers_known number listed), mapError_ok, Attempt.run_set]
  rfl

def collectedOver (cache : RegisterCache registerFile) (number : Nat) (old : Bytes) : Bytes :=
  if number = fop then
    let before := LittleEndian.value old
    LittleEndian.digits 2
      (before - opcodeOf before + opcodeOf (LittleEndian.value (cache.bytes fop)))
  else if number = ftag then
    LittleEndian.digits 2 (abridgeTags (LittleEndian.value (cache.bytes ftag)))
  else old.overwrite 0 (cache.bytes number)

theorem collected_eq (cache : RegisterCache registerFile) (listed : number ∈ numbers) (old : Bytes) :
    collected cache number old = .ok (collectedOver cache number old) := by
  have control {number : Nat} (listed : number ∈ numbers) (wide : registerFile.width number = 4) :
      cache.collect number (Bytes.zeros 4) = .ok (cache.bytes number) := by
    rw [cache.collect_eq_overwrite (numbers_known number listed), Bytes.overwrite_of_length]
    rw [cache.length_bytes, wide, Bytes.length_zeros]
  unfold collected collectedOver
  by_cases opcode : number = fop
  · subst opcode
    simp only [if_true, control listed rfl]
    rfl
  · by_cases tags : number = ftag
    · subst tags
      simp only [if_neg opcode, if_true, control listed rfl]
      rfl
    · simp only [if_neg opcode, if_neg tags]
      exact cache.collect_eq_overwrite (numbers_known number listed) old

def placeEdit (cache : RegisterCache registerFile) (number : Nat) : BlobEdit where
  offset := (placeOf number).1
  width := (placeOf number).2
  change := collectedOver cache number
  length_change {old} sized := by
    unfold collectedOver
    split
    · subst number
      exact LittleEndian.length_digits _ _
    · split
      · subst number
        exact LittleEndian.length_digits _ _
      · exact (Bytes.length_overwrite _ _ _).trans sized

theorem run_collect (long : areaSize ≤ blob.length) (cache : RegisterCache registerFile) :
    Attempt.run (codec.collect cache selection) blob =
      (.ok ⟨⟩, BlobEdit.applyAll ((numbers.filter selection.includes).map (placeEdit cache)) blob) := by
  change Attempt.run (get >>= fun blob => Attempt.ofExcept (checkLength blob.length) >>= fun _ => _)
    blob = _
  rw [Attempt.run_bind, Attempt.run_get]
  dsimp only
  rw [Attempt.run_bind, checkLength_eq_ok long, BlobEdit.applyAll, List.foldl_map]
  apply Attempt.run_forM_eq_foldl (fun _ => True) _ trivial
  intro number selected blob _
  have listed := (List.mem_filter.1 selected).1
  refine ⟨?_, trivial⟩
  rw [collectRegister, placed number listed]
  simp only [Attempt.run_bind, Attempt.run_ofExcept, Attempt.run_get, collected_eq cache listed,
    mapError_ok, Attempt.run_set]
  rfl

/-- A register's place has room for its value: there are sixteen bits for `fctrl` and `fstat`, and
eleven for `fop`. -/
structure Fits (cache : RegisterCache registerFile) (number : Nat) : Prop where
  word : number = fctrl ∨ number = fstat → LittleEndian.value (cache.bytes number) < 1 <<< 16
  opcode : number = fop → LittleEndian.value (cache.bytes number) < 1 <<< 11

theorem opcode_collected {before opcode : Nat} (word : before < 1 <<< 16) (small : opcode < 1 <<< 11) :
    opcodeOf ((before - opcodeOf before + opcodeOf opcode) % LittleEndian.capacity 2) = opcode := by
  simp only [opcodeOf, LittleEndian.capacity] at *
  omega

theorem Fits.value_lt {cache : RegisterCache registerFile} (fits : Fits cache number)
    (listed : number ∈ numbers) (untagged : number ≠ ftag) (plain : number ≠ fop) :
    LittleEndian.value (cache.bytes number) < LittleEndian.capacity (placeOf number).2 := by
  rcases width_placeOf number listed with rfl | rfl | tags | opcode | width
  · exact fits.word (.inl rfl)
  · exact fits.word (.inr rfl)
  · exact absurd tags untagged
  · exact absurd opcode plain
  · rw [width, ← cache.length_bytes number]
    exact LittleEndian.value_lt _

theorem Fits.bytes_placeWrite {cache : RegisterCache registerFile} (fits : Fits cache number)
    (listed : number ∈ numbers) (untagged : number ≠ ftag) {old : Bytes}
    (sized : old.length = (placeOf number).2)
    (collected : Bytes.slice blob (placeOf number).1 (placeOf number).2 =
      collectedOver cache number old) :
    (placeWrite blob number).bytes = cache.bytes number := by
  have length := cache.length_bytes number
  unfold placeWrite valueIn
  rw [collected, collectedOver]
  by_cases opcode : number = fop
  · -- The bits beside the opcode stay as they were, and are not looked at when it is supplied.
    subst opcode
    have before := LittleEndian.value_lt old
    rw [sized] at before
    have small := opcode_collected before (fits.opcode rfl)
    have whole : LittleEndian.digits 4 (LittleEndian.value (cache.bytes fop)) = cache.bytes fop := by
      have whole := LittleEndian.digits_value (cache.bytes fop)
      rwa [length] at whole
    simp only [if_true, LittleEndian.value_digits, small, whole]
    exact Bytes.resize_eq_self length
  · -- The place has the low bytes of the value, and the others are zero.
    have narrow := placed_narrow number listed
    rw [← sized, ← length] at narrow
    simp only [if_neg opcode, if_neg untagged, Bytes.overwrite_of_le narrow]
    rw [← length, sized]
    exact LittleEndian.resize_take (fits.value_lt listed untagged opcode)

/-- Registers that are collected from a cache are restored by supplying them, as far as their places
have room for their values. -/
theorem supply_collected (long : areaSize ≤ blob.length) {cache : RegisterCache registerFile}
    {after : Bytes} (collected : Attempt.run (codec.collect cache .all) blob = (.ok ⟨⟩, after))
    (start : RegisterCache registerFile) :
    ∃ next, Attempt.run (codec.supply .all after) start = (.ok ⟨⟩, next) ∧
      (∀ number ∈ numbers, number ≠ ftag → Fits cache number → next.Restores cache number) ∧
      ∀ number ∉ numbers, start.Restores cache number → next.Restores cache number := by
  rw [run_collect long cache, numbers_filter_all] at collected
  obtain ⟨-, rfl⟩ := Prod.mk.inj collected
  have inside : ∀ edit ∈ numbers.map (placeEdit cache), edit.Inside blob.length :=
    List.forall_mem_map.2 fun number listed => Nat.le_trans (placed_inside number listed) long
  have apart : (numbers.map (placeEdit cache)).Pairwise BlobEdit.Apart :=
    List.pairwise_map.2 placed_apart
  have supplied := @run_supply .all _
    (le_of_le_of_eq long (BlobEdit.length_applyAll (numbers.map (placeEdit cache)) blob).symm) start
  have whole := placeWrite_whole (BlobEdit.applyAll (numbers.map (placeEdit cache)) blob) .all
  rw [numbers_filter_all] at supplied whole
  refine ⟨_, supplied, fun number listed untagged fits => ?_, fun number outside restores => ?_⟩
  · have edited := BlobEdit.slice_applyAll_of_mem inside apart (List.mem_map_of_mem listed)
    have sized := Bytes.length_slice_of_le (inside _ (List.mem_map_of_mem listed))
    apply start.restores_storeAll whole (List.pairwise_map.2 numbers_distinct)
      (List.mem_map_of_mem listed) (numbers_known number listed)
    exact fits.bytes_placeWrite listed untagged sized edited
  · apply restores.storeAll whole
    exact List.forall_mem_map.2 fun _ listed => ne_of_mem_of_not_mem listed outside

end Amd64.Fxsave

end Inferior

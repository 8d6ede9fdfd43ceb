import Inferior.Proofs.AreaRoundTrip

/-! The tags of the x87 registers after an FXSAVE area has been supplied. The tag word counts physical
registers and the stack counts from the top, whose place is in the status word. A register that is not
empty has the tag of the number that the stack register in its place has been given.
-/

set_option autoImplicit false

namespace Inferior

theorem LittleEndian.value_resize {bytes : Bytes} {length : Nat} (short : bytes.length ≤ length) :
    value (bytes.resize length) = value bytes := by
  rw [Bytes.resize, List.take_of_length_le short, value_append, value_zeros, Nat.mul_zero,
    Nat.add_zero]

namespace Amd64

/-- A number in extended precision, whatever its sign. Its integer bit is stored with it. -/
structure Extended where
  exponent : Nat
  integer : Bool
  fraction : Nat
  deriving DecidableEq, Repr

namespace Extended

def ofBytes (raw : Bytes) : Extended where
  exponent := LittleEndian.value raw >>> 64 % 1 <<< 15
  integer := (LittleEndian.value raw).testBit 63
  fraction := LittleEndian.value raw % 1 <<< 63

def IsZero (number : Extended) : Prop :=
  number.exponent = 0 ∧ number.integer = false ∧ number.fraction = 0

/-- A number to full precision. Infinities, what is not a number, and the numbers that lack the integer
bit are special. -/
def IsNormal (number : Extended) : Prop :=
  number.integer = true ∧ number.exponent ≠ 0 ∧ number.exponent ≠ 0x7fff

instance (number : Extended) : Decidable number.IsZero :=
  inferInstanceAs (Decidable (_ ∧ _ ∧ _))

instance (number : Extended) : Decidable number.IsNormal :=
  inferInstanceAs (Decidable (_ ∧ _ ∧ _))

def tag (number : Extended) : Nat :=
  if number.IsZero then 1 else if number.IsNormal then 0 else 2

end Extended

namespace Fxsave

/-- Bits that are cut out of a number of eighty bits are those of the number itself. -/
theorem toNat_extractLsb' (number : Nat) {start width : Nat} (inside : start + width ≤ 80) :
    ((BitVec.ofNat 80 number).extractLsb' start width).toNat =
      number >>> start % 1 <<< width := by
  rw [BitVec.extractLsb'_toNat, BitVec.toNat_ofNat, Nat.shiftLeft_eq, Nat.one_mul]
  apply Nat.eq_of_testBit_eq
  intro index
  simp only [Nat.testBit_mod_two_pow, Nat.testBit_shiftRight]
  by_cases below : index < width
  · have bounded : start + index < 80 := by omega
    simp [bounded]
  · simp [below]

/-- The tag depends on nothing but the exponent, the integer bit and the fraction. -/
theorem tag_eq (raw : Bytes) : tag raw = (Extended.ofBytes raw).tag := by
  have exponent : (_ : BitVec 15).toNat = (Extended.ofBytes raw).exponent :=
    toNat_extractLsb' (LittleEndian.value raw) (by decide : 64 + 15 ≤ 80)
  have fraction : (_ : BitVec 63).toNat = (Extended.ofBytes raw).fraction :=
    toNat_extractLsb' (LittleEndian.value raw) (by decide : 0 + 63 ≤ 80)
  have integer : (BitVec.ofNat 80 (LittleEndian.value raw)).getLsbD 63 =
      (Extended.ofBytes raw).integer := BitVec.getLsbD_ofNat _ _ _
  have ones : (0x7fff : BitVec 15).toNat = 0x7fff := rfl
  have zeros (width : Nat) : (0 : BitVec width).toNat = 0 := BitVec.toNat_ofNat _ _
  unfold tag Extended.tag Extended.IsZero Extended.IsNormal
  simp only [integer, ← BitVec.toNat_inj, exponent, fraction, ones, zeros]
  -- The largest exponent is not zero, so it makes no difference which of the two is looked at first.
  grind

theorem placeOf_st : ∀ index < 8, st index ∈ numbers ∧
    placeOf (st index) = (32 + 16 * index, stSize) ∧ registerFile.width (st index) = stSize := by
  decide +kernel

variable {blob : Bytes}

structure Supplied (blob : Bytes) (after : RegisterCache registerFile) (number : Nat) : Prop where
  valid : after.statuses[number]? = some .valid
  bytes : after.bytes number = (placeWrite blob number).bytes

theorem exists_supplied (long : areaSize ≤ blob.length) (selection : Selection)
    (cache : RegisterCache registerFile) :
    ∃ after, Attempt.run (codec.supply selection blob) cache = (.ok ⟨⟩, after) ∧
      ∀ number ∈ numbers, selection.includes number = true → Supplied blob after number := by
  refine ⟨_, run_supply long cache, fun number listed included => ?_⟩
  have selected := List.mem_map_of_mem (f := placeWrite blob)
    (List.mem_filter.2 ⟨listed, included⟩)
  exact ⟨cache.status_storeAll_of_mem selected (numbers_known number listed),
    cache.bytes_storeAll_of_mem (placeWrite_whole blob selection)
      (List.pairwise_map.2 (numbers_distinct.filter _)) selected⟩

namespace Supplied

variable {after : RegisterCache registerFile}

theorem tags (supplied : Supplied blob after ftag) :
    after.readUnsigned ftag = .ok (expandTags blob) := by
  rw [RegisterCache.readUnsigned_eq_value supplied.valid (by decide),
    value_supplied_tags supplied.bytes]

theorem status (supplied : Supplied blob after fstat) :
    after.readUnsigned fstat = .ok (LittleEndian.value (blob.slice 2 2)) := by
  have short : (blob.slice 2 2).length ≤ 4 := Nat.le_trans (List.length_take_le _ _) (by decide)
  have filled : (placeWrite blob fstat).bytes = (blob.slice 2 2).resize 4 := rfl
  rw [RegisterCache.readUnsigned_eq_value supplied.valid (by decide), supplied.bytes, filled,
    LittleEndian.value_resize short]

theorem stack (long : areaSize ≤ blob.length) {index : Nat} (small : index < 8)
    (supplied : Supplied blob after (st index)) :
    after.read (st index) = .ok (stackBytes blob index) := by
  obtain ⟨listed, place, width⟩ := placeOf_st index small
  have inside := placed_inside (st index) listed
  rw [place] at inside
  have sized : (stackBytes blob index).length = stSize :=
    Bytes.length_slice_of_le (Nat.le_trans inside long)
  apply RegisterCache.read_of_valid supplied.valid
  have notSelector : ¬ st index = fop := by simp only [st, fop]; omega
  have notTags : ¬ st index = ftag := by simp only [st, ftag]; omega
  rw [supplied.bytes, placeWrite, place, width, valueIn, if_neg notSelector, if_neg notTags]
  exact Bytes.resize_eq_self sized

end Supplied

/-- A physical register that is not empty has the tag of the number in the stack register at its
distance from the top. -/
theorem tagOf_rotated {index : Nat} (small : index < 8) :
    tagOf blob ((top blob + index) % 8) =
      if (LittleEndian.value (blob.slice 4 1)).testBit ((top blob + index) % 8) then
        (Extended.ofBytes (stackBytes blob index)).tag
      else 3 := by
  have bounded : top blob < 8 := Nat.mod_lt _ (by decide)
  have back : ((top blob + index) % 8 + 8 - top blob) % 8 = index := by omega
  rw [tagOf, back, tag_eq]

/-- After an area has been supplied, the tag word has sixteen bits, two for each physical register. They
are 3 if the abridged tags do not have the register, and tell what kind of number the stack register
with its place has been given if they do. The tags do not depend on which other registers are
supplied. -/
theorem supply_tags {blob : Bytes} (long : areaSize ≤ blob.length)
    (cache : RegisterCache registerFile) :
    ∃ after status tags abridged, Attempt.run (codec.supply .all blob) cache = (.ok ⟨⟩, after) ∧
      after.readUnsigned fstat = .ok status ∧ after.readUnsigned ftag = .ok tags ∧
      blob[4]? = some abridged ∧ tags < 1 <<< 16 ∧
      (∀ index < 8, ∃ raw, after.read (st index) = .ok raw ∧
        ∀ physical, physical = (status >>> 11 % 8 + index) % 8 →
          tags >>> (2 * physical) % 4 =
            if abridged.toNat.testBit physical then (Extended.ofBytes raw).tag else 3) ∧
      ∀ selection : Selection, selection.includes ftag = true →
        ∃ after, Attempt.run (codec.supply selection blob) cache = (.ok ⟨⟩, after) ∧
          after.readUnsigned ftag = .ok tags := by
  obtain ⟨after, run, supplied⟩ := exists_supplied long .all cache
  obtain ⟨abridged, found, byte⟩ :=
    Bytes.exists_slice_one (Nat.lt_of_lt_of_le (by decide : 4 < areaSize) long)
  have value : LittleEndian.value (blob.slice 4 1) = abridged.toNat := by
    rw [byte]
    exact Nat.add_zero _
  refine ⟨after, _, _, abridged, run, (supplied fstat (by decide) rfl).status,
    (supplied ftag (by decide) rfl).tags, found, expandTags_lt blob, fun index small => ?_,
    fun selection included => ?_⟩
  · refine ⟨_, (supplied (st index) (placeOf_st index small).1 rfl).stack long small,
      fun physical here => ?_⟩
    subst here
    rw [← value, field_expandTags blob (Nat.mod_lt _ (by decide))]
    exact tagOf_rotated small
  · obtain ⟨other, run', supplied'⟩ := exists_supplied long selection cache
    exact ⟨other, run', (supplied' ftag (by decide) included).tags⟩

/-- An area whose top is register 5. That register and the next one are in use. The stack registers
have one and zero. -/
def sampleArea : Bytes :=
  ((Bytes.zeros areaSize).overwrite 3 [0x28, 0x60]).overwrite 39 [0x80, 0xff, 0x3f]

theorem supply_tags_sampleArea : ∃ after tags,
    Attempt.run (codec.supply .all sampleArea) (.empty registerFile) = (.ok ⟨⟩, after) ∧
      after.readUnsigned ftag = .ok tags ∧
      tags >>> 10 % 4 = 0 ∧ tags >>> 12 % 4 = 1 ∧ tags >>> 14 % 4 = 3 := by
  have long : areaSize ≤ sampleArea.length := by decide +kernel
  obtain ⟨after, status, tags, abridged, run, held, tagged, found, -, fields, -⟩ :=
    supply_tags long (.empty registerFile)
  have found' : sampleArea[4]? = some 0x60 := by decide +kernel
  obtain rfl := Option.some.inj (found'.symm.trans found)
  obtain ⟨_, run', supplied⟩ := exists_supplied long .all (.empty registerFile)
  cases run.symm.trans run'
  have held' := (supplied fstat (by decide) rfl).status
  obtain rfl := Except.ok.inj (held'.symm.trans held)
  have stack (index : Nat) (small : index < 8) :=
    (supplied (st index) (placeOf_st index small).1 rfl).stack long small
  obtain ⟨raw, first, tag⟩ := fields 0 (by decide)
  obtain ⟨raw', second, tag'⟩ := fields 1 (by decide)
  obtain ⟨_, -, tag''⟩ := fields 2 (by decide)
  obtain rfl := Except.ok.inj ((stack 0 (by decide)).symm.trans first)
  obtain rfl := Except.ok.inj ((stack 1 (by decide)).symm.trans second)
  refine ⟨_, tags, run, tagged, (tag 5 ?_).trans ?_, (tag' 6 ?_).trans ?_, tag'' 7 ?_⟩ <;>
  decide +kernel

end Fxsave

end Amd64

end Inferior

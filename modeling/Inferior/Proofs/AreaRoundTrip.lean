import Mathlib.Data.List.Basic
import Inferior.Proofs.FxsaveArea

/-! An FXSAVE area that is supplied to a cache and collected again. It comes back bit for bit as far as
it holds registers. The tags do as well: their full form is computed from an abridged one and from
the numbers on the x87 stack, and abridging it gives back what was there.

The registers of an area have nothing to do with each other, so they can also be transferred one by
one, in any order.
-/

set_option autoImplicit false

namespace Inferior

namespace Bytes

theorem exists_slice_one {bytes : Bytes} {offset : Nat} (inside : offset < bytes.length) :
    ∃ byte, bytes[offset]? = some byte ∧ bytes.slice offset 1 = [byte] := by
  refine ⟨bytes[offset], List.getElem?_eq_getElem inside, ?_⟩
  rw [slice, List.drop_eq_getElem_cons inside, List.take_succ_cons, List.take_zero]

theorem exists_slice_two {bytes : Bytes} {offset : Nat} (inside : offset + 1 < bytes.length) :
    ∃ low high, bytes[offset]? = some low ∧ bytes[offset + 1]? = some high ∧
      bytes.slice offset 2 = [low, high] := by
  have first := Nat.lt_of_succ_lt inside
  refine ⟨bytes[offset], bytes[offset + 1], List.getElem?_eq_getElem first,
    List.getElem?_eq_getElem inside, ?_⟩
  rw [slice, List.drop_eq_getElem_cons first, List.take_succ_cons, List.drop_eq_getElem_cons inside,
    List.take_succ_cons, List.take_zero]

/-- What is cut off again is only what a value was filled up with. -/
theorem take_resize {bytes : Bytes} {length : Nat} (long : bytes.length ≤ length) :
    (bytes.resize length).take bytes.length = bytes := by
  rw [resize, List.take_of_length_le long, List.take_left]

end Bytes

/-- The bits of a byte that a mask selects are new, and the others are old. -/
def blend (mask new old : UInt8) : UInt8 := (new &&& mask) ||| (old &&& ~~~mask)

theorem blend_all (new old : UInt8) : blend 0xff new old = new := by
  have all : (0xff : UInt8) = -1 := rfl
  simp [blend, all]

theorem blend_none (new old : UInt8) : blend 0 new old = old := by
  simp [blend]

theorem toNat_blend_low (new old : UInt8) :
    (blend 7 new old).toNat = 8 * (old.toNat / 8) + new.toNat % 8 := by
  have low : new.toNat &&& 7 = new.toNat % 8 := Nat.and_two_pow_sub_one_eq_mod _ 3
  have high : ∀ byte : Fin 256, byte.val &&& 248 = 8 * (byte.val / 8) := by decide +kernel
  have other : (~~~(7 : UInt8)).toNat = 248 := rfl
  have seven : (7 : UInt8).toNat = 7 := rfl
  rw [blend, UInt8.toNat_or, UInt8.toNat_and, UInt8.toNat_and, other, seven, low,
    high ⟨old.toNat, old.toNat_lt⟩, Nat.or_comm]
  exact (@Nat.two_pow_add_eq_or_of_lt 3 _ (Nat.mod_lt _ (by decide)) _).symm

namespace Amd64.Fxsave

section Tags

/-- Fields of two bits side by side keep out of each other's way. -/
theorem fields_of_sum {field : Nat → Nat} (small : ∀ index, field index < 4) (count : Nat) :
    (List.range count).foldl (fun sum index => sum + field index <<< (2 * index)) 0 <
        1 <<< (2 * count) ∧
      ∀ index < count, ((List.range count).foldl
        (fun sum index => sum + field index <<< (2 * index)) 0 >>> (2 * index)) % 4 = field index := by
  induction count with
  | zero => exact ⟨Nat.zero_lt_one, nofun⟩
  | succ count ih =>
    obtain ⟨bounded, fields⟩ := ih
    rw [List.range_succ, List.foldl_append]
    simp only [List.foldl_cons, List.foldl_nil]
    generalize (List.range count).foldl (fun sum index => sum + field index <<< (2 * index)) 0 = sum
      at bounded fields
    -- The sum so far is small enough to leave the bits of the new field alone.
    have last := small count
    rw [Nat.shiftLeft_eq, Nat.one_mul] at bounded
    refine ⟨?_, fun index below => ?_⟩
    · rw [Nat.shiftLeft_eq, Nat.shiftLeft_eq, Nat.mul_succ, Nat.pow_add]
      have := Nat.mul_le_mul_right (1 <<< (2 * count)) (Nat.le_of_lt_succ last)
      rw [Nat.shiftLeft_eq, Nat.one_mul] at this
      omega
    · rcases Nat.lt_or_eq_of_le (Nat.le_of_lt_succ below) with earlier | rfl
      · -- The new field is a multiple of what lies below the one that is looked at.
        obtain ⟨more, rfl⟩ := Nat.exists_eq_add_of_lt earlier
        rw [← fields index earlier, Nat.shiftRight_eq_div_pow, Nat.shiftRight_eq_div_pow,
          Nat.shiftLeft_eq]
        have split : 2 * (index + more + 1) = 2 * index + (2 * more + 2) := by omega
        rw [split, Nat.pow_add, Nat.mul_left_comm, Nat.add_mul_div_left _ _ (Nat.two_pow_pos _),
          Nat.pow_add, ← Nat.mul_assoc]
        exact Nat.add_mul_mod_self_right _ _ 4
      · rw [Nat.shiftRight_eq_div_pow, Nat.shiftLeft_eq, Nat.add_mul_div_right _ _ (Nat.two_pow_pos _),
          Nat.div_eq_of_lt bounded, Nat.zero_add, Nat.mod_eq_of_lt last]

theorem sum_bits (number count : Nat) :
    (List.range count).foldl
      (fun sum index => if number.testBit index then sum + 1 <<< index else sum) 0 =
        number % 1 <<< count := by
  induction count with
  | zero => exact (Nat.mod_one number).symm
  | succ count ih =>
    rw [List.range_succ, List.foldl_append, ih, Nat.shiftLeft_eq, Nat.shiftLeft_eq, Nat.one_mul,
      Nat.one_mul, Nat.pow_succ, Nat.mod_mul]
    simp only [List.foldl_cons, List.foldl_nil, Nat.testBit_eq_decide_div_mod_eq, Nat.shiftLeft_eq,
      Nat.one_mul, decide_eq_true_eq]
    split
    · rename_i set
      rw [set, Nat.mul_one]
    · rename_i clear
      rw [Nat.mod_two_ne_one.1 clear, Nat.mul_zero, Nat.add_zero]

theorem tag_le (raw : Bytes) : tag raw ≤ 2 := by
  unfold tag
  grind

theorem tagOf_lt (blob : Bytes) (physical : Nat) : tagOf blob physical < 4 := by
  unfold tagOf
  split
  · exact Nat.lt_of_le_of_lt (tag_le _) (by decide)
  · decide

/-- A tag marks an empty register if and only if the abridged form does. -/
theorem tagOf_eq_three {blob : Bytes} {physical : Nat} :
    tagOf blob physical = 3 ↔ ¬(LittleEndian.value (blob.slice 4 1)).testBit physical := by
  unfold tagOf
  split
  · rename_i full
    have := tag_le (stackBytes blob ((physical + 8 - top blob) % 8))
    exact iff_of_false (by omega) (not_not_intro full)
  · rename_i empty
    exact iff_of_true rfl empty

theorem expandTags_lt (blob : Bytes) : expandTags blob < 1 <<< 16 :=
  (fields_of_sum (tagOf_lt blob) 8).1

theorem field_expandTags (blob : Bytes) {physical : Nat} (small : physical < 8) :
    (expandTags blob >>> (2 * physical)) % 4 = tagOf blob physical :=
  (fields_of_sum (tagOf_lt blob) 8).2 physical small

/-- The abridged tags are not lost when they are expanded. -/
theorem abridgeTags_expandTags (blob : Bytes) :
    abridgeTags (expandTags blob) = LittleEndian.value (blob.slice 4 1) := by
  have small : LittleEndian.value (blob.slice 4 1) < 1 <<< 8 := by
    have bounded := LittleEndian.value_lt (blob.slice 4 1)
    have short : (blob.slice 4 1).length ≤ 1 := List.length_take_le _ _
    have byte : LittleEndian.capacity (blob.slice 4 1).length ≤ 1 <<< 8 := by
      rcases Nat.le_one_iff_eq_zero_or_eq_one.1 short with length | length <;> rw [length] <;> decide
    omega
  calc
    abridgeTags (expandTags blob)
    _ = (List.range 8).foldl (fun sum index =>
          if (LittleEndian.value (blob.slice 4 1)).testBit index then sum + 1 <<< index else sum) 0 := by
        apply List.foldl_ext
        intro sum index listed
        rw [field_expandTags blob (List.mem_range.1 listed)]
        simp only [tagOf_eq_three, ite_not]
    _ = LittleEndian.value (blob.slice 4 1) := by rw [sum_bits, Nat.mod_eq_of_lt small]

end Tags

/-- The bits of the bytes of an area in which registers are kept. -/
def registerBits (index : Nat) : UInt8 :=
  if index < 5 ∨ index = 6 ∨ 8 ≤ index ∧ index < 28 ∨
      32 ≤ index ∧ index < 160 ∧ (index - 32) % 16 < stSize ∨ 160 ≤ index ∧ index < 416 then 0xff
  else if index = 7 then 7 else 0

theorem registerBits_place : ∀ number ∈ numbers, number ≠ ftag → number ≠ fop →
    ∀ offset < (placeOf number).2, registerBits ((placeOf number).1 + offset) = 0xff := by
  decide +kernel

theorem registerBits_outside : ∀ index < areaSize,
    (∀ number ∈ numbers, index < (placeOf number).1 ∨
      (placeOf number).1 + (placeOf number).2 ≤ index) → registerBits index = 0 := by
  decide +kernel

theorem registerBits_beyond {index : Nat} (beyond : areaSize ≤ index) : registerBits index = 0 := by
  unfold areaSize at beyond
  rw [registerBits, if_neg (by omega), if_neg (by omega)]

section RoundTrip

variable {blob old : Bytes} {cache : RegisterCache registerFile} {number : Nat}

theorem collectedOver_plain (long : areaSize ≤ blob.length) (listed : number ∈ numbers)
    (untagged : number ≠ ftag) (plain : number ≠ fop)
    (supplied : cache.bytes number = (placeWrite blob number).bytes)
    (sized : old.length = (placeOf number).2) :
    collectedOver cache number old = blob.slice (placeOf number).1 (placeOf number).2 := by
  have narrow := placed_narrow number listed
  have inside := Nat.le_trans (placed_inside number listed) long
  have length := Bytes.length_slice_of_le inside
  have wide : old.length ≤ (cache.bytes number).length := by
    rw [sized, cache.length_bytes]
    exact narrow
  rw [← length] at narrow
  have cut := Bytes.take_resize narrow
  rw [length] at cut
  rw [collectedOver, if_neg plain, if_neg untagged, Bytes.overwrite_of_le wide, supplied, placeWrite,
    valueIn, if_neg plain, if_neg untagged, sized, cut]

theorem value_supplied_tags (supplied : cache.bytes ftag = (placeWrite blob ftag).bytes) :
    LittleEndian.value (cache.bytes ftag) = expandTags blob := by
  have whole : (placeWrite blob ftag).bytes = LittleEndian.digits 4 (expandTags blob) :=
    Bytes.resize_eq_self (LittleEndian.length_digits _ _)
  have small := expandTags_lt blob
  rw [supplied, whole, LittleEndian.value_digits]
  exact Nat.mod_eq_of_lt (Nat.lt_trans small (by decide))

theorem value_supplied_opcode (supplied : cache.bytes fop = (placeWrite blob fop).bytes) :
    LittleEndian.value (cache.bytes fop) = opcodeOf (LittleEndian.value (blob.slice 6 2)) := by
  have whole : (placeWrite blob fop).bytes =
      LittleEndian.digits 4 (opcodeOf (LittleEndian.value (blob.slice 6 2))) :=
    Bytes.resize_eq_self (LittleEndian.length_digits _ _)
  have small : opcodeOf (LittleEndian.value (blob.slice 6 2)) < 2048 := Nat.mod_lt _ (by decide)
  rw [supplied, whole, LittleEndian.value_digits]
  exact Nat.mod_eq_of_lt (Nat.lt_trans small (by decide))

theorem collectedOver_tags (long : areaSize ≤ blob.length)
    (supplied : cache.bytes ftag = (placeWrite blob ftag).bytes) :
    ∃ abridged, blob[4]? = some abridged ∧ collectedOver cache ftag old = [abridged, 0] := by
  have inside : 4 < blob.length := Nat.lt_of_lt_of_le (by decide) long
  obtain ⟨abridged, found, byte⟩ := Bytes.exists_slice_one inside
  refine ⟨abridged, found, ?_⟩
  have small := abridged.toNat_lt
  have value : LittleEndian.value [abridged] = abridged.toNat := by
    simp [LittleEndian.value]
  rw [collectedOver, if_neg (by decide), if_pos rfl, value_supplied_tags supplied,
    abridgeTags_expandTags, byte, value, LittleEndian.digits, LittleEndian.digits, LittleEndian.digits,
    Nat.div_eq_of_lt small, UInt8.ofNat_toNat]
  rfl

theorem opcodeOf_bytes {low : Nat} (small : low < 256) (high : Nat) :
    opcodeOf (low + 256 * high) = low + 256 * (high % 8) := by
  have byte : (low + 256 * high) % 256 = low := by omega
  have rest : (low + 256 * high) / 256 = high := by omega
  rw [opcodeOf, @Nat.mod_mul 256 8, byte, rest]

/-- The lower byte of an opcode is new, and so are the three lowest bits of the upper one. -/
theorem collectedOver_opcode (long : areaSize ≤ blob.length)
    (supplied : cache.bytes fop = (placeWrite blob fop).bytes) (before after : UInt8) :
    ∃ low high, blob[6]? = some low ∧ blob[7]? = some high ∧
      collectedOver cache fop [before, after] = [low, blend 7 high after] := by
  have inside : 7 < blob.length := Nat.lt_of_lt_of_le (by decide) long
  obtain ⟨low, high, first, second, bytes⟩ := Bytes.exists_slice_two inside
  refine ⟨low, high, first, second, ?_⟩
  have word (low high : UInt8) :
      LittleEndian.value [low, high] = low.toNat + 256 * high.toNat := by
    simp [LittleEndian.value]
  have lower := low.toNat_lt
  have kept := opcodeOf_bytes before.toNat_lt after.toNat
  have blended := toNat_blend_low high after
  rw [collectedOver, if_pos rfl, value_supplied_opcode supplied, bytes]
  simp only [word, opcodeOf_bytes low.toNat_lt, kept, LittleEndian.digits, List.cons.injEq,
    and_true, ← UInt8.toNat_inj, UInt8.toNat_ofNat']
  have := (blend 7 high after).toNat_lt
  constructor <;> omega

end RoundTrip

/-- What becomes of an area into which registers are collected that were supplied from a blob. -/
structure Recollected (blob out after : Bytes) (cache : RegisterCache registerFile) : Prop where
  long : areaSize ≤ blob.length
  room : areaSize ≤ out.length
  length : after.length = out.length
  supplied : ∀ number ∈ numbers, cache.bytes number = (placeWrite blob number).bytes
  collected : ∀ number ∈ numbers, after.slice (placeOf number).1 (placeOf number).2 =
    collectedOver cache number (out.slice (placeOf number).1 (placeOf number).2)
  kept {index : Nat} (outside : ∀ number ∈ numbers, index < (placeOf number).1 ∨
    (placeOf number).1 + (placeOf number).2 ≤ index) : after[index]? = out[index]?

def Blended (blob out after : Bytes) (index : Nat) : Prop :=
  after[index]? = out[index]?.map (blend (registerBits index) (blob[index]?.getD 0))

theorem blended_of_all {blob out after : Bytes} {index : Nat} (all : registerBits index = 0xff)
    (inside : index < blob.length) (room : index < out.length)
    (same : after[index]? = blob[index]?) : Blended blob out after index := by
  rw [Blended, same, all, List.getElem?_eq_getElem inside, List.getElem?_eq_getElem room,
    Option.map_some, Option.getD_some, blend_all]

namespace Recollected

variable {blob out after : Bytes} {cache : RegisterCache registerFile}
  (recollected : Recollected blob out after cache)
include recollected

theorem blended_plain {number : Nat} (listed : number ∈ numbers) (untagged : number ≠ ftag)
    (plain : number ≠ fop) {index : Nat} (start : (placeOf number).1 ≤ index)
    (stop : index < (placeOf number).1 + (placeOf number).2) : Blended blob out after index := by
  have inside := placed_inside number listed
  have found := Nat.lt_of_lt_of_le stop (Nat.le_trans inside recollected.long)
  have room := Nat.lt_of_lt_of_le stop (Nat.le_trans inside recollected.room)
  have below : index - (placeOf number).1 < (placeOf number).2 := by omega
  have bits := registerBits_place number listed untagged plain _ below
  have sized := Bytes.length_slice_of_le (Nat.le_trans inside recollected.room)
  have same := congrArg (·[index - (placeOf number).1]?) (recollected.collected number listed)
  rw [collectedOver_plain recollected.long listed untagged plain (recollected.supplied number listed)
    sized] at same
  simp only [Bytes.getElem?_slice, if_pos below, Nat.add_sub_cancel' start] at same
  rw [Nat.add_sub_cancel' start] at bits
  exact blended_of_all bits found room same

theorem blended_tags : Blended blob out after 4 ∧ after[5]? = some 0 := by
  have long := recollected.long
  have room := recollected.room
  have length := recollected.length
  unfold areaSize at long room
  have listed : ftag ∈ numbers := by decide
  obtain ⟨abridged, found, bytes⟩ := @collectedOver_tags _ (out.slice 4 2) _ recollected.long
    (recollected.supplied ftag listed)
  obtain ⟨first, second, low, high, pair⟩ := @Bytes.exists_slice_two after 4 (by omega)
  have same : [first, second] = [abridged, 0] :=
    pair.symm.trans ((recollected.collected ftag listed).trans bytes)
  cases same
  exact ⟨blended_of_all rfl (by omega) (by omega) (low.trans found.symm), high⟩

theorem blended_opcode : Blended blob out after 6 ∧ Blended blob out after 7 := by
  have long := recollected.long
  have room := recollected.room
  have length := recollected.length
  unfold areaSize at long room
  have listed : fop ∈ numbers := by decide
  obtain ⟨first, second, low, high, pair⟩ := @Bytes.exists_slice_two after 6 (by omega)
  obtain ⟨first', second', low', high', pair'⟩ := @Bytes.exists_slice_two out 6 (by omega)
  obtain ⟨lower, upper, found, found', bytes⟩ := collectedOver_opcode recollected.long
    (recollected.supplied fop listed) first' second'
  have word : collectedOver cache fop (out.slice 6 2) = [lower, blend 7 upper second'] := by
    rw [pair', bytes]
  have same : [first, second] = [lower, blend 7 upper second'] :=
    pair.symm.trans ((recollected.collected fop listed).trans word)
  cases same
  refine ⟨blended_of_all rfl (by omega) (by omega) (low.trans found.symm), ?_⟩
  rw [Blended, high, high', found']
  rfl

theorem blended_outside {index : Nat} (outside : ∀ number ∈ numbers, index < (placeOf number).1 ∨
    (placeOf number).1 + (placeOf number).2 ≤ index) : Blended blob out after index := by
  have bits : registerBits index = 0 := by
    rcases Nat.lt_or_ge index areaSize with below | beyond
    · exact registerBits_outside index below outside
    · exact registerBits_beyond beyond
  rw [Blended, recollected.kept outside, bits]
  cases out[index]? with
  | none => rfl
  | some old => exact congrArg some (blend_none _ old).symm

theorem blended {index : Nat} (other : index ≠ 5) : Blended blob out after index := by
  by_cases covered : ∃ number ∈ numbers, (placeOf number).1 ≤ index ∧
      index < (placeOf number).1 + (placeOf number).2
  · obtain ⟨number, listed, start, stop⟩ := covered
    -- All registers but the tags and the opcode are kept in whole bytes.
    by_cases tags : number = ftag
    · subst tags
      have first : index = 4 := by
        change 4 ≤ index at start
        change index < 6 at stop
        omega
      subst first
      exact recollected.blended_tags.1
    · by_cases opcode : number = fop
      · subst opcode
        have either : index = 6 ∨ index = 7 := by
          change 6 ≤ index at start
          change index < 8 at stop
          omega
        rcases either with rfl | rfl
        · exact recollected.blended_opcode.1
        · exact recollected.blended_opcode.2
      · exact recollected.blended_plain listed tags opcode start stop
  · apply recollected.blended_outside
    intro number listed
    have := not_and.1 fun both => covered ⟨number, listed, both⟩
    omega

end Recollected

section Transfers

variable {selection : Selection} {blob out : Bytes} {cache : RegisterCache registerFile}

theorem exists_collected (room : areaSize ≤ out.length) (cache : RegisterCache registerFile) :
    ∃ after, Attempt.run (codec.collect cache .all) out = (.ok ⟨⟩, after) ∧
      after.length = out.length ∧
      (∀ number ∈ numbers, after.slice (placeOf number).1 (placeOf number).2 =
        collectedOver cache number (out.slice (placeOf number).1 (placeOf number).2)) ∧
      ∀ index, (∀ number ∈ numbers, index < (placeOf number).1 ∨
        (placeOf number).1 + (placeOf number).2 ≤ index) → after[index]? = out[index]? := by
  have collected := @run_collect .all _ room cache
  rw [numbers_filter_all] at collected
  have inside : ∀ edit ∈ numbers.map (placeEdit cache), edit.Inside out.length :=
    List.forall_mem_map.2 fun number listed => Nat.le_trans (placed_inside number listed) room
  refine ⟨_, collected, BlobEdit.length_applyAll _ _, fun number listed => ?_,
    fun index outside => ?_⟩
  · exact BlobEdit.slice_applyAll_of_mem inside (List.pairwise_map.2 placed_apart)
      (List.mem_map_of_mem listed)
  · exact BlobEdit.getElem?_applyAll_of_outside inside (List.forall_mem_map.2 outside)

theorem exists_recollected (long : areaSize ≤ blob.length) (room : areaSize ≤ out.length)
    (cache : RegisterCache registerFile) :
    ∃ middle after, Attempt.run (codec.supply .all blob) cache = (.ok ⟨⟩, middle) ∧
      Attempt.run (codec.collect middle .all) out = (.ok ⟨⟩, after) ∧
      Recollected blob out after middle := by
  have whole := placeWrite_whole blob .all
  have supplied := @run_supply .all _ long cache
  rw [numbers_filter_all] at whole supplied
  obtain ⟨after, collected, length, places, kept⟩ :=
    exists_collected room (cache.storeAll (numbers.map (placeWrite blob)))
  refine ⟨_, after, supplied, collected, long, room, length, fun number listed => ?_, places,
    fun {index} => kept index⟩
  exact cache.bytes_storeAll_of_mem whole (List.pairwise_map.2 numbers_distinct)
    (List.mem_map_of_mem listed)

/-- Supplying leaves the registers alone that are not in an area, also if it fails. -/
theorem supply_keeps (selection : Selection) (blob : Bytes) (cache : RegisterCache registerFile)
    {number : Nat} (outside : number ∉ numbers) :
    (Attempt.run (codec.supply selection blob) cache).2.AgreesAt cache number := by
  rcases Nat.lt_or_ge blob.length areaSize with short | long
  · rw [run_supply_of_short short]
    exact .refl cache number
  · rw [run_supply long]
    have different : ∀ write ∈ (numbers.filter selection.includes).map (placeWrite blob),
        write.number ≠ number :=
      List.forall_mem_map.2 fun _ selected =>
        ne_of_mem_of_not_mem (List.mem_filter.1 selected).1 outside
    exact ⟨cache.status_storeAll_of_ne different,
      cache.bytes_storeAll_of_ne (placeWrite_whole blob selection) different⟩

theorem collect_congr (selection : Selection) (out : Bytes) {first second : RegisterCache registerFile}
    (same : ∀ number ∈ numbers, first.bytes number = second.bytes number) :
    Attempt.run (codec.collect first selection) out =
      Attempt.run (codec.collect second selection) out := by
  rcases Nat.lt_or_ge out.length areaSize with short | room
  · rw [run_collect_of_short short, run_collect_of_short short]
  · have edits : (numbers.filter selection.includes).map (placeEdit first) =
        (numbers.filter selection.includes).map (placeEdit second) := by
      apply List.map_congr_left
      intro number selected
      have change : collectedOver first number = collectedOver second number := by
        funext old
        unfold collectedOver
        rw [same fop (by decide), same ftag (by decide), same number (List.mem_filter.1 selected).1]
      simp only [placeEdit, change]
    rw [run_collect room, run_collect room, edits]

theorem supplyEach_eq {order : List Nat} (perm : order.Perm numbers) (blob : Bytes)
    (cache : RegisterCache registerFile) :
    Attempt.run (codec.supplyEach order blob) cache = Attempt.run (codec.supply .all blob) cache := by
  rcases Nat.lt_or_ge blob.length areaSize with short | long
  · cases order with
    | nil => exact absurd perm.length_eq (by decide)
    | cons number rest =>
      change Attempt.run (codec.supply (.only number) blob >>= fun _ => _) cache = _
      rw [Attempt.run_bind, run_supply_of_short short, run_supply_of_short short]
  · have whole := placeWrite_whole blob .all
    have supplied := @run_supply .all _ long cache
    rw [numbers_filter_all] at whole supplied
    have each : Attempt.run (codec.supplyEach order blob) cache =
        (.ok ⟨⟩, cache.storeAll (order.map (placeWrite blob))) := by
      rw [RegisterCache.storeAll, List.foldl_map]
      apply Attempt.run_forM_eq_foldl (fun _ => True) _ trivial
      intro number listed cache _
      rw [run_supply long, numbers_filter_only number (perm.mem_iff.1 listed)]
      exact ⟨rfl, trivial⟩
    rw [each, supplied, cache.storeAll_perm (perm.symm.map (placeWrite blob)) whole]
    intro first listed second listed' same
    obtain ⟨number, -, rfl⟩ := List.mem_map.1 listed
    obtain ⟨number', -, rfl⟩ := List.mem_map.1 listed'
    exact congrArg (placeWrite blob) same

theorem collectEach_eq {order : List Nat} (perm : order.Perm numbers) (out : Bytes)
    (cache : RegisterCache registerFile) :
    Attempt.run (codec.collectEach cache order) out = Attempt.run (codec.collect cache .all) out := by
  rcases Nat.lt_or_ge out.length areaSize with short | room
  · cases order with
    | nil => exact absurd perm.length_eq (by decide)
    | cons number rest =>
      change Attempt.run (codec.collect cache (.only number) >>= fun _ => _) out = _
      rw [Attempt.run_bind, run_collect_of_short short, run_collect_of_short short]
  · have collected := @run_collect .all _ room cache
    rw [numbers_filter_all] at collected
    have inside : ∀ edit ∈ numbers.map (placeEdit cache), edit.Inside out.length :=
      List.forall_mem_map.2 fun number listed => Nat.le_trans (placed_inside number listed) room
    have each : Attempt.run (codec.collectEach cache order) out =
        (.ok ⟨⟩, BlobEdit.applyAll (order.map (placeEdit cache)) out) := by
      rw [BlobEdit.applyAll, List.foldl_map]
      apply Attempt.run_forM_eq_foldl (fun blob => areaSize ≤ blob.length) _ room
      intro number listed blob room
      rw [run_collect room, numbers_filter_only number (perm.mem_iff.1 listed)]
      exact ⟨rfl, le_of_le_of_eq room (BlobEdit.length_apply _ _).symm⟩
    rw [each, collected, BlobEdit.applyAll_perm (perm.symm.map (placeEdit cache)) inside
      (List.pairwise_map.2 placed_apart)]

end Transfers

/-- An area that is supplied and collected again comes back in every bit that belongs to a register.
The byte beside the tags is cleared, and the other bits are those of the area collected into. Either
transfer keeps to the registers of the area, and takes them in any order. -/
theorem area_recollected (blob out : Bytes) (cache : RegisterCache registerFile) :
    (areaSize ≤ blob.length → areaSize ≤ out.length →
      ∃ middle after, Attempt.run (codec.supply .all blob) cache = (.ok ⟨⟩, middle) ∧
        Attempt.run (codec.collect middle .all) out = (.ok ⟨⟩, after) ∧
        after.length = out.length ∧ after[5]? = some 0 ∧
        ∀ index, index ≠ 5 → Blended blob out after index) ∧
    (∀ selection, ∀ number ∉ numbers,
      (Attempt.run (codec.supply selection blob) cache).2.AgreesAt cache number) ∧
    (∀ selection other, (∀ number ∈ numbers, cache.bytes number = other.bytes number) →
      Attempt.run (codec.collect cache selection) out =
        Attempt.run (codec.collect other selection) out) ∧
    ∀ order : List Nat, order.Perm numbers →
      Attempt.run (codec.supplyEach order blob) cache = Attempt.run (codec.supply .all blob) cache ∧
      Attempt.run (codec.collectEach cache order) out =
        Attempt.run (codec.collect cache .all) out := by
  refine ⟨fun long room => ?_, fun selection number => supply_keeps selection blob cache,
    fun selection other => collect_congr selection out,
    fun order perm => ⟨supplyEach_eq perm blob cache, collectEach_eq perm out cache⟩⟩
  obtain ⟨middle, after, supplied, collected, recollected⟩ := exists_recollected long room cache
  exact ⟨middle, after, supplied, collected, recollected.length, recollected.blended_tags.2,
    fun index other => recollected.blended other⟩

/-- Of the byte with the upper end of the opcode only three bits arrive. The registers can as well be
supplied from the last to the first. -/
theorem area_recollected_full :
    (∃ middle after,
      Attempt.run (codec.supply .all (List.replicate areaSize 0xff)) (.empty registerFile) =
        (.ok ⟨⟩, middle) ∧
      Attempt.run (codec.collect middle .all) (Bytes.zeros areaSize) = (.ok ⟨⟩, after) ∧
      after[5]? = some 0 ∧ after[7]? = some 7) ∧
    Attempt.run (codec.supplyEach numbers.reverse (List.replicate areaSize 0xff))
        (.empty registerFile) =
      Attempt.run (codec.supply .all (List.replicate areaSize 0xff)) (.empty registerFile) := by
  have full : areaSize ≤ (List.replicate areaSize (0xff : UInt8)).length :=
    Nat.le_of_eq List.length_replicate.symm
  have zero : areaSize ≤ (Bytes.zeros areaSize).length := Nat.le_of_eq List.length_replicate.symm
  obtain ⟨whole, -, -, each⟩ := area_recollected (List.replicate areaSize 0xff)
    (Bytes.zeros areaSize) (.empty registerFile)
  obtain ⟨middle, after, supplied, collected, -, cleared, blended⟩ := whole full zero
  refine ⟨⟨middle, after, supplied, collected, cleared, ?_⟩,
    (each numbers.reverse (List.reverse_perm numbers)).1⟩
  have upper := blended 7 (by decide)
  rw [Blended, List.getElem?_eq_getElem (Nat.lt_of_lt_of_le (by decide) zero),
    List.getElem?_eq_getElem (Nat.lt_of_lt_of_le (by decide) full)] at upper
  have bits : blend (registerBits 7) 0xff 0 = 7 := by decide
  simpa [Bytes.zeros, bits] using upper

/-- The registers of an area are the x87 and the SSE registers. -/
example : numbers = List.range' 24 33 := by decide +kernel

end Amd64.Fxsave

end Inferior

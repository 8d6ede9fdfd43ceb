import Mathlib.Algebra.BigOperators.Fin
import Inferior.Proofs.FxsaveArea
import Inferior.Proofs.RegisterCells

/-! The arithmetic of numbers of a fixed width.

A byte string of any length stands for a sum in which each byte counts for a power of 256. Reading is
exact: a buffer is read as the number that it stands for if that number is one of the width, and
refused otherwise, however long it is. Writing is the way back.
-/

set_option autoImplicit false

namespace Inferior.LittleEndian

variable (width : Nat) (buffer : Bytes)

theorem value_eq_sum (bytes : Bytes) :
    value bytes = ∑ place : Fin bytes.length, bytes[place].toNat * 256 ^ place.val := by
  induction bytes with
  | nil => rfl
  | cons byte rest ih =>
    have places := Fin.sum_univ_succ fun place : Fin (byte :: rest).length =>
      (byte :: rest)[place].toNat * 256 ^ place.val
    have next (place : Fin rest.length) :
        256 * (rest[place].toNat * 256 ^ place.val) = rest[place].toNat * 256 ^ (place.val + 1) := by
      rw [mul_comm, mul_assoc, pow_succ]
    calc value (byte :: rest)
        = byte.toNat + ∑ place : Fin rest.length, 256 * (rest[place].toNat * 256 ^ place.val) := by
          rw [value, ih, Finset.mul_sum]
      _ = byte.toNat * 256 ^ 0 + ∑ place : Fin rest.length,
            rest[place].toNat * 256 ^ (place.val + 1) := by
          rw [pow_zero, mul_one, Finset.sum_congr rfl fun place _ => next place]
      _ = _ := places.symm

theorem value_eq_zero (bytes : Bytes) : value bytes = 0 ↔ bytes.all (· == 0) = true := by
  induction bytes with
  | nil => simp [value]
  | cons byte rest ih =>
    simp [value, ih, ← UInt8.toNat_inj]

/-- The numbers of the width are those that leave nothing for the bytes beyond it. -/
theorem value_lt_capacity : value buffer < capacity width ↔ value (buffer.drop width) = 0 := by
  constructor
  · intro small
    rw [drop_of_value_lt small, value_zeros]
  · intro zero
    have split := value_append (buffer.take width) (buffer.drop width)
    rw [List.take_append_drop, zero, Nat.mul_zero, Nat.add_zero] at split
    have room : capacity (buffer.take width).length ≤ capacity width := by
      rw [capacity_eq_pow, capacity_eq_pow]
      exact Nat.pow_le_pow_right (by decide) (List.length_take_le width buffer)
    rw [split]
    exact Nat.lt_of_lt_of_le (value_lt _) room

theorem value_take (small : value buffer < capacity width) :
    value (buffer.take width) = value buffer := by
  have split := value_append (buffer.take width) (buffer.drop width)
  rw [List.take_append_drop, (value_lt_capacity width buffer).1 small] at split
  exact split.symm

theorem read?_eq :
    read? width buffer = if value buffer < capacity width then some (value buffer) else none := by
  rw [read?]
  by_cases small : value buffer < capacity width
  · have zero := (value_lt_capacity width buffer).1 small
    rw [if_pos small, if_pos ((value_eq_zero _).1 zero), value_take width buffer small]
  · have nonzero := mt (value_lt_capacity width buffer).2 small
    rw [if_neg small, if_neg (mt (value_eq_zero _).2 nonzero)]

theorem read?_digits {number : Nat} (fits : number < capacity width) (count : Nat) :
    read? width (digits width number ++ Bytes.zeros count) = some number := by
  have same : value (digits width number ++ Bytes.zeros count) = number := by
    rw [value_append, value_zeros, Nat.mul_zero, Nat.add_zero, value_digits, Nat.mod_eq_of_lt fits]
  rw [read?_eq, same, if_pos fits]

/-- What a buffer holds once a number has been written to it or has been refused. -/
def written (number : Nat) : Bytes := (write? width number buffer).getD buffer

variable {width buffer}

theorem written_of_short (number : Nat) (short : buffer.length < width) :
    write? width number buffer = none ∧ written width buffer number = buffer := by
  have refused : write? width number buffer = none := if_pos short
  exact ⟨refused, by rw [written, refused]; rfl⟩

theorem written_of_long (number : Nat) (long : width ≤ buffer.length) :
    write? width number buffer = some (written width buffer number) ∧
      written width buffer number = digits width number ++ buffer.drop width := by
  have done : write? width number buffer = some (digits width number ++ buffer.drop width) :=
    if_neg (Nat.not_lt.2 long)
  rw [written, done]
  exact ⟨rfl, rfl⟩

/-- Reading and writing numbers of a width, for buffers of every length. -/
theorem read_write_exact (width : Nat) :
    (∀ buffer : Bytes, read? width buffer =
      if ∑ place : Fin buffer.length, buffer[place].toNat * 256 ^ place.val < 256 ^ width then
        some (∑ place : Fin buffer.length, buffer[place].toNat * 256 ^ place.val)
      else none) ∧
    ∀ number < 256 ^ width, ∀ buffer : Bytes,
      (buffer.length < width →
        write? width number buffer = none ∧ written width buffer number = buffer) ∧
      (width ≤ buffer.length →
        write? width number buffer = some (written width buffer number) ∧
        (written width buffer number).length = buffer.length ∧
        (written width buffer number).drop width = buffer.drop width ∧
        ∀ count, read? width ((written width buffer number).take width ++ Bytes.zeros count) =
          some number) := by
  refine ⟨fun buffer => ?_, fun number fits buffer => ⟨written_of_short number, fun long => ?_⟩⟩
  · rw [← value_eq_sum, ← capacity_eq_pow]
    exact read?_eq width buffer
  · obtain ⟨done, holds⟩ := written_of_long number long
    have sized : (digits width number).length = width := length_digits width number
    refine ⟨done, ?_, ?_, fun count => ?_⟩
    · rw [holds, List.length_append, List.length_drop, sized]
      omega
    · rw [holds, List.drop_left' sized]
    · rw [holds, List.take_left' sized]
      exact read?_digits width ((capacity_eq_pow width).symm ▸ fits) count

/-- A number of two bytes in a buffer of three, and one that has no room. -/
theorem read_write_exact_two :
    (written 2 [9, 9, 9] 0x1234).drop 2 = [9] ∧
      read? 2 ((written 2 [9, 9, 9] 0x1234).take 2 ++ Bytes.zeros 5) = some 0x1234 ∧
      written 2 [9] 0x1234 = [9] := by
  have fits : 0x1234 < 256 ^ 2 := by decide
  obtain ⟨-, -, beyond, back⟩ := ((read_write_exact 2).2 _ fits [9, 9, 9]).2 (by decide)
  obtain ⟨-, kept⟩ := ((read_write_exact 2).2 _ fits [9]).1 (by decide)
  exact ⟨beyond, back 5, kept⟩

end Inferior.LittleEndian

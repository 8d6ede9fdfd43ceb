import Inferior.Bytes

/-! Unsigned numbers of a fixed width in bytes, least significant byte first.

A number is read from a buffer of any length: a short buffer is zero-extended, and a long
one is accepted only if the bytes beyond the width are all zero.
-/

set_option autoImplicit false

namespace Inferior.LittleEndian

/-- The number that a byte string denotes, whatever its length. -/
def value : Bytes → Nat
  | [] => 0
  | byte :: rest => byte.toNat + 256 * value rest

def capacity : (width : Nat) → Nat
  | 0 => 1
  | width + 1 => 256 * capacity width

/-- The low `width` bytes of a number. -/
def digits : (width : Nat) → Nat → Bytes
  | 0, _ => []
  | width + 1, number => UInt8.ofNat number :: digits width (number / 256)

def read? (width : Nat) (buffer : Bytes) : Option Nat :=
  if (buffer.drop width).all (· == 0) then some (value (buffer.take width)) else none

def write? (width number : Nat) (buffer : Bytes) : Option Bytes :=
  if buffer.length < width then none else some (digits width number ++ buffer.drop width)

@[simp] theorem length_digits (width number : Nat) : (digits width number).length = width := by
  induction width generalizing number with
  | zero => rfl
  | succ width ih => simp [digits, ih]

theorem value_lt (bytes : Bytes) : value bytes < capacity bytes.length := by
  induction bytes with
  | nil => exact Nat.zero_lt_one
  | cons byte rest ih =>
    have := byte.toNat_lt
    simp only [value, List.length_cons, capacity]
    omega

theorem value_append (low high : Bytes) :
    value (low ++ high) = value low + capacity low.length * value high := by
  induction low with
  | nil => simp [value, capacity]
  | cons byte rest ih =>
    simp only [List.cons_append, value, ih, List.length_cons, capacity]
    grind

theorem value_zeros (count : Nat) : value (Bytes.zeros count) = 0 := by
  induction count with
  | zero => rfl
  | succ count ih =>
    change 0 + 256 * value (Bytes.zeros count) = 0
    rw [ih]

theorem value_digits (width number : Nat) :
    value (digits width number) = number % capacity width := by
  induction width generalizing number with
  | zero => exact (Nat.mod_one number).symm
  | succ width ih =>
    have byte : (UInt8.ofNat number).toNat = number % 256 := UInt8.toNat_ofNat'
    rw [digits, value, ih, byte, capacity, Nat.mod_mul]

theorem digits_value (bytes : Bytes) : digits bytes.length (value bytes) = bytes := by
  induction bytes with
  | nil => rfl
  | cons byte rest ih =>
    have := byte.toNat_lt
    have quotient : (byte.toNat + 256 * value rest) / 256 = value rest := by omega
    have remainder : UInt8.ofNat (byte.toNat + 256 * value rest) = byte := by
      apply UInt8.toNat_inj.1
      simp only [UInt8.toNat_ofNat']
      omega
    rw [value, List.length_cons, digits, quotient, remainder, ih]

end Inferior.LittleEndian

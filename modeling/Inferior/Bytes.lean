/-! Byte strings: memory, register images and blobs.

Cutting and patching are total: an access that reaches past the end is clipped, so the
operations that must refuse one check the bounds first.
-/

set_option autoImplicit false

namespace Inferior

abbrev Bytes := List UInt8

namespace Bytes

def zeros (count : Nat) : Bytes := List.replicate count 0

/-- Cut to a length, or fill up with zeros at the end. -/
def resize (bytes : Bytes) (length : Nat) : Bytes :=
  bytes.take length ++ zeros (length - bytes.length)

def slice (bytes : Bytes) (offset length : Nat) : Bytes :=
  (bytes.drop offset).take length

/-- Replace the bytes from `offset` on by `patch`, keeping the length of the whole. -/
def overwrite (bytes : Bytes) (offset : Nat) (patch : Bytes) : Bytes :=
  (bytes.take offset ++ patch).take bytes.length ++ bytes.drop (offset + patch.length)

@[simp] theorem length_zeros (count : Nat) : (zeros count).length = count := by
  simp [zeros]

@[simp] theorem length_resize (bytes : Bytes) (length : Nat) :
    (resize bytes length).length = length := by
  simp only [resize, List.length_append, List.length_take, length_zeros]
  omega

theorem getElem?_zeros (count index : Nat) :
    (zeros count)[index]? = if index < count then some 0 else none := by
  simp [zeros, List.getElem?_replicate]

theorem resize_eq_self {bytes : Bytes} {length : Nat} (sized : bytes.length = length) :
    resize bytes length = bytes := by
  simp [resize, ← sized, zeros]

theorem length_slice (bytes : Bytes) (offset length : Nat) :
    (slice bytes offset length).length = min length (bytes.length - offset) := by
  simp [slice]

theorem getElem?_slice (bytes : Bytes) (offset length index : Nat) :
    (slice bytes offset length)[index]? =
      if index < length then bytes[offset + index]? else none := by
  simp [slice, List.getElem?_take]

@[simp] theorem length_overwrite (bytes : Bytes) (offset : Nat) (patch : Bytes) :
    (overwrite bytes offset patch).length = bytes.length := by
  simp only [overwrite, List.length_append, List.length_take, List.length_drop]
  omega

theorem getElem?_overwrite (bytes : Bytes) (offset : Nat) (patch : Bytes) (index : Nat) :
    (overwrite bytes offset patch)[index]? =
      if offset ≤ index ∧ index < min bytes.length (offset + patch.length) then
        patch[index - offset]?
      else bytes[index]? := by
  simp only [overwrite, List.getElem?_append, List.length_take, List.getElem?_take,
    List.length_append, List.getElem?_drop]
  grind

end Bytes

end Inferior

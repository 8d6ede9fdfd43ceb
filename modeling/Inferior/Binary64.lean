/-! Bit patterns of double precision numbers, and their rounding to single precision. -/

set_option autoImplicit false

namespace Inferior.Binary64

/-- Divide by a power of two and round to nearest, a tie going to the even neighbour. -/
def roundShift (number shift : Nat) : Nat :=
  let unit := 1 <<< shift
  let quotient := number / unit
  let doubled := 2 * (number % unit)
  if doubled > unit ∨ (doubled = unit ∧ quotient % 2 = 1) then quotient + 1 else quotient

/-- The single precision bit pattern of infinity. -/
def infinity : Nat := 255 <<< 23

/-- The exponent and fraction bits of a single precision number, without its sign. A number
that rounds past the largest finite one becomes infinite, and a NaN is made quiet and keeps
the upper bits of its payload. -/
def narrowMagnitude (exponent fraction : Nat) : Nat :=
  if exponent = 2047 then
    if fraction = 0 then infinity else infinity ||| (1 <<< 22) ||| (fraction >>> 29)
  else
    let significand := if exponent = 0 then fraction else fraction + (1 <<< 52)
    let rounded := roundShift significand (max 29 (926 - max exponent 1))
    min ((exponent - 897) <<< 23 + rounded) infinity

/-- The single precision bit pattern nearest to a double precision one. -/
def narrow (bits : Nat) : Nat :=
  (bits >>> 63) <<< 31 + narrowMagnitude ((bits >>> 52) % 2048) (bits % (1 <<< 52))

end Inferior.Binary64

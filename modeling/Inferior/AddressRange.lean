/-! Ranges of addresses. -/

set_option autoImplicit false

namespace Inferior

/-- The addresses from `start` up to `stop`, which is left out. -/
structure AddressRange where
  start : Nat
  stop : Nat
  deriving DecidableEq, Repr

def AddressRange.contains (range : AddressRange) (address : Nat) : Bool :=
  range.start ≤ address && address < range.stop

end Inferior

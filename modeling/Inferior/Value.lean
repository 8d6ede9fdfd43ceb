import Inferior.Binary64
import Inferior.Bytes.LittleEndian
import Inferior.DataType

/-! Values: the bytes of an object together with its type. -/

set_option autoImplicit false

namespace Inferior

structure Value where
  type : DataType
  contents : Bytes
  length_contents : contents.length = type.length

namespace Value

/-- A value of the type's length: the bytes are cut off or filled up with zeros. -/
def ofBytes (type : DataType) (bytes : Bytes) : Value where
  type := type
  contents := bytes.resize type.length
  length_contents := Bytes.length_resize bytes type.length

def ofNat (type : DataType) (number : Nat) : Value :=
  ofBytes type (LittleEndian.digits 8 number)

/-- The value of a floating-point type that is nearest to a double precision bit pattern. -/
def ofBinary64 (type : DataType) (bits : Nat) : Value :=
  if type.length = 4 then ofBytes type (LittleEndian.digits 4 (Binary64.narrow bits))
  else ofBytes type (LittleEndian.digits 8 bits)

def length (value : Value) : Nat := value.contents.length

def isEmpty (value : Value) : Bool := value.contents.isEmpty

end Value

end Inferior

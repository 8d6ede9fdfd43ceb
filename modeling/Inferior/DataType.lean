/-! Type descriptors, as far as a calling convention looks at them: the kind of a type, its
size and the layout of its members. Names of types and members are left out. -/

set_option autoImplicit false

namespace Inferior

inductive TypeKind where
  | int
  | char
  | bool
  | enum
  | range
  | pointer
  | reference
  | float
  | decimalFloat
  | struct
  | union
  | array
  | function
  | void
  deriving DecidableEq, Repr

structure TypeTraits where
  unsigned : Bool := false
  /-- Copying a value runs code, so it cannot be passed in registers. -/
  nontrivialCopy : Bool := false
  deriving DecidableEq, Repr

def TypeTraits.union (first second : TypeTraits) : TypeTraits where
  unsigned := first.unsigned || second.unsigned
  nontrivialCopy := first.nontrivialCopy || second.nontrivialCopy

/-- A member of an aggregate, at a distance in bits from the start of the aggregate. -/
structure FieldOf (Ty : Type) where
  type : Ty
  bitPosition : Nat
  static : Bool := false
  baseClass : Bool := false

/-- A type of a length in bytes. Only aggregates are expected to have fields, and only
pointers, references and arrays a target, which is the type they lead to or consist of. -/
inductive DataType where
  | mk (code : TypeKind) (length : Nat) (traits : TypeTraits) (fields : List (FieldOf DataType))
      (target : Option DataType)

abbrev Field := FieldOf DataType

namespace Field

def member (type : DataType) (offset : Nat) : Field where
  type := type
  bitPosition := 8 * offset

def base (type : DataType) (offset : Nat) : Field where
  type := type
  bitPosition := 8 * offset
  baseClass := true

def staticMember (type : DataType) : Field where
  type := type
  bitPosition := 0
  static := true

end Field

namespace DataType

def code : DataType → TypeKind
  | mk code _ _ _ _ => code

def length : DataType → Nat
  | mk _ length _ _ _ => length

def traits : DataType → TypeTraits
  | mk _ _ traits _ _ => traits

def fields : DataType → List Field
  | mk _ _ _ fields _ => fields

def target : DataType → Option DataType
  | mk _ _ _ _ target => target

def plain (code : TypeKind) (length : Nat) : DataType := mk code length {} [] none

def int (length : Nat) : DataType := plain .int length

def unsignedInt (length : Nat) : DataType := mk .int length { unsigned := true } [] none

def bool : DataType := plain .bool 1

def char : DataType := plain .char 1

def void : DataType := plain .void 1

def enumeration (length : Nat) : DataType := plain .enum length

def float (length : Nat) : DataType := plain .float length

def decimalFloat (length : Nat) : DataType := plain .decimalFloat length

def pointer (target : DataType) (length : Nat) : DataType := mk .pointer length {} [] (some target)

def array (element : DataType) (count : Nat) : DataType :=
  mk .array (element.length * count) {} [] (some element)

def struct (length : Nat) (fields : List Field) : DataType := mk .struct length {} fields none

def union (length : Nat) (fields : List Field) : DataType := mk .union length {} fields none

def withTraits (type : DataType) (traits : TypeTraits) : DataType :=
  mk type.code type.length (type.traits.union traits) type.fields type.target

/-- Whether values must be passed by address because copying them is not a plain copy of
bytes. A class with a base class counts as such, since its layout is not that of a C struct. -/
def passedByAddress (type : DataType) : Bool :=
  type.traits.nontrivialCopy || (type.code == .struct && type.fields.any (·.baseClass))

end DataType

end Inferior

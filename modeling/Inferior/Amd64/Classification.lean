import Inferior.DataType

/-! Classification of values by the System V calling convention: each of the (at most two)
eightbytes of a value that can travel in registers has a class, which says in registers of
which kind.
-/

set_option autoImplicit false

namespace Inferior.Amd64

inductive EightbyteClass where
  | integer
  /-- The lower half of an SSE register. -/
  | sse
  /-- The upper half of the SSE register that holds the eightbyte before. -/
  | sseUp
  /-- The mantissa of an x87 number. -/
  | x87
  /-- The exponent of an x87 number. -/
  | x87Up
  | complexX87
  /-- Padding, or nothing at all. -/
  | noClass
  | memory
  deriving DecidableEq, Repr

def EightbyteClass.name : EightbyteClass → String
  | .integer => "Integer"
  | .sse => "Sse"
  | .sseUp => "SseUp"
  | .x87 => "X87"
  | .x87Up => "X87Up"
  | .complexX87 => "ComplexX87"
  | .noClass => "NoClass"
  | .memory => "Memory"

def EightbyteClass.merge (first second : EightbyteClass) : EightbyteClass :=
  if first = second then first
  else match first, second with
    | .noClass, other | other, .noClass => other
    | .memory, _ | _, .memory => .memory
    | .integer, _ | _, .integer => .integer
    | .x87, _ | _, .x87 | .x87Up, _ | _, .x87Up | .complexX87, _ | _, .complexX87 => .memory
    | _, _ => .sse

namespace EightbyteClass

theorem merge_comm (first second : EightbyteClass) : first.merge second = second.merge first := by
  cases first <;> cases second <;> rfl

@[simp] theorem noClass_merge (other : EightbyteClass) : merge .noClass other = other := by
  cases other <;> rfl

end EightbyteClass

structure Classification where
  first : EightbyteClass
  second : EightbyteClass
  deriving DecidableEq, Repr

namespace Classification

def inMemory : Classification := ⟨.memory, .memory⟩

def empty : Classification := ⟨.noClass, .noClass⟩

def isInMemory (classes : Classification) : Bool := classes.first = .memory

def toList (classes : Classification) : List EightbyteClass := [classes.first, classes.second]

def integerCount (classes : Classification) : Nat := classes.toList.count .integer

def sseCount (classes : Classification) : Nat := classes.toList.count .sse

/-- Add a member that starts in the first (0) or second eightbyte; only a member that starts
in the first one is taken to reach into the second. -/
def addMember (classes : Classification) (eightbyte : Nat) (member : Classification) :
    Classification :=
  if eightbyte = 0 then
    ⟨classes.first.merge member.first, classes.second.merge member.second⟩
  else ⟨classes.first, classes.second.merge member.first⟩

/-- An array has the classes of its element, and a second eightbyte that the element leaves
open repeats the first. -/
def ofElement (length : Nat) (element : Classification) : Classification :=
  if length > 8 ∧ element.second = .noClass then ⟨element.first, element.first⟩ else element

/-- The rules for an aggregate as a whole, after its members are merged. -/
def settle (classes : Classification) : Classification :=
  if classes.first = .memory ∨ classes.second = .memory then inMemory
  else
    let first := if classes.first = .sseUp then .sse else classes.first
    let second := if classes.second = .sseUp ∧ first ≠ .sse then .sse else classes.second
    if second = .x87Up ∧ first ≠ .x87 then inMemory else ⟨first, second⟩

/-- The classes of an aggregate from those of its members, each with the eightbyte it starts in. A
member beyond the second eightbyte sends the whole to memory. -/
def ofMembers (members : List (Nat × Classification)) : Classification :=
  if members.any (·.1 > 1) then inMemory
  else members.foldl (fun classes member => classes.addMember member.1 member.2) empty

/-- The classes of a type from those of its element and of its members. -/
def combine (type : DataType) (element : Option Classification)
    (members : List (Nat × Classification)) : Classification :=
  match type.code with
  | .int | .enum | .bool | .range | .char | .pointer | .reference =>
    if type.length ∈ [1, 2, 4, 8] then ⟨.integer, .noClass⟩ else empty
  | .float =>
    if type.length = 4 ∨ type.length = 8 then ⟨.sse, .noClass⟩
    else if type.length = 16 then ⟨.x87, .x87Up⟩ else empty
  | .decimalFloat =>
    if type.length = 4 ∨ type.length = 8 then ⟨.sse, .noClass⟩
    else if type.length = 16 then ⟨.sse, .sseUp⟩ else empty
  | .function | .void => empty
  | .array | .struct | .union =>
    if type.length > 16 ∨ type.passedByAddress then inMemory
    else if type.length = 0 then empty
    else if type.code = .array then
      match element with
      | none => inMemory
      | some element => settle (ofElement type.length element)
    else settle (ofMembers members)

end Classification

mutual

/-- The classes of the eightbytes of a type. -/
def classify : DataType → Classification
  | .mk code length traits fields target =>
    Classification.combine (.mk code length traits fields target) (classifyTarget target)
      (classifyFields fields)

def classifyTarget : Option DataType → Option Classification
  | none => none
  | some type => some (classify type)

/-- The eightbyte in which each member starts, and its classes. Static members do not count. -/
def classifyFields : List (FieldOf DataType) → List (Nat × Classification)
  | [] => []
  | ⟨type, bitPosition, static, _⟩ :: rest =>
    if static then classifyFields rest
    else (bitPosition / 64, classify type) :: classifyFields rest

end

end Inferior.Amd64

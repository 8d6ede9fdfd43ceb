import Inferior.DataType

/-! The scalars of which a type consists in the end, each at its distance from the start of the
whole, through all nesting.
-/

set_option autoImplicit false

namespace Inferior

/-- A scalar in a larger value. -/
structure Leaf where
  code : TypeKind
  /-- The length in bytes. -/
  length : Nat
  /-- The distance in bits from the start of the value. -/
  position : Nat
  deriving DecidableEq, Repr

namespace Leaf

def moved (distance : Nat) (leaf : Leaf) : Leaf :=
  { leaf with position := distance + leaf.position }

def stop (leaf : Leaf) : Nat := leaf.position + 8 * leaf.length

def meets (leaf : Leaf) (eightbyte : Nat) : Bool :=
  leaf.position < 64 * (eightbyte + 1) && 64 * eightbyte < leaf.stop

end Leaf

/-- Whether a kind of type is one whose values a register holds as a whole, in a length in bytes. -/
def TypeKind.isLeaf : TypeKind → (length : Nat) → Bool
  | .int, length | .char, length | .bool, length | .enum, length | .range, length
  | .pointer, length | .reference, length => [1, 2, 4, 8].contains length
  | .float, length | .decimalFloat, length => [4, 8].contains length
  | _, _ => false

theorem TypeKind.pos_of_isLeaf {code : TypeKind} {length : Nat} (isLeaf : code.isLeaf length) :
    0 < length := by
  cases length with
  | zero => cases code <;> cases isLeaf
  | succ length => exact Nat.succ_pos length

def TypeKind.hasMembers : TypeKind → Bool
  | .struct | .union => true
  | _ => false

theorem TypeKind.cases (code : TypeKind) :
    code.hasMembers = true ∨ code = .array ∨ code.hasMembers = false ∧ code ≠ .array := by
  cases code <;> simp [hasMembers]

namespace DataType

def repeated (count : Nat) (distance : Nat) (leaves : List Leaf) : List Leaf :=
  (List.range count).flatMap fun index => leaves.map (·.moved (index * distance))

mutual

def leaves : DataType → List Leaf
  | .mk code length _ fields target =>
    if code.hasMembers then fieldLeaves fields
    else if code = .array then targetLeaves length target
    else if code.isLeaf length then [⟨code, length, 0⟩] else []

/-- Static members take no room. -/
def fieldLeaves : List (FieldOf DataType) → List Leaf
  | [] => []
  | ⟨type, bitPosition, static, _⟩ :: rest =>
    if static then fieldLeaves rest
    else (leaves type).map (·.moved bitPosition) ++ fieldLeaves rest

/-- An array has as many elements as it has room for. -/
def targetLeaves (length : Nat) : Option DataType → List Leaf
  | none => []
  | some element =>
    repeated (length / element.length) (8 * element.length) (leaves element)

end

mutual

def contained : DataType → Bool
  | .mk code length _ fields target =>
    if code.hasMembers then fieldsContained length fields
    else if code = .array then targetContained target
    else true

def fieldsContained (length : Nat) : List (FieldOf DataType) → Bool
  | [] => true
  | ⟨type, bitPosition, static, _⟩ :: rest =>
    (static || (bitPosition + 8 * type.length ≤ 8 * length && contained type)) &&
      fieldsContained length rest

def targetContained : Option DataType → Bool
  | none => true
  | some element => contained element

end

section Induction

variable {motive : DataType → Prop}
  (scalar : ∀ code length traits fields target, code.hasMembers = false → code ≠ .array →
    motive (.mk code length traits fields target))
  (aggregate : ∀ code length traits fields target, code.hasMembers = true →
    (∀ field ∈ fields, motive field.type) → motive (.mk code length traits fields target))
  (array : ∀ length traits fields target, (∀ element, target = some element → motive element) →
    motive (.mk .array length traits fields target))
include scalar aggregate array

/-- Induction on a type through all nesting. -/
@[elab_as_elim]
theorem nested : ∀ type, motive type
  | .mk code length traits fields target => by
    rcases code.cases with members | rfl | ⟨noMembers, notArray⟩
    · refine aggregate code length traits fields target members fun field listed => ?_
      have smaller : sizeOf field.type < sizeOf fields :=
        Nat.lt_trans (by cases field; simp; omega) (List.sizeOf_lt_of_mem listed)
      exact nested field.type
    · refine array length traits fields target fun element same => ?_
      have smaller : sizeOf element < sizeOf target := by simp [same]
      exact nested element
    · exact scalar code length traits fields target noMembers notArray

end Induction

theorem mem_fieldLeaves {fields : List (FieldOf DataType)} {leaf : Leaf} :
    leaf ∈ fieldLeaves fields ↔ ∃ field ∈ fields, field.static = false ∧
      ∃ inner ∈ leaves field.type, leaf = inner.moved field.bitPosition := by
  induction fields with
  | nil => simp [fieldLeaves]
  | cons field rest ih =>
    obtain ⟨type, bitPosition, static, _⟩ := field
    cases static with
    | true => simp [fieldLeaves, ih]
    | false =>
      have here : leaf ∈ (leaves type).map (·.moved bitPosition) ↔
          ∃ inner ∈ leaves type, leaf = inner.moved bitPosition := by
        simp only [List.mem_map, eq_comm]
      simp [fieldLeaves, ih, here]

theorem fieldsContained_iff {length : Nat} {fields : List (FieldOf DataType)} :
    fieldsContained length fields ↔ ∀ field ∈ fields, field.static = false →
      field.bitPosition + 8 * field.type.length ≤ 8 * length ∧ field.type.contained := by
  induction fields with
  | nil => simp [fieldsContained]
  | cons field rest ih =>
    obtain ⟨type, bitPosition, static, _⟩ := field
    cases static with
    | true => simp [fieldsContained, ih]
    | false => simp [fieldsContained, ih]

theorem mem_repeated {count distance : Nat} {inner : List Leaf} {leaf : Leaf} :
    leaf ∈ repeated count distance inner ↔
      ∃ index < count, ∃ leaf' ∈ inner, leaf = leaf'.moved (index * distance) := by
  simp [repeated, eq_comm]

/-- An array has room for each of its elements. -/
theorem room_of_lt_div {length size index : Nat} (below : index < length / size) :
    index * size + size ≤ length := by
  have room : (index + 1) * size ≤ length :=
    Nat.le_trans (Nat.mul_le_mul_right _ below) (Nat.div_mul_le_self _ _)
  rwa [Nat.add_mul, Nat.one_mul] at room

theorem isLeaf_of_mem_leaves {type : DataType} {leaf : Leaf} (listed : leaf ∈ type.leaves) :
    leaf.code.isLeaf leaf.length := by
  induction type using nested generalizing leaf with
  | scalar code length traits fields target noMembers notArray =>
    unfold leaves at listed
    rw [if_neg (by simp [noMembers]), if_neg notArray] at listed
    split at listed
    · rename_i isLeaf
      cases List.mem_singleton.1 listed
      exact isLeaf
    · cases listed
  | aggregate code length traits fields target members ih =>
    unfold leaves at listed
    rw [if_pos members, mem_fieldLeaves] at listed
    obtain ⟨field, inFields, -, inner, nested, rfl⟩ := listed
    have isLeaf := ih field inFields nested
    exact isLeaf
  | array length traits fields target ih =>
    cases target with
    | none => cases listed
    | some element =>
      change leaf ∈ repeated _ _ _ at listed
      obtain ⟨index, -, inner, nested, rfl⟩ := mem_repeated.1 listed
      have isLeaf := ih element rfl nested
      exact isLeaf

theorem stop_le_of_contained {type : DataType} (inside : type.contained) {leaf : Leaf}
    (member : leaf ∈ type.leaves) : leaf.stop ≤ 8 * type.length := by
  induction type using nested generalizing leaf with
  | scalar code length traits fields target noMembers notArray =>
    unfold leaves at member
    rw [if_neg (by simp [noMembers]), if_neg notArray] at member
    split at member
    · cases List.mem_singleton.1 member
      exact Nat.le_of_eq (Nat.zero_add _)
    · cases member
  | aggregate code length traits fields target members ih =>
    unfold leaves at member
    rw [if_pos members, mem_fieldLeaves] at member
    unfold contained at inside
    rw [if_pos members, fieldsContained_iff] at inside
    obtain ⟨field, listed, real, inner, nested, rfl⟩ := member
    obtain ⟨room, inside⟩ := inside field listed real
    -- The member ends inside the whole, and the leaf inside the member.
    have fits := ih field listed inside nested
    unfold Leaf.stop at fits
    unfold Leaf.stop Leaf.moved DataType.length
    dsimp only
    omega
  | array length traits fields target ih =>
    cases target with
    | none => cases member
    | some element =>
      change leaf ∈ repeated _ _ _ at member
      obtain ⟨index, below, inner, nested, rfl⟩ := mem_repeated.1 member
      have fits := ih element rfl inside nested
      have room := room_of_lt_div below
      unfold Leaf.stop at fits
      rw [Leaf.stop, Leaf.moved, DataType.length]
      dsimp only
      have place : index * (8 * element.length) = 8 * (index * element.length) :=
        Nat.mul_left_comm _ _ _
      omega

end DataType

end Inferior

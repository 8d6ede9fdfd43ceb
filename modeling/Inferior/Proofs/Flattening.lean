import Mathlib.Logic.Relation
import Inferior.Proofs.Leaves

/-! Nested structs and their members.

A struct in another aggregate can be dissolved into its members without any effect on where the
leaves lie in the whole.
-/

set_option autoImplicit false

namespace Inferior

def Field.moved (distance : Nat) (field : Field) : Field :=
  { field with bitPosition := distance + field.bitPosition }

namespace DataType

section Everywhere

variable (check : DataType → Bool)

mutual

def everywhere : DataType → Bool
  | .mk code length traits fields target =>
    check (.mk code length traits fields target) &&
      if code.hasMembers then fieldsEverywhere fields
      else if code = .array then targetEverywhere target
      else true

def fieldsEverywhere : List (FieldOf DataType) → Bool
  | [] => true
  | ⟨type, _, _, _⟩ :: rest => everywhere type && fieldsEverywhere rest

def targetEverywhere : Option DataType → Bool
  | none => true
  | some element => everywhere element

end

variable {check}

theorem fieldsEverywhere_iff {fields : List (FieldOf DataType)} :
    fieldsEverywhere check fields ↔ ∀ field ∈ fields, everywhere check field.type := by
  induction fields with
  | nil => simp [fieldsEverywhere]
  | cons field rest ih =>
    obtain ⟨type, bitPosition, static, baseClass⟩ := field
    simp [fieldsEverywhere, ih]

variable {code : TypeKind} {length : Nat} {traits : TypeTraits} {fields : List (FieldOf DataType)}
  {target : Option DataType}

theorem everywhere_here {type : DataType} (passes : type.everywhere check) : check type := by
  cases type with
  | mk code length traits fields target =>
    unfold everywhere at passes
    exact (Bool.and_eq_true_iff.1 passes).1

theorem everywhere_members (members : code.hasMembers) :
    (mk code length traits fields target).everywhere check ↔
      check (.mk code length traits fields target) ∧
        ∀ field ∈ fields, field.type.everywhere check := by
  rw [everywhere, if_pos members, Bool.and_eq_true_iff, fieldsEverywhere_iff]

theorem everywhere_array {element : DataType} :
    (mk .array length traits fields (some element)).everywhere check ↔
      check (.mk .array length traits fields (some element)) ∧ element.everywhere check := by
  rw [everywhere, Bool.and_eq_true_iff]
  rfl

end Everywhere

/-- Whether a type is a scalar that a register holds, or an aggregate of known parts that may be
copied byte by byte. -/
def isPlain (type : DataType) : Bool :=
  if type.code.hasMembers then !type.passedByAddress && type.fields.all (!·.static)
  else if type.code = .array then !type.passedByAddress && type.target.isSome
  else type.code.isLeaf type.length

theorem isPlain_members {code : TypeKind} {length : Nat} {traits : TypeTraits}
    {fields : List Field} {target : Option DataType} (members : code.hasMembers) :
    (mk code length traits fields target).isPlain ↔ traits.nontrivialCopy = false ∧
      ∀ field ∈ fields, field.static = false ∧ (code = .struct → field.baseClass = false) := by
  rw [isPlain, if_pos (show (mk code length traits fields target).code.hasMembers from members)]
  cases code with
  | struct =>
    simp [passedByAddress, DataType.traits, DataType.code, DataType.fields, forall_and,
      and_left_comm, and_comm]
  | union =>
    simp [passedByAddress, DataType.traits, DataType.code, DataType.fields, and_comm]
  | _ => cases members

theorem isPlain_scalar {code : TypeKind} {length : Nat} {traits : TypeTraits}
    {fields : List Field} {target : Option DataType} (noMembers : code.hasMembers = false)
    (notArray : code ≠ .array) :
    (mk code length traits fields target).isPlain ↔ code.isLeaf length := by
  cases code with
  | struct | union => cases noMembers
  | array => exact absurd rfl notArray
  | _ => rfl

theorem passedByAddress_of_isPlain {type : DataType}
    (aggregate : type.code.hasMembers ∨ type.code = .array) (plain : type.isPlain) :
    type.passedByAddress = false := by
  unfold isPlain at plain
  by_cases members : type.code.hasMembers
  · rw [if_pos members] at plain
    simpa using (Bool.and_eq_true_iff.1 plain).1
  · rw [if_neg members, if_pos (aggregate.resolve_left members)] at plain
    simpa using (Bool.and_eq_true_iff.1 plain).1

def holdsLeaves (type : DataType) : Bool := type.leaves.all (·.stop ≤ 8 * type.length)

/-- Whether the leaves of a type lie at multiples of their sizes, counted from some distance before
the type. -/
def alignedFrom (distance : Nat) (type : DataType) : Bool :=
  type.leaves.all fun leaf => (distance + leaf.position) % (8 * leaf.length) = 0

theorem stop_le_of_holdsLeaves {type : DataType} (inside : type.holdsLeaves) {leaf : Leaf}
    (listed : leaf ∈ type.leaves) : leaf.stop ≤ 8 * type.length :=
  of_decide_eq_true (List.all_eq_true.1 inside leaf listed)

theorem alignedFrom_iff {type : DataType} {distance : Nat} : type.alignedFrom distance ↔
    ∀ leaf ∈ type.leaves, (distance + leaf.position) % (8 * leaf.length) = 0 := by
  simp [alignedFrom]

/-- An aggregate of known parts, of one or two eightbytes, with all leaves in their places. -/
structure SmallAggregate (type : DataType) : Prop where
  aggregate : type.code.hasMembers ∨ type.code = .array
  nonempty : 0 < type.length
  small : type.length ≤ 16
  plain : type.everywhere isPlain
  inside : type.everywhere holdsLeaves
  aligned : type.alignedFrom 0

/-- Somewhere in the first type, a struct among the members gives way to its own members. -/
inductive Flattens : DataType → DataType → Prop where
  | here {code : TypeKind} {length : Nat} {traits : TypeTraits} {after : List Field}
      {target : Option DataType} {innerLength : Nat} {innerTraits : TypeTraits}
      {innerFields : List Field} {innerTarget : Option DataType} {bitPosition : Nat}
      {baseClass : Bool} (members : code.hasMembers) (before : List Field) :
      Flattens
        (.mk code length traits (before ++ ⟨.mk .struct innerLength innerTraits innerFields
          innerTarget, bitPosition, false, baseClass⟩ :: after) target)
        (.mk code length traits (before ++ (innerFields.map (Field.moved bitPosition) ++ after))
          target)
  | member {code : TypeKind} {length : Nat} {traits : TypeTraits} {after : List Field}
      {target : Option DataType} {type flat : DataType} {bitPosition : Nat}
      {static baseClass : Bool} (members : code.hasMembers) (before : List Field)
      (inner : Flattens type flat) :
      Flattens
        (.mk code length traits (before ++ ⟨type, bitPosition, static, baseClass⟩ :: after) target)
        (.mk code length traits (before ++ ⟨flat, bitPosition, static, baseClass⟩ :: after) target)
  | element {length : Nat} {traits : TypeTraits} {fields : List Field} {type flat : DataType}
      (inner : Flattens type flat) :
      Flattens (.mk .array length traits fields (some type))
        (.mk .array length traits fields (some flat))

section Leaves

variable {code : TypeKind} {length : Nat} {traits : TypeTraits} {fields others : List Field}
  {target : Option DataType}

theorem leaves_members (members : code.hasMembers) :
    (mk code length traits fields target).leaves = fieldLeaves fields := by
  rw [leaves, if_pos members]

theorem moved_mem_leaves (members : code.hasMembers) {field : Field} (listed : field ∈ fields)
    (real : field.static = false) {leaf : Leaf} (inner : leaf ∈ field.type.leaves) :
    leaf.moved field.bitPosition ∈ (mk code length traits fields target).leaves := by
  rw [leaves_members members]
  exact mem_fieldLeaves.2 ⟨field, listed, real, leaf, inner, rfl⟩

theorem leaves_array {element : DataType} :
    (mk .array length traits fields (some element)).leaves =
      repeated (length / element.length) (8 * element.length) element.leaves := rfl

theorem fieldLeaves_append :
    fieldLeaves (fields ++ others) = fieldLeaves fields ++ fieldLeaves others := by
  induction fields with
  | nil => rfl
  | cons field rest ih =>
    obtain ⟨type, bitPosition, static, baseClass⟩ := field
    cases static with
    | true => simp [fieldLeaves, ih]
    | false => simp [fieldLeaves, ih]

theorem fieldLeaves_moved {distance : Nat} :
    fieldLeaves (fields.map (Field.moved distance)) =
      (fieldLeaves fields).map (·.moved distance) := by
  induction fields with
  | nil => rfl
  | cons field rest ih =>
    obtain ⟨type, bitPosition, static, baseClass⟩ := field
    cases static with
    | true => simp [fieldLeaves, Field.moved, ih]
    | false => simp [fieldLeaves, Field.moved, Leaf.moved, ih, Nat.add_assoc]

end Leaves

namespace Flattens

variable {type flat : DataType}

theorem same_size (step : Flattens type flat) : flat.code = type.code ∧ flat.length = type.length := by
  cases step <;> exact ⟨rfl, rfl⟩

theorem same_leaves (step : Flattens type flat) : flat.leaves = type.leaves := by
  induction step with
  | here members =>
    rw [leaves_members members, leaves_members members, fieldLeaves_append, fieldLeaves_append,
      fieldLeaves_append, fieldLeaves_moved, fieldLeaves]
    rfl
  | member members _ _ ih =>
    rw [leaves_members members, leaves_members members, fieldLeaves_append, fieldLeaves_append,
      fieldLeaves, fieldLeaves, ih]
  | element inner ih => rw [leaves_array, leaves_array, ih, inner.same_size.2]

theorem same_holdsLeaves (step : Flattens type flat) : flat.holdsLeaves = type.holdsLeaves := by
  rw [holdsLeaves, holdsLeaves, step.same_leaves, step.same_size.2]

theorem same_alignedFrom (step : Flattens type flat) (distance : Nat) :
    flat.alignedFrom distance = type.alignedFrom distance := by
  rw [alignedFrom, alignedFrom, step.same_leaves]

theorem keeps_everywhere {check : DataType → Bool}
    (kept : ∀ {type flat : DataType}, Flattens type flat → type.everywhere check → check flat)
    (step : Flattens type flat) (passes : type.everywhere check) : flat.everywhere check := by
  induction step with
  | here members before =>
    refine (everywhere_members members).2 ⟨kept (.here members before) passes, ?_⟩
    have parts := ((everywhere_members members).1 passes).2
    rw [List.forall_mem_append, List.forall_mem_cons] at parts
    rw [List.forall_mem_append, List.forall_mem_append, List.forall_mem_map]
    exact ⟨parts.1, ((everywhere_members rfl).1 parts.2.1).2, parts.2.2⟩
  | member members before inner ih =>
    refine (everywhere_members members).2 ⟨kept (.member members before inner) passes, ?_⟩
    have parts := ((everywhere_members members).1 passes).2
    rw [List.forall_mem_append, List.forall_mem_cons] at parts ⊢
    exact ⟨parts.1, ih parts.2.1, parts.2.2⟩
  | element inner ih =>
    exact everywhere_array.2 ⟨kept (.element inner) passes, ih (everywhere_array.1 passes).2⟩

theorem keeps_isPlain (step : Flattens type flat) (plain : type.everywhere isPlain) :
    flat.isPlain := by
  cases step with
  | here members =>
    obtain ⟨whole, parts⟩ := (everywhere_members members).1 plain
    obtain ⟨copied, own⟩ := (isPlain_members members).1 whole
    rw [List.forall_mem_append, List.forall_mem_cons] at own parts
    -- The members of a struct that is plain are no base classes, whatever they are members of now.
    have moved := ((isPlain_members rfl).1 (everywhere_here parts.2.1)).2
    rw [isPlain_members members, List.forall_mem_append, List.forall_mem_append,
      List.forall_mem_map]
    exact ⟨copied, own.1, fun field listed => ⟨(moved field listed).1, fun _ =>
      (moved field listed).2 rfl⟩, own.2.2⟩
  | member members =>
    obtain ⟨copied, own⟩ := (isPlain_members members).1 (everywhere_here plain)
    rw [isPlain_members members]
    rw [List.forall_mem_append, List.forall_mem_cons] at own ⊢
    exact ⟨copied, own⟩
  | element =>
    have whole := everywhere_here plain
    exact whole

/-- A small aggregate remains one when a struct in it is dissolved. -/
theorem keeps_smallAggregate (step : Flattens type flat) (whole : type.SmallAggregate) :
    flat.SmallAggregate where
  aggregate := by rw [step.same_size.1]; exact whole.aggregate
  nonempty := by rw [step.same_size.2]; exact whole.nonempty
  small := by rw [step.same_size.2]; exact whole.small
  plain := step.keeps_everywhere keeps_isPlain whole.plain
  inside := by
    refine step.keeps_everywhere (fun step inside => ?_) whole.inside
    rw [step.same_holdsLeaves]
    exact everywhere_here inside
  aligned := by rw [step.same_alignedFrom]; exact whole.aligned

end Flattens

end DataType

end Inferior

import Inferior.Amd64.Classification
import Inferior.Proofs.Leaves

/-! Which eightbytes of a type have a class.

A member is attributed to the eightbyte that it starts in, and what it holds to the eightbytes of
the member itself. So a member that starts in the first eightbyte and reaches into the second one
leaves the second one without a class, unless something else gives it one.
-/

set_option autoImplicit false

namespace Inferior.Amd64

/-- How many eightbytes of a register, or of a pair of halves, a scalar takes. -/
def scalarEightbytes (code : TypeKind) (length : Nat) : Nat :=
  if code.isLeaf length then 1
  else match code with
    | .float | .decimalFloat => if length = 16 then 2 else 0
    | _ => 0

/-- A scalar in a type is attributed to an eightbyte of it: a member brings what it holds to the
eightbyte in which it starts, and a second eightbyte of its own to the second one. -/
inductive Attributed : DataType → Nat → Prop where
  | scalar {code : TypeKind} {length : Nat} {traits : TypeTraits}
      {fields : List (FieldOf DataType)} {target : Option DataType} {eightbyte : Nat}
      (takes : eightbyte < scalarEightbytes code length) :
      Attributed (.mk code length traits fields target) eightbyte
  | element {length : Nat} {traits : TypeTraits} {fields : List (FieldOf DataType)}
      {element : DataType} {eightbyte : Nat} (nonempty : 0 < length)
      (inner : Attributed element eightbyte) :
      Attributed (.mk .array length traits fields (some element)) eightbyte
  | laterElement {length : Nat} {traits : TypeTraits} {fields : List (FieldOf DataType)}
      {element : DataType} (long : 8 < length) (inner : Attributed element 0) :
      Attributed (.mk .array length traits fields (some element)) 1
  | member {code : TypeKind} {length : Nat} {traits : TypeTraits}
      {fields : List (FieldOf DataType)} {target : Option DataType} {field : FieldOf DataType}
      {eightbyte : Nat} (members : code.hasMembers) (nonempty : 0 < length)
      (listed : field ∈ fields) (real : field.static = false) (early : field.bitPosition / 64 = 0)
      (inner : Attributed field.type eightbyte) :
      Attributed (.mk code length traits fields target) eightbyte
  | laterMember {code : TypeKind} {length : Nat} {traits : TypeTraits}
      {fields : List (FieldOf DataType)} {target : Option DataType} {field : FieldOf DataType}
      (members : code.hasMembers) (nonempty : 0 < length)
      (listed : field ∈ fields) (real : field.static = false) (late : field.bitPosition / 64 = 1)
      (inner : Attributed field.type 0) :
      Attributed (.mk code length traits fields target) 1

namespace EightbyteClass

theorem merge_ne_noClass {first second : EightbyteClass} :
    first.merge second ≠ .noClass ↔ first ≠ .noClass ∨ second ≠ .noClass := by
  cases first <;> cases second <;> decide

theorem of_merge_ne_memory {first second : EightbyteClass}
    (outside : first.merge second ≠ .memory) :
    first ≠ .memory ∧ second ≠ .memory := by
  revert outside
  cases first <;> cases second <;> decide

end EightbyteClass

namespace Classification

/-- The rules for a whole aggregate may send it to memory, but neither give nor take a class. -/
theorem settle_outside {classes : Classification} (outside : (settle classes).first ≠ .memory) :
    classes.first ≠ .memory ∧ classes.second ≠ .memory ∧
      ((settle classes).first = .noClass ↔ classes.first = .noClass) ∧
      ((settle classes).second = .noClass ↔ classes.second = .noClass) := by
  obtain ⟨first, second⟩ := classes
  revert outside
  cases first <;> cases second <;> decide

/-- The classes of an aggregate are those of what it consists of, unless that is nothing. -/
theorem settled_outside {classes whole : Classification} {large : Prop} [Decidable large]
    {length : Nat}
    (settled : whole = if large then inMemory else if length = 0 then empty else settle classes)
    (outside : whole.first ≠ .memory) :
    (0 < length → classes.first ≠ .memory ∧ classes.second ≠ .memory) ∧
      (whole.first ≠ .noClass ↔ 0 < length ∧ classes.first ≠ .noClass) ∧
      (whole.second ≠ .noClass ↔ 0 < length ∧ classes.second ≠ .noClass) := by
  by_cases tooLarge : large
  · rw [if_pos tooLarge] at settled
    rw [settled] at outside
    exact absurd rfl outside
  · rw [if_neg tooLarge] at settled
    by_cases nothing : length = 0
    · rw [if_pos nothing] at settled
      simp [settled, nothing, empty]
    · rw [if_neg nothing] at settled
      rw [settled] at outside ⊢
      have nonempty : 0 < length := Nat.pos_of_ne_zero nothing
      obtain ⟨first, second, sameFirst, sameSecond⟩ := settle_outside outside
      simp [nonempty, first, second, sameFirst, sameSecond]

theorem first_foldl_addMember (members : List (Nat × Classification)) (classes : Classification) :
    (members.foldl (fun classes member => classes.addMember member.1 member.2) classes).first ≠
        .noClass ↔
      classes.first ≠ .noClass ∨ ∃ member ∈ members, member.1 = 0 ∧ member.2.first ≠ .noClass := by
  induction members generalizing classes with
  | nil => simp
  | cons member rest ih =>
    rw [List.foldl_cons, ih, addMember]
    by_cases early : member.1 = 0
    · rw [if_pos early, EightbyteClass.merge_ne_noClass, or_assoc]
      simp [early]
    · rw [if_neg early]
      simp [early]

theorem second_foldl_addMember (members : List (Nat × Classification)) (classes : Classification) :
    (members.foldl (fun classes member => classes.addMember member.1 member.2) classes).second ≠
        .noClass ↔
      classes.second ≠ .noClass ∨ ∃ member ∈ members,
        (member.1 = 0 ∧ member.2.second ≠ .noClass) ∨
          (member.1 ≠ 0 ∧ member.2.first ≠ .noClass) := by
  induction members generalizing classes with
  | nil => simp
  | cons member rest ih =>
    rw [List.foldl_cons, ih, addMember]
    by_cases early : member.1 = 0
    · rw [if_pos early, EightbyteClass.merge_ne_noClass, or_assoc]
      simp [early]
    · rw [if_neg early, EightbyteClass.merge_ne_noClass, or_assoc]
      simp [early]

theorem members_outside {members : List (Nat × Classification)} {classes : Classification}
    (first : (members.foldl (fun classes member => classes.addMember member.1 member.2)
      classes).first ≠ .memory)
    (second : (members.foldl (fun classes member => classes.addMember member.1 member.2)
      classes).second ≠ .memory) :
    (classes.first ≠ .memory ∧ classes.second ≠ .memory) ∧
      ∀ member ∈ members, member.2.first ≠ .memory := by
  induction members generalizing classes with
  | nil => exact ⟨⟨first, second⟩, nofun⟩
  | cons member rest ih =>
    rw [List.foldl_cons] at first second
    obtain ⟨⟨first, second⟩, others⟩ := ih first second
    unfold addMember at first second
    by_cases early : member.1 = 0
    · rw [if_pos early] at first second
      have first := EightbyteClass.of_merge_ne_memory first
      have second := EightbyteClass.of_merge_ne_memory second
      exact ⟨⟨first.1, second.1⟩, List.forall_mem_cons.2 ⟨first.2, others⟩⟩
    · rw [if_neg early] at first second
      have second := EightbyteClass.of_merge_ne_memory second
      exact ⟨⟨first, second.1⟩, List.forall_mem_cons.2 ⟨second.2, others⟩⟩

theorem first_ofElement (length : Nat) (element : Classification) :
    (ofElement length element).first = element.first := by
  unfold ofElement
  split <;> rfl

theorem second_ofElement {length : Nat} {element : Classification} :
    (ofElement length element).second ≠ .noClass ↔
      element.second ≠ .noClass ∨ 8 < length ∧ element.first ≠ .noClass := by
  unfold ofElement
  split
  · rename_i spread
    simp [spread.1, spread.2]
  · rename_i kept
    constructor
    · exact .inl
    · rintro (second | ⟨long, -⟩)
      · exact second
      · exact fun second => kept ⟨long, second⟩

/-- Members outside of memory start in one of the two eightbytes, and bring it their classes. -/
theorem ofMembers_outside {members : List (Nat × Classification)}
    (first : (ofMembers members).first ≠ .memory) (second : (ofMembers members).second ≠ .memory) :
    (∀ member ∈ members, member.2.first ≠ .memory) ∧
      ((ofMembers members).first ≠ .noClass ↔
        ∃ member ∈ members, member.1 = 0 ∧ member.2.first ≠ .noClass) ∧
      ((ofMembers members).second ≠ .noClass ↔ ∃ member ∈ members,
        member.1 = 0 ∧ member.2.second ≠ .noClass ∨ member.1 = 1 ∧ member.2.first ≠ .noClass) := by
  unfold ofMembers at first second ⊢
  split at first
  · exact absurd rfl first
  · rename_i near
    rw [if_neg near] at second ⊢
    refine ⟨(members_outside first second).2, ?_, ?_⟩
    · rw [first_foldl_addMember]
      simp [empty]
    · rw [second_foldl_addMember]
      -- No member starts beyond the second eightbyte, or the whole would be in memory.
      have late {member : Nat × Classification} (listed : member ∈ members) :
          member.1 ≠ 0 ↔ member.1 = 1 := by
        have bounded : ¬ 1 < member.1 := fun beyond =>
          near (List.any_eq_true.2 ⟨member, listed, decide_eq_true beyond⟩)
        omega
      simp only [empty, ne_eq, not_true, false_or]
      refine exists_congr fun member => and_congr_right fun listed => ?_
      rw [← late listed]

end Classification

theorem mem_classifyFields {fields : List (FieldOf DataType)} {member : Nat × Classification} :
    member ∈ classifyFields fields ↔ ∃ field ∈ fields, field.static = false ∧
      member = (field.bitPosition / 64, classify field.type) := by
  induction fields with
  | nil => simp [classifyFields]
  | cons field rest ih =>
    obtain ⟨type, bitPosition, static, _⟩ := field
    cases static with
    | true => simp [classifyFields, ih]
    | false => simp [classifyFields, ih]

theorem exists_classifyFields {fields : List (FieldOf DataType)}
    {brings : Nat × Classification → Prop} :
    (∃ member ∈ classifyFields fields, brings member) ↔ ∃ field ∈ fields, field.static = false ∧
      brings (field.bitPosition / 64, classify field.type) := by
  constructor
  · rintro ⟨member, listed, brought⟩
    obtain ⟨field, inFields, real, rfl⟩ := mem_classifyFields.1 listed
    exact ⟨field, inFields, real, brought⟩
  · rintro ⟨field, listed, real, brought⟩
    exact ⟨_, mem_classifyFields.2 ⟨field, listed, real, rfl⟩, brought⟩

section Kinds

variable {code : TypeKind} {length : Nat} {traits : TypeTraits} {fields : List (FieldOf DataType)}
  {target : Option DataType}

theorem classify_scalar (noMembers : code.hasMembers = false) (notArray : code ≠ .array) :
    ((classify (.mk code length traits fields target)).first ≠ .noClass ↔
        0 < scalarEightbytes code length) ∧
      ((classify (.mk code length traits fields target)).second ≠ .noClass ↔
        1 < scalarEightbytes code length) := by
  unfold classify Classification.combine scalarEightbytes
  cases code with
  | struct | union => cases noMembers
  | array => exact absurd rfl notArray
  | function | void => simp [DataType.code, TypeKind.isLeaf, Classification.empty]
  | int | char | bool | enum | range | pointer | reference =>
    simp only [DataType.code, DataType.length, TypeKind.isLeaf, List.contains_iff_mem]
    by_cases whole : length ∈ [1, 2, 4, 8]
    · simp only [whole, if_true]
      decide
    · simp only [whole, if_false]
      decide
  | float | decimalFloat =>
    have listed : length ∈ [4, 8] ↔ length = 4 ∨ length = 8 := by simp
    simp only [DataType.code, DataType.length, TypeKind.isLeaf, List.contains_iff_mem, listed]
    by_cases whole : length = 4 ∨ length = 8
    · simp only [whole, if_true]
      decide
    · by_cases halves : length = 16
      · simp only [halves, if_true]
        decide
      · simp only [whole, halves, if_false]
        decide

theorem classify_of_members (members : code.hasMembers) :
    classify (.mk code length traits fields target) =
      if length > 16 ∨ (DataType.mk code length traits fields target).passedByAddress then .inMemory
      else if length = 0 then .empty else .settle (.ofMembers (classifyFields fields)) := by
  cases code with
  | struct | union => rw [classify]; rfl
  | _ => cases members

theorem classify_array (element : DataType) :
    classify (.mk .array length traits fields (some element)) =
      if length > 16 ∨ (DataType.mk .array length traits fields (some element)).passedByAddress then
        .inMemory
      else if length = 0 then .empty else .settle (.ofElement length (classify element)) := by
  rw [classify]
  rfl

theorem classify_targetless
    (outside : (classify (.mk .array length traits fields none)).first ≠ .memory) :
    classify (.mk .array length traits fields none) = .empty := by
  have whole : classify (.mk .array length traits fields none) =
      if length > 16 ∨ (DataType.mk .array length traits fields none).passedByAddress then .inMemory
      else if length = 0 then .empty else .inMemory := by
    rw [classify]
    rfl
  rw [whole] at outside ⊢
  split at outside
  · exact absurd rfl outside
  · rename_i fits
    rw [if_neg fits]
    split at outside
    · rename_i nothing
      rw [if_pos nothing]
    · exact absurd rfl outside

theorem attributed_scalar {eightbyte : Nat} (noMembers : code.hasMembers = false)
    (notArray : code ≠ .array) :
    Attributed (.mk code length traits fields target) eightbyte ↔
      eightbyte < scalarEightbytes code length := by
  constructor
  · intro attributed
    cases attributed with
    | scalar takes => exact takes
    | element => exact absurd rfl notArray
    | laterElement => exact absurd rfl notArray
    | member members => simp [noMembers] at members
    | laterMember members => simp [noMembers] at members
  · exact .scalar

theorem not_attributed_targetless {eightbyte : Nat} :
    ¬ Attributed (.mk .array length traits fields none) eightbyte := by
  intro attributed
  cases attributed with
  | scalar takes => cases takes
  | member members => cases members
  | laterMember members => cases members

theorem attributed_array {element : DataType} {eightbyte : Nat} :
    Attributed (.mk .array length traits fields (some element)) eightbyte ↔
      0 < length ∧ Attributed element eightbyte ∨
        8 < length ∧ eightbyte = 1 ∧ Attributed element 0 := by
  constructor
  · intro attributed
    cases attributed with
    | scalar takes => cases takes
    | element nonempty inner => exact .inl ⟨nonempty, inner⟩
    | laterElement long inner => exact .inr ⟨long, rfl, inner⟩
    | member members => cases members
    | laterMember members => cases members
  · rintro (⟨nonempty, inner⟩ | ⟨long, rfl, inner⟩)
    · exact .element nonempty inner
    · exact .laterElement long inner

theorem attributed_members {eightbyte : Nat} (members : code.hasMembers) :
    Attributed (.mk code length traits fields target) eightbyte ↔
      0 < length ∧ ∃ field ∈ fields, field.static = false ∧
        (field.bitPosition / 64 = 0 ∧ Attributed field.type eightbyte ∨
          field.bitPosition / 64 = 1 ∧ eightbyte = 1 ∧ Attributed field.type 0) := by
  constructor
  · intro attributed
    cases attributed with
    | scalar takes =>
      have none : scalarEightbytes code length = 0 := by
        cases code with
        | struct | union => rfl
        | _ => cases members
      omega
    | element => cases members
    | laterElement => cases members
    | member _ nonempty listed real early inner =>
      exact ⟨nonempty, _, listed, real, .inl ⟨early, inner⟩⟩
    | laterMember _ nonempty listed real late inner =>
      exact ⟨nonempty, _, listed, real, .inr ⟨late, rfl, inner⟩⟩
  · rintro ⟨nonempty, field, listed, real, ⟨early, inner⟩ | ⟨late, rfl, inner⟩⟩
    · exact .member members nonempty listed real early inner
    · exact .laterMember members nonempty listed real late inner

end Kinds

/-- An eightbyte of a value outside of memory has a class if a scalar is attributed to it. -/
theorem class_iff_attributed {type : DataType} (outside : (classify type).first ≠ .memory) :
    ((classify type).first ≠ .noClass ↔ Attributed type 0) ∧
      ((classify type).second ≠ .noClass ↔ Attributed type 1) := by
  -- A member in memory sends the whole to memory. So outside of memory, all members and elements
  -- are outside of it too, and have their classes by induction.
  induction type using DataType.nested with
  | scalar code length traits fields target noMembers notArray =>
    rw [attributed_scalar noMembers notArray, attributed_scalar noMembers notArray]
    exact classify_scalar noMembers notArray
  | aggregate code length traits fields target members ih =>
    obtain ⟨parts, first, second⟩ :=
      Classification.settled_outside (classify_of_members members) outside
    rw [attributed_members members, attributed_members members, first, second]
    rcases Nat.eq_zero_or_pos length with nothing | nonempty
    · simp [nothing]
    · obtain ⟨others, fillsFirst, fillsSecond⟩ :=
        Classification.ofMembers_outside (parts nonempty).1 (parts nonempty).2
      have inner {field : FieldOf DataType} (listed : field ∈ fields)
          (real : field.static = false) := ih field listed
        (others _ (mem_classifyFields.2 ⟨field, listed, real, rfl⟩))
      rw [fillsFirst, fillsSecond, exists_classifyFields, exists_classifyFields]
      simp only [nonempty, true_and]
      constructor
      · apply exists_congr
        intro field
        refine and_congr_right fun listed => and_congr_right fun real => ?_
        simp [(inner listed real).1]
      · apply exists_congr
        intro field
        refine and_congr_right fun listed => and_congr_right fun real => ?_
        simp only [(inner listed real).1, (inner listed real).2]
  | array length traits fields target ih =>
    cases target with
    | none =>
      rw [classify_targetless outside]
      simp [not_attributed_targetless, Classification.empty]
    | some element =>
      obtain ⟨parts, first, second⟩ :=
        Classification.settled_outside (classify_array element) outside
      rw [attributed_array, attributed_array, first, second, Classification.first_ofElement,
        Classification.second_ofElement]
      rcases Nat.eq_zero_or_pos length with nothing | nonempty
      · simp [nothing]
      · have outside' := (parts nonempty).1
        rw [Classification.first_ofElement] at outside'
        obtain ⟨innerFirst, innerSecond⟩ := ih element rfl outside'
        rw [innerFirst, innerSecond]
        simp [nonempty]

theorem Attributed.nonempty {type : DataType} {eightbyte : Nat}
    (attributed : Attributed type eightbyte) : 0 < type.length := by
  cases attributed with
  | @scalar code length _ _ _ _ takes =>
    change 0 < length
    cases length with
    | zero => cases code <;> cases takes
    | succ length => exact Nat.succ_pos length
  | element nonempty => exact nonempty
  | laterElement long => exact Nat.lt_trans (by decide) long
  | member _ nonempty => exact nonempty
  | laterMember _ nonempty => exact nonempty

/-- A leaf that starts in the first eightbyte is attributed to it, for so do all members around
it. -/
theorem attributed_first {type : DataType} (inside : type.contained) {leaf : Leaf}
    (listed : leaf ∈ type.leaves) (early : leaf.position < 64) : Attributed type 0 := by
  -- Positions only shrink on the way in, so no member around the leaf starts later.
  induction type using DataType.nested generalizing leaf with
  | scalar code length traits fields target noMembers notArray =>
    unfold DataType.leaves at listed
    rw [if_neg (by simp [noMembers]), if_neg notArray] at listed
    split at listed
    · rename_i isLeaf
      exact .scalar (by simp only [scalarEightbytes, if_pos isLeaf, Nat.one_pos])
    · cases listed
  | aggregate code length traits fields target members ih =>
    unfold DataType.leaves at listed
    rw [if_pos members, DataType.mem_fieldLeaves] at listed
    unfold DataType.contained at inside
    rw [if_pos members, DataType.fieldsContained_iff] at inside
    obtain ⟨field, inFields, real, inner, nested, rfl⟩ := listed
    obtain ⟨room, inside⟩ := inside field inFields real
    change field.bitPosition + inner.position < 64 at early
    have attributed := ih field inFields inside nested (by omega)
    have nonempty := attributed.nonempty
    exact .member members (by omega) inFields real (by omega) attributed
  | array length traits fields target ih =>
    cases target with
    | none => cases listed
    | some element =>
      change leaf ∈ DataType.repeated _ _ _ at listed
      obtain ⟨index, below, inner, nested, rfl⟩ := DataType.mem_repeated.1 listed
      change index * (8 * element.length) + inner.position < 64 at early
      have attributed := ih element rfl inside nested (by omega)
      have some : 0 < length / element.length := Nat.lt_of_le_of_lt (Nat.zero_le index) below
      have nonempty : 0 < length := Nat.lt_of_lt_of_le some (Nat.div_le_self _ _)
      exact .element nonempty attributed

end Inferior.Amd64

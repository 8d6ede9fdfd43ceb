import Inferior.Proofs.Attribution

/-! Which classes the two eightbytes of a type can have together.

Merging members rewrites both classes, and so do the rules for an aggregate as a whole. What comes
out is one of a few pairs. The one that is easily overlooked has an x87 number in its first
eightbyte and an integer in the second one: a long double shares its place with something that
begins with padding.
-/

set_option autoImplicit false

namespace Inferior.Amd64

namespace EightbyteClass

def CanLead (only : EightbyteClass) : Prop := only ∉ [sseUp, x87Up, complexX87]

def CanFollowX87 (only : EightbyteClass) : Prop := only ∈ [x87Up, integer, memory]

instance (only : EightbyteClass) : Decidable only.CanLead := inferInstanceAs (Decidable (¬_))

instance (only : EightbyteClass) : Decidable only.CanFollowX87 := inferInstanceAs (Decidable (_ ∈ _))

theorem CanLead.ne_complexX87 {only : EightbyteClass} (lead : only.CanLead) : only ≠ .complexX87 := by
  rintro rfl
  exact absurd lead (by decide)

theorem canLead_merge {first second : EightbyteClass} (lead : first.CanLead)
    (lead' : second.CanLead) : (first.merge second).CanLead := by
  revert lead lead'
  cases first <;> cases second <;> decide

/-- Whatever shares an eightbyte after an x87 mantissa, it changes nothing about that. -/
theorem canFollowX87_merge {first : EightbyteClass} (second : EightbyteClass)
    (follows : first.CanFollowX87) : (first.merge second).CanFollowX87 := by
  revert follows
  cases first <;> cases second <;> decide

theorem merge_ne_complexX87 {first second : EightbyteClass} (plain : first ≠ .complexX87)
    (plain' : second ≠ .complexX87) : first.merge second ≠ .complexX87 := by
  revert plain plain'
  cases first <;> cases second <;> decide

theorem of_merge_eq_x87 {first second : EightbyteClass} (mantissa : first.merge second = .x87) :
    first = .x87 ∨ second = .x87 := by
  revert mantissa
  cases first <;> cases second <;> decide

end EightbyteClass

namespace Classification

structure WellFormed (classes : Classification) : Prop where
  /-- A value is in memory as a whole or not at all. -/
  whole : classes.first = .memory ↔ classes.second = .memory
  leads : classes.first.CanLead
  plain : classes.second ≠ .complexX87
  upperHalf (half : classes.second = .sseUp) : classes.first = .sse
  exponent (up : classes.second = .x87Up) : classes.first = .x87
  mantissa (down : classes.first = .x87) : classes.second = .x87Up ∨ classes.second = .integer

/-- What is known of the classes of an aggregate before they are settled. -/
structure Mergeable (classes : Classification) : Prop where
  leads : classes.first.CanLead
  plain : classes.second ≠ .complexX87
  mantissa (down : classes.first = .x87) : classes.second.CanFollowX87

theorem wellFormed_iff {classes : Classification} :
    classes.WellFormed ↔ (classes.first = .memory ↔ classes.second = .memory) ∧
      classes.first.CanLead ∧ classes.second ≠ .complexX87 ∧
      (classes.second = .sseUp → classes.first = .sse) ∧
      (classes.second = .x87Up → classes.first = .x87) ∧
      (classes.first = .x87 → classes.second = .x87Up ∨ classes.second = .integer) :=
  ⟨fun ⟨whole, leads, plain, upperHalf, exponent, mantissa⟩ =>
      ⟨whole, leads, plain, upperHalf, exponent, mantissa⟩,
    fun ⟨whole, leads, plain, upperHalf, exponent, mantissa⟩ =>
      ⟨whole, leads, plain, upperHalf, exponent, mantissa⟩⟩

theorem wellFormed_empty : empty.WellFormed := by constructor <;> decide

theorem wellFormed_inMemory : inMemory.WellFormed := by constructor <;> decide

theorem WellFormed.ite {condition : Prop} [Decidable condition] {yes no : Classification}
    (first : yes.WellFormed) (second : no.WellFormed) :
    (if condition then yes else no).WellFormed := by
  split
  · exact first
  · exact second

theorem WellFormed.mergeable {classes : Classification} (wellFormed : classes.WellFormed) :
    classes.Mergeable where
  leads := wellFormed.leads
  plain := wellFormed.plain
  mantissa down := by
    rcases wellFormed.mantissa down with second | second <;> rw [second] <;> decide

theorem Mergeable.addMember {classes member : Classification} (mergeable : classes.Mergeable)
    (eightbyte : Nat) (wellFormed : member.WellFormed) :
    (classes.addMember eightbyte member).Mergeable := by
  have other := wellFormed.mergeable
  unfold Classification.addMember
  split
  · refine ⟨EightbyteClass.canLead_merge mergeable.leads other.leads,
      EightbyteClass.merge_ne_complexX87 mergeable.plain other.plain, fun down => ?_⟩
    -- The mantissa comes from one of the two, and brings what comes after it.
    rcases EightbyteClass.of_merge_eq_x87 down with down | down
    · exact EightbyteClass.canFollowX87_merge _ (mergeable.mantissa down)
    · dsimp only
      rw [EightbyteClass.merge_comm]
      exact EightbyteClass.canFollowX87_merge _ (other.mantissa down)
  · exact ⟨mergeable.leads,
      EightbyteClass.merge_ne_complexX87 mergeable.plain other.leads.ne_complexX87,
      fun down => EightbyteClass.canFollowX87_merge _ (mergeable.mantissa down)⟩

theorem mergeable_ofMembers {members : List (Nat × Classification)}
    (wellFormed : ∀ member ∈ members, member.2.WellFormed) : (ofMembers members).Mergeable := by
  have run (classes : Classification) (mergeable : classes.Mergeable) :
      (members.foldl (fun classes member => classes.addMember member.1 member.2)
        classes).Mergeable := by
    induction members generalizing classes with
    | nil => exact mergeable
    | cons member rest ih =>
      obtain ⟨here, further⟩ := List.forall_mem_cons.1 wellFormed
      exact ih further _ (mergeable.addMember member.1 here)
  unfold ofMembers
  split
  · exact wellFormed_inMemory.mergeable
  · exact run empty wellFormed_empty.mergeable

theorem WellFormed.mergeable_ofElement {element : Classification} (wellFormed : element.WellFormed)
    (length : Nat) : (ofElement length element).Mergeable := by
  unfold ofElement
  split
  · rename_i repeated
    -- A mantissa is never repeated, since its second eightbyte has a class.
    refine ⟨wellFormed.leads, wellFormed.leads.ne_complexX87, fun down => ?_⟩
    rcases wellFormed.mantissa down with second | second <;>
      exact absurd (repeated.2.symm.trans second) (by decide)
  · exact wellFormed.mergeable

theorem Mergeable.settle {classes : Classification} (mergeable : classes.Mergeable) :
    (settle classes).WellFormed := by
  obtain ⟨first, second⟩ := classes
  obtain ⟨leads, plain, mantissa⟩ := mergeable
  revert leads plain mantissa
  rw [wellFormed_iff]
  cases first <;> cases second <;> decide

end Classification

/-- No type has other classes, however it is nested. -/
theorem wellFormed_classify (type : DataType) : (classify type).WellFormed := by
  open Classification in
  induction type using DataType.nested with
  | scalar code length traits fields target noMembers notArray =>
    -- There are four pairs of classes for scalars, besides none.
    have integer : WellFormed ⟨.integer, .noClass⟩ := by constructor <;> decide
    have sse : WellFormed ⟨.sse, .noClass⟩ := by constructor <;> decide
    have halves : WellFormed ⟨.sse, .sseUp⟩ := by constructor <;> decide
    have x87 : WellFormed ⟨.x87, .x87Up⟩ := by constructor <;> decide
    rw [classify]
    cases code with
    | struct | union => cases noMembers
    | array => exact absurd rfl notArray
    | function | void => exact wellFormed_empty
    | int | enum | bool | range | char | pointer | reference => exact .ite integer wellFormed_empty
    | float => exact .ite sse (.ite x87 wellFormed_empty)
    | decimalFloat => exact .ite sse (.ite halves wellFormed_empty)
  | aggregate code length traits fields target members ih =>
    rw [classify_of_members members]
    refine .ite wellFormed_inMemory (.ite wellFormed_empty (Mergeable.settle ?_))
    apply mergeable_ofMembers
    intro member listed
    obtain ⟨field, inFields, -, rfl⟩ := mem_classifyFields.1 listed
    exact ih field inFields
  | array length traits fields target ih =>
    cases target with
    | none =>
      rw [classify]
      exact .ite wellFormed_inMemory (.ite wellFormed_empty wellFormed_inMemory)
    | some element =>
      rw [classify_array]
      exact .ite wellFormed_inMemory
        (.ite wellFormed_empty ((ih element rfl).mergeable_ofElement length).settle)

end Inferior.Amd64

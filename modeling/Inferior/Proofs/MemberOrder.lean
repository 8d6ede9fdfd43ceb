import Inferior.Proofs.ClassPairs

/-! The order of members makes no difference to classes, as long as no member holds an x87 number.

Merging is not associative in general: an integer hides an x87 number that it meets first, but not the
memory that the number becomes with anything else. Without such numbers the classes form a chain, and
merging takes the larger of two.
-/

set_option autoImplicit false

namespace Inferior

/-- The steps of a run can be taken in any order if any two of them can, from every state that is
reached. -/
theorem foldl_perm {σ α : Type} {step : σ → α → σ} (valid : σ → Prop) {first second : List α}
    (perm : first.Perm second) (keeps : ∀ state, valid state → ∀ entry ∈ first, valid (step state entry))
    (swaps : ∀ state, valid state → ∀ entry ∈ first, ∀ other ∈ first,
      step (step state entry) other = step (step state other) entry)
    {start : σ} (fine : valid start) : first.foldl step start = second.foldl step start := by
  induction perm generalizing start with
  | nil => rfl
  | cons entry _ ih =>
    rw [List.foldl_cons, List.foldl_cons]
    exact ih (fun state fine other listed => keeps state fine other (List.mem_cons_of_mem _ listed))
      (fun state fine other listed third listed' => swaps state fine other
        (List.mem_cons_of_mem _ listed) third (List.mem_cons_of_mem _ listed'))
      (keeps start fine entry (List.mem_cons_self ..))
  | swap entry other rest =>
    simp only [List.foldl_cons]
    rw [swaps start fine other (by simp) entry (by simp)]
  | trans perm _ ih ih' =>
    have back {entry : α} := (perm.mem_iff (a := entry)).2
    exact (ih keeps swaps fine).trans
      (ih' (fun state fine entry listed => keeps state fine entry (back listed))
        (fun state fine entry listed other listed' =>
          swaps state fine entry (back listed) other (back listed')) fine)

namespace Amd64

namespace EightbyteClass

def AvoidsX87 (only : EightbyteClass) : Prop := only ∉ [x87, x87Up, complexX87]

instance (only : EightbyteClass) : Decidable only.AvoidsX87 := inferInstanceAs (Decidable (¬_))

def rank : EightbyteClass → Nat
  | noClass => 0
  | sseUp => 1
  | sse => 2
  | integer => 3
  | memory => 4
  | x87 | x87Up | complexX87 => 5

theorem rank_injective {first second : EightbyteClass} (avoids : first.AvoidsX87)
    (same : first.rank = second.rank) : first = second := by
  revert avoids same
  cases first <;> cases second <;> decide

theorem rank_merge {first second : EightbyteClass} (avoids : first.AvoidsX87)
    (avoids' : second.AvoidsX87) : (first.merge second).rank = max first.rank second.rank := by
  revert avoids avoids'
  cases first <;> cases second <;> decide

theorem avoidsX87_merge {first second : EightbyteClass} (avoids : first.AvoidsX87)
    (avoids' : second.AvoidsX87) : (first.merge second).AvoidsX87 := by
  revert avoids avoids'
  cases first <;> cases second <;> decide

theorem merge_right_comm {first second third : EightbyteClass} (avoids : first.AvoidsX87)
    (avoids' : second.AvoidsX87) (avoids'' : third.AvoidsX87) :
    (first.merge second).merge third = (first.merge third).merge second := by
  have left := avoidsX87_merge avoids avoids'
  have right := avoidsX87_merge avoids avoids''
  apply rank_injective (avoidsX87_merge left avoids'')
  rw [rank_merge left avoids'', rank_merge avoids avoids', rank_merge right avoids',
    rank_merge avoids avoids'', Nat.max_right_comm]

end EightbyteClass

namespace Classification

structure AvoidsX87 (classes : Classification) : Prop where
  first : classes.first.AvoidsX87
  second : classes.second.AvoidsX87

theorem AvoidsX87.addMember {classes member : Classification} (avoids : classes.AvoidsX87)
    (eightbyte : Nat) (avoids' : member.AvoidsX87) : (classes.addMember eightbyte member).AvoidsX87 := by
  unfold Classification.addMember
  split
  · exact ⟨EightbyteClass.avoidsX87_merge avoids.first avoids'.first,
      EightbyteClass.avoidsX87_merge avoids.second avoids'.second⟩
  · exact ⟨avoids.first, EightbyteClass.avoidsX87_merge avoids.second avoids'.first⟩

theorem AvoidsX87.addMember_swap {classes member other : Classification} (avoids : classes.AvoidsX87)
    (eightbyte eightbyte' : Nat) (here : member.AvoidsX87) (there : other.AvoidsX87) :
    (classes.addMember eightbyte member).addMember eightbyte' other =
      (classes.addMember eightbyte' other).addMember eightbyte member := by
  have first := EightbyteClass.merge_right_comm avoids.first here.first there.first
  have second {only last : EightbyteClass} :=
    @EightbyteClass.merge_right_comm classes.second only last avoids.second
  unfold Classification.addMember
  by_cases early : eightbyte = 0 <;> by_cases early' : eightbyte' = 0
  · simp only [early, early', if_true, first, second here.second there.second]
  · simp only [early, early', if_true, if_false, second here.second there.first]
  · simp only [early, early', if_true, if_false, second here.first there.second]
  · simp only [early, early', if_false, second here.first there.first]

theorem ofMembers_perm {members members' : List (Nat × Classification)} (perm : members.Perm members')
    (avoid : ∀ member ∈ members, member.2.AvoidsX87) : ofMembers members = ofMembers members' := by
  have start : AvoidsX87 empty := by constructor <;> decide
  have merged := foldl_perm AvoidsX87 perm
    (fun classes avoids member listed => avoids.addMember member.1 (avoid member listed))
    (fun classes avoids member listed other listed' =>
      avoids.addMember_swap _ _ (avoid member listed) (avoid other listed')) start
  unfold ofMembers
  rw [perm.any_eq, merged]

end Classification

theorem classifyFields_eq (fields : List (FieldOf DataType)) :
    classifyFields fields = (fields.filter fun field => !field.static).map fun field =>
      (field.bitPosition / 64, classify field.type) := by
  induction fields with
  | nil => rfl
  | cons field rest ih =>
    obtain ⟨type, bitPosition, static, _⟩ := field
    cases static with
    | true => simp [classifyFields, ih]
    | false => simp [classifyFields, ih]

def InvolvesX87 (type : DataType) : Prop :=
  .x87 ∈ (classify type).toList ∨ .x87Up ∈ (classify type).toList

instance (type : DataType) : Decidable (InvolvesX87 type) := inferInstanceAs (Decidable (_ ∨ _))

theorem avoidsX87_classify {type : DataType} (free : ¬InvolvesX87 type) :
    (classify type).AvoidsX87 := by
  have wellFormed := wellFormed_classify type
  have other {only : EightbyteClass} (listed : only ∈ (classify type).toList)
      (plain : only ≠ .complexX87) : only.AvoidsX87 := by
    intro x87
    simp only [List.mem_cons, List.not_mem_nil, or_false] at x87
    rcases x87 with rfl | rfl | same
    · exact free (.inl listed)
    · exact free (.inr listed)
    · exact plain same
  exact ⟨other (List.mem_cons_self ..) wellFormed.leads.ne_complexX87,
    other (List.mem_cons_of_mem _ (List.mem_cons_self ..)) wellFormed.plain⟩

/-- The members of a type without x87 numbers can be listed in any order. Where they start, and
whether they are in memory, does not matter for that. -/
theorem classify_perm {code : TypeKind} (members : code.hasMembers) (length : Nat)
    (traits : TypeTraits) (target : Option DataType) {fields fields' : List Field}
    (perm : fields.Perm fields')
    (free : ∀ field ∈ fields, field.static = false → ¬InvolvesX87 field.type) :
    classify (.mk code length traits fields target) =
      classify (.mk code length traits fields' target) := by
  have copied : (DataType.mk code length traits fields target).passedByAddress =
      (DataType.mk code length traits fields' target).passedByAddress := by
    unfold DataType.passedByAddress
    exact congrArg (fun based => traits.nontrivialCopy || (code == .struct && based)) perm.any_eq
  have listed : (classifyFields fields).Perm (classifyFields fields') := by
    rw [classifyFields_eq, classifyFields_eq]
    exact (perm.filter _).map _
  have merged : Classification.ofMembers (classifyFields fields) =
      Classification.ofMembers (classifyFields fields') := by
    refine Classification.ofMembers_perm listed fun member found => ?_
    obtain ⟨field, inFields, real, rfl⟩ := mem_classifyFields.1 found
    exact avoidsX87_classify (free field inFields real)
  rw [classify_of_members members, classify_of_members members, copied, merged]

/-- An integer and three floating-point numbers, of which the last one is static. -/
def mixedMembers : List Field :=
  [.member (.int 4) 0, .member (.float 4) 4, .member (.float 8) 8, .staticMember (.float 16)]

theorem classify_mixedMembers :
    (∀ field ∈ mixedMembers, field.static = false → ¬InvolvesX87 field.type) ∧
      classify (.struct 16 mixedMembers.reverse) = ⟨.integer, .sse⟩ := by
  have free : ∀ field ∈ mixedMembers, field.static = false → ¬InvolvesX87 field.type := by decide
  refine ⟨free, ?_⟩
  rw [DataType.struct, ← classify_perm rfl 16 {} none mixedMembers.reverse_perm.symm free]
  rfl

-- With an x87 number, whatever meets it first decides.
example : classify (.union 16 [.member (.float 16) 0, .member (.struct 16 [.member (.int 8) 8]) 0,
    .member (.int 4) 0, .member (.float 8) 0]) = ⟨.integer, .integer⟩ ∧
    classify (.union 16 [.member (.float 16) 0, .member (.struct 16 [.member (.int 8) 8]) 0,
      .member (.float 8) 0, .member (.int 4) 0]) = .inMemory := by
  decide

end Amd64

end Inferior

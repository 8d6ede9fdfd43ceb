import Inferior.Proofs.Attribution
import Inferior.Proofs.Flattening

/-! The classes of a plain type come from its leaves, counted member by member.

What counts for the first eightbyte of a member counts for the eightbyte in which the member starts.
This need not be the eightbyte of the whole in which it lies.
-/

set_option autoImplicit false

namespace Inferior

namespace Leaf

def isFloat (leaf : Leaf) : Bool := leaf.code = .float || leaf.code = .decimalFloat

theorem length_of_isFloat {leaf : Leaf} (scalar : leaf.code.isLeaf leaf.length)
    (float : leaf.isFloat) : leaf.length = 4 ∨ leaf.length = 8 := by
  obtain ⟨code, length, position⟩ := leaf
  have kind : code = .float ∨ code = .decimalFloat := by simpa [isFloat] using float
  rcases kind with rfl | rfl <;> simpa [TypeKind.isLeaf] using scalar

def eightbyte (leaf : Leaf) : Nat := leaf.position / 64

end Leaf

namespace DataType

mutual

/-- The leaves that count for one of the two eightbytes of a type. A second eightbyte that the
elements of an array leave open repeats the first one. -/
def countedLeaves : DataType → (eightbyte : Nat) → List Leaf
  | .mk code length _ fields target, eightbyte =>
    if code.hasMembers then if length = 0 then [] else fieldsCounted fields eightbyte
    else if code = .array then if length = 0 then [] else targetCounted length target eightbyte
    else if code.isLeaf length ∧ eightbyte = 0 then [⟨code, length, 0⟩] else []

def fieldsCounted : List (FieldOf DataType) → (eightbyte : Nat) → List Leaf
  | [], _ => []
  | ⟨type, bitPosition, static, _⟩ :: rest, eightbyte =>
    if static then fieldsCounted rest eightbyte
    else (if bitPosition < 64 then countedLeaves type eightbyte
      else if eightbyte = 1 then countedLeaves type 0 else []).map (·.moved bitPosition) ++
        fieldsCounted rest eightbyte

def targetCounted (length : Nat) : Option DataType → (eightbyte : Nat) → List Leaf
  | none, _ => []
  | some element, eightbyte =>
    if 8 < length ∧ (countedLeaves element 1).isEmpty then countedLeaves element 0
    else countedLeaves element eightbyte

end

mutual

/-- Whether a type of plain parts is too long for registers, or starts a part beyond the second
eightbyte, or has such a part. -/
def sentToMemory : DataType → Bool
  | .mk code length _ fields target =>
    if code.hasMembers then 16 < length || 0 < length && fieldsSent fields
    else if code = .array then 16 < length || 0 < length && targetSent target
    else false

def fieldsSent : List (FieldOf DataType) → Bool
  | [] => false
  | ⟨type, bitPosition, static, _⟩ :: rest =>
    !static && (128 ≤ bitPosition || sentToMemory type) || fieldsSent rest

def targetSent : Option DataType → Bool
  | none => true
  | some element => sentToMemory element

end

theorem fieldsSent_iff {fields : List Field} : fieldsSent fields ↔
    ∃ field ∈ fields, field.static = false ∧ (128 ≤ field.bitPosition ∨ field.type.sentToMemory) := by
  induction fields with
  | nil => simp [fieldsSent]
  | cons field rest ih =>
    obtain ⟨type, bitPosition, static, baseClass⟩ := field
    simp [fieldsSent, ih]

end DataType

namespace Amd64

namespace EightbyteClass

/-- The class of an eightbyte with some integers or some floating-point numbers in it. Integers
prevail. -/
def ofKinds (integer float : Prop) [Decidable integer] [Decidable float] : EightbyteClass :=
  if integer then .integer else if float then .sse else .noClass

section

variable {integer float integer' float' : Prop} [Decidable integer] [Decidable float]
  [Decidable integer'] [Decidable float']

theorem ofKinds_congr (integers : integer ↔ integer') (floats : float ↔ float') :
    ofKinds integer float = ofKinds integer' float' := by
  simp only [ofKinds, integers, floats]

theorem merge_ofKinds : (ofKinds integer float).merge (ofKinds integer' float') =
    ofKinds (integer ∨ integer') (float ∨ float') := by
  by_cases integer <;> by_cases integer' <;> by_cases float <;> by_cases float' <;>
    simp_all [ofKinds, merge]

theorem ofKinds_eq_noClass : ofKinds integer float = .noClass ↔ ¬integer ∧ ¬float := by
  by_cases integer <;> by_cases float <;> simp_all [ofKinds]

theorem ofKinds_ne_memory : ofKinds integer float ≠ .memory := by
  by_cases integer <;> by_cases float <;> simp_all [ofKinds]

end

end EightbyteClass

def leafClass (leaf : Leaf) : EightbyteClass := if leaf.isFloat then .sse else .integer

def sharedClass (leaves : List Leaf) : EightbyteClass :=
  leaves.foldl (fun merged leaf => merged.merge (leafClass leaf)) .noClass

theorem foldl_leafClass (leaves : List Leaf) (integer float : Prop) [Decidable integer]
    [Decidable float] :
    leaves.foldl (fun (merged : EightbyteClass) leaf => merged.merge (leafClass leaf))
        (EightbyteClass.ofKinds integer float) =
      EightbyteClass.ofKinds (integer ∨ ∃ leaf ∈ leaves, leaf.isFloat = false)
        (float ∨ ∃ leaf ∈ leaves, leaf.isFloat = true) := by
  induction leaves generalizing integer float with
  | nil => simp
  | cons leaf rest ih =>
    have kinds : leafClass leaf = .ofKinds (leaf.isFloat = false) (leaf.isFloat = true) := by
      cases float : leaf.isFloat <;> simp [leafClass, float, EightbyteClass.ofKinds]
    rw [List.foldl_cons, kinds, EightbyteClass.merge_ofKinds, ih]
    exact EightbyteClass.ofKinds_congr (by simp [or_assoc]) (by simp [or_assoc])

theorem sharedClass_eq (leaves : List Leaf) : sharedClass leaves =
    .ofKinds (∃ leaf ∈ leaves, leaf.isFloat = false) (∃ leaf ∈ leaves, leaf.isFloat = true) := by
  have folded := foldl_leafClass leaves False False
  exact folded.trans (EightbyteClass.ofKinds_congr (by simp) (by simp))

theorem sharedClass_append (leaves others : List Leaf) :
    sharedClass (leaves ++ others) = (sharedClass leaves).merge (sharedClass others) := by
  rw [sharedClass_eq, sharedClass_eq, sharedClass_eq, EightbyteClass.merge_ofKinds]
  exact EightbyteClass.ofKinds_congr (by simp [or_and_right, exists_or])
    (by simp [or_and_right, exists_or])

/-- Leaves are merged by their kinds, wherever they lie. -/
theorem sharedClass_moved (leaves : List Leaf) (distance : Nat) :
    sharedClass (leaves.map (·.moved distance)) = sharedClass leaves := by
  rw [sharedClass, List.foldl_map]
  rfl

theorem sharedClass_eq_noClass {leaves : List Leaf} :
    sharedClass leaves = .noClass ↔ leaves = [] := by
  rw [sharedClass_eq, EightbyteClass.ofKinds_eq_noClass]
  cases leaves with
  | nil => simp
  | cons leaf rest => cases float : leaf.isFloat <;> simp [float]

theorem settle_sharedClass (first second : List Leaf) :
    Classification.settle ⟨sharedClass first, sharedClass second⟩ =
      ⟨sharedClass first, sharedClass second⟩ := by
  have kind (leaves : List Leaf) : sharedClass leaves ∈ [.integer, .sse, .noClass] := by
    rw [sharedClass_eq]
    unfold EightbyteClass.ofKinds
    split
    · decide
    · split <;> decide
  have settled : ∀ first ∈ [EightbyteClass.integer, .sse, .noClass],
      ∀ second ∈ [EightbyteClass.integer, .sse, .noClass],
        Classification.settle ⟨first, second⟩ = ⟨first, second⟩ := by decide
  exact settled _ (kind first) _ (kind second)

/-- The classes that the counted leaves of a type of plain parts give it. -/
def countedClasses (type : DataType) : Classification :=
  if type.sentToMemory then .inMemory
  else ⟨sharedClass (type.countedLeaves 0), sharedClass (type.countedLeaves 1)⟩

section Kinds

variable {code : TypeKind} {length : Nat} {traits : TypeTraits} {fields : List Field}
  {target : Option DataType}

theorem classify_leaf (noMembers : code.hasMembers = false) (notArray : code ≠ .array)
    (isLeaf : code.isLeaf length) :
    classify (.mk code length traits fields target) = countedClasses (.mk code length traits fields target) := by
  have classes : countedClasses (.mk code length traits fields target) =
      ⟨leafClass ⟨code, length, 0⟩, .noClass⟩ := by
    simp [countedClasses, DataType.sentToMemory, DataType.countedLeaves, noMembers, notArray, isLeaf,
      sharedClass]
  rw [classes]
  unfold classify Classification.combine
  cases code with
  | struct | union | array | function | void => cases isLeaf
  | int | char | bool | enum | range | pointer | reference =>
    exact if_pos (List.contains_iff_mem.1 isLeaf)
  | float | decimalFloat =>
    have whole : length = 4 ∨ length = 8 := by simpa [TypeKind.isLeaf] using isLeaf
    exact if_pos whole

theorem settle_ofMembers_of_sent (sent : DataType.fieldsSent fields)
    (same : ∀ field ∈ fields, classify field.type = countedClasses field.type) :
    Classification.settle (.ofMembers (classifyFields fields)) = .inMemory := by
  obtain ⟨field, listed, real, late | sent⟩ := DataType.fieldsSent_iff.1 sent
  · have beyond : (classifyFields fields).any (·.1 > 1) := by
      simp only [List.any_eq_true, exists_classifyFields, decide_eq_true_eq]
      exact ⟨field, listed, real, by omega⟩
    rw [Classification.ofMembers, if_pos beyond]
    rfl
  · refine if_pos (Decidable.byContradiction fun outside => ?_)
    obtain ⟨first, second⟩ := not_or.1 outside
    have parts := (Classification.ofMembers_outside first second).1
    have part := parts _ (mem_classifyFields.2 ⟨field, listed, real, rfl⟩)
    rw [same field listed, countedClasses, if_pos sent] at part
    exact part rfl

/-- Each member outside of memory brings what counts in it. -/
theorem foldl_addMember (kept : DataType.fieldsSent fields = false)
    (same : ∀ field ∈ fields, classify field.type = countedClasses field.type)
    (first second : List Leaf) :
    (classifyFields fields).foldl (fun classes member => classes.addMember member.1 member.2)
        (Classification.mk (sharedClass first) (sharedClass second)) =
      ⟨sharedClass (first ++ DataType.fieldsCounted fields 0),
        sharedClass (second ++ DataType.fieldsCounted fields 1)⟩ := by
  induction fields generalizing first second with
  | nil => simp [classifyFields, DataType.fieldsCounted]
  | cons field rest ih =>
    obtain ⟨type, bitPosition, static, baseClass⟩ := field
    obtain ⟨here, others⟩ := List.forall_mem_cons.1 same
    obtain ⟨own, othersKept⟩ := Bool.or_eq_false_iff.1 kept
    cases static with
    | true => exact ih othersKept others first second
    | false =>
      obtain ⟨near, outside⟩ := Bool.or_eq_false_iff.1 own
      have here : classify type = _ := here.trans (if_neg (by simp [outside]))
      change (classifyFields rest).foldl _
        (Classification.addMember _ (bitPosition / 64) (classify type)) = _
      rw [here, Classification.addMember, DataType.fieldsCounted, DataType.fieldsCounted]
      simp only [Bool.false_eq_true, if_false]
      rw [← List.append_assoc, ← List.append_assoc]
      -- A member that starts in the second eightbyte brings the classes of its own first one there.
      by_cases early : bitPosition < 64
      · simp only [if_pos early, if_pos (Nat.div_eq_of_lt early)]
        rw [← ih othersKept others]
        simp only [sharedClass_append, sharedClass_moved]
      · simp only [if_neg early, if_neg (show bitPosition / 64 ≠ 0 by omega)]
        rw [← ih othersKept others]
        simp [sharedClass_append, sharedClass_moved]

theorem settle_ofMembers_of_kept (kept : DataType.fieldsSent fields = false)
    (same : ∀ field ∈ fields, classify field.type = countedClasses field.type) :
    Classification.settle (.ofMembers (classifyFields fields)) =
      ⟨sharedClass (DataType.fieldsCounted fields 0), sharedClass (DataType.fieldsCounted fields 1)⟩ := by
  have near : ¬ (classifyFields fields).any (·.1 > 1) := by
    simp only [List.any_eq_true, exists_classifyFields, decide_eq_true_eq]
    rintro ⟨field, listed, real, late⟩
    have sent := DataType.fieldsSent_iff.2 ⟨field, listed, real, .inl (by omega)⟩
    rw [kept] at sent
    cases sent
  have gathered := foldl_addMember kept same [] []
  rw [Classification.ofMembers, if_neg near]
  exact (congrArg Classification.settle gathered).trans (settle_sharedClass _ _)

theorem classify_members (members : code.hasMembers)
    (plain : (DataType.mk code length traits fields target).isPlain)
    (same : ∀ field ∈ fields, classify field.type = countedClasses field.type) :
    classify (.mk code length traits fields target) =
      countedClasses (.mk code length traits fields target) := by
  have copied : (DataType.mk code length traits fields target).passedByAddress = false :=
    DataType.passedByAddress_of_isPlain (.inl members) plain
  rw [classify_of_members members, copied, countedClasses, DataType.sentToMemory,
    DataType.countedLeaves, DataType.countedLeaves]
  simp only [members, if_true]
  rcases Nat.eq_zero_or_pos length with rfl | nonempty
  · rfl
  · by_cases long : 16 < length
    · simp [long]
    · simp only [long, nonempty, Nat.ne_of_gt nonempty, decide_true, decide_false, Bool.true_and,
        Bool.false_or, Bool.false_eq_true, or_false, if_false]
      cases sent : DataType.fieldsSent fields with
      | true => exact settle_ofMembers_of_sent sent same
      | false => exact settle_ofMembers_of_kept sent same

theorem ofElement_countedLeaves (element : DataType) :
    Classification.ofElement length
        ⟨sharedClass (element.countedLeaves 0), sharedClass (element.countedLeaves 1)⟩ =
      ⟨sharedClass (DataType.targetCounted length (some element) 0),
        sharedClass (DataType.targetCounted length (some element) 1)⟩ := by
  simp only [Classification.ofElement, DataType.targetCounted, sharedClass_eq_noClass,
    List.isEmpty_iff]
  split
  · rfl
  · simp

theorem classify_elements {element : DataType}
    (plain : (DataType.mk .array length traits fields (some element)).isPlain)
    (same : classify element = countedClasses element) :
    classify (.mk .array length traits fields (some element)) =
      countedClasses (.mk .array length traits fields (some element)) := by
  have copied : (DataType.mk .array length traits fields (some element)).passedByAddress = false :=
    DataType.passedByAddress_of_isPlain (.inr rfl) plain
  rw [classify_array, copied, same]
  simp only [countedClasses, DataType.sentToMemory, DataType.countedLeaves, DataType.targetSent]
  rcases Nat.eq_zero_or_pos length with rfl | nonempty
  · rfl
  · by_cases long : 16 < length
    · simp [long]
    · simp only [long, nonempty, Nat.ne_of_gt nonempty, TypeKind.hasMembers, decide_true,
        decide_false, Bool.true_and, Bool.false_or, Bool.false_eq_true, or_false, if_false, if_true]
      cases sent : element.sentToMemory with
      | true => simp [Classification.ofElement, Classification.inMemory, Classification.settle]
      | false =>
        simp only [Bool.false_eq_true, if_false]
        rw [ofElement_countedLeaves, settle_sharedClass]

end Kinds

/-- The classes of a type of plain parts are those of its leaves, each counted where the members
around it are. -/
theorem classify_eq_countedClasses {type : DataType} (plain : type.everywhere DataType.isPlain) :
    classify type = countedClasses type := by
  induction type using DataType.nested with
  | scalar code length traits fields target noMembers notArray =>
    have isLeaf := (DataType.isPlain_scalar noMembers notArray).1 (DataType.everywhere_here plain)
    exact classify_leaf noMembers notArray isLeaf
  | aggregate code length traits fields target members ih =>
    obtain ⟨plain, parts⟩ := (DataType.everywhere_members members).1 plain
    exact classify_members members plain fun field listed => ih field listed (parts field listed)
  | array length traits fields target ih =>
    cases target with
    | none =>
      have known := DataType.everywhere_here plain
      simp [DataType.isPlain, DataType.code, DataType.target, TypeKind.hasMembers] at known
    | some element =>
      obtain ⟨plain, inner⟩ := DataType.everywhere_array.1 plain
      exact classify_elements plain (ih element rfl inner)

end Amd64

end Inferior

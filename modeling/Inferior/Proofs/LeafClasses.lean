import Inferior.Proofs.ArgumentCoverage
import Inferior.Proofs.CountedLeaves

/-! The classes of small aggregates are those of their leaves, by the eightbytes in which these lie in
the whole.

A member counts for the eightbyte in which it starts, so this only holds as long as the leaves that
are counted for an eightbyte make the same of it as those that lie in it.
-/

set_option autoImplicit false

namespace Inferior

namespace DataType

def startsNear (type : DataType) : Bool :=
  type.length = 0 || !type.code.hasMembers ||
    type.fields.all fun field => field.static || field.bitPosition < 128

/-- Whether the leaves of a member that starts in the first eightbyte lie in the same eightbytes of
the whole as of the member, and an array is filled up to its last eightbyte, unless there is nothing
to fill it with. -/
def keepsEightbytes (type : DataType) : Bool :=
  type.length ≤ 16 &&
    if type.code.hasMembers then
      type.fields.all fun field => field.static || field.type.leaves.all fun leaf =>
        64 ≤ field.bitPosition || (leaf.moved field.bitPosition).eightbyte = leaf.eightbyte
    else if type.code = .array then
      type.length = 0 || type.target.all fun element => element.leaves.isEmpty ||
        type.leaves.any (·.eightbyte = (type.length - 1) / 8)
    else true

section Kinds

variable {code : TypeKind} {length : Nat} {traits : TypeTraits} {fields : List Field}
  {target : Option DataType}

theorem startsNear_members (members : code.hasMembers) (nonempty : 0 < length) :
    (mk code length traits fields target).startsNear ↔
      ∀ field ∈ fields, field.static = false → field.bitPosition < 128 := by
  have kind : (mk code length traits fields target).code.hasMembers := members
  rw [startsNear, kind, Bool.or_eq_true, Bool.or_eq_true, decide_eq_true_eq]
  simp [DataType.length, DataType.fields, Nat.ne_of_gt nonempty,
    Decidable.or_iff_not_imp_left]

theorem keepsEightbytes_members (members : code.hasMembers) :
    (mk code length traits fields target).keepsEightbytes ↔ length ≤ 16 ∧
      ∀ field ∈ fields, field.static = false → ∀ leaf ∈ field.type.leaves,
        64 ≤ field.bitPosition ∨ (leaf.moved field.bitPosition).eightbyte = leaf.eightbyte := by
  have kind : (mk code length traits fields target).code.hasMembers := members
  rw [keepsEightbytes, if_pos kind, Bool.and_eq_true, decide_eq_true_eq]
  simp [DataType.length, DataType.fields, Decidable.or_iff_not_imp_left]

theorem keepsEightbytes_array {element : DataType} :
    (mk .array length traits fields (some element)).keepsEightbytes ↔ length ≤ 16 ∧
      (length = 0 ∨ element.leaves = [] ∨
        ∃ leaf ∈ (mk .array length traits fields (some element)).leaves,
          leaf.eightbyte = (length - 1) / 8) := by
  have noMembers : ¬ (mk .array length traits fields (some element)).code.hasMembers := nofun
  have array : (mk .array length traits fields (some element)).code = .array := rfl
  rw [keepsEightbytes, if_neg noMembers, if_pos array, Bool.and_eq_true, decide_eq_true_eq,
    Bool.or_eq_true, decide_eq_true_eq]
  simp only [DataType.target, Option.all_some, Bool.or_eq_true, List.isEmpty_iff,
    List.any_eq_true, decide_eq_true_eq]
  rfl

end Kinds

/-- Leaves that a struct keeps in their eightbytes, and that are kept in them with the struct, are
kept in them without it. -/
theorem Flattens.keeps_keepsEightbytes {type flat : DataType} (step : Flattens type flat)
    (keeps : type.everywhere keepsEightbytes) : flat.keepsEightbytes := by
  cases step with
  | here members =>
    obtain ⟨whole, parts⟩ := (everywhere_members members).1 keeps
    obtain ⟨small, own⟩ := (keepsEightbytes_members members).1 whole
    rw [List.forall_mem_append, List.forall_mem_cons] at own parts
    have inner := ((keepsEightbytes_members rfl).1 (everywhere_here parts.2.1)).2
    rw [keepsEightbytes_members members, List.forall_mem_append, List.forall_mem_append,
      List.forall_mem_map]
    refine ⟨small, own.1, fun field listed real leaf found => ?_, own.2.2⟩
    have outer := own.2.1 rfl _ (mem_fieldLeaves.2 ⟨field, listed, real, leaf, found, rfl⟩)
    have inner := inner field listed real leaf found
    simp only [Leaf.eightbyte, Leaf.moved, Field.moved] at outer inner ⊢
    omega
  | member members before inner =>
    obtain ⟨whole, own⟩ := (keepsEightbytes_members members).1 (everywhere_here keeps)
    rw [keepsEightbytes_members members]
    rw [List.forall_mem_append, List.forall_mem_cons] at own ⊢
    rw [inner.same_leaves]
    exact ⟨whole, own⟩
  | element inner =>
    have whole := keepsEightbytes_array.1 (everywhere_here keeps)
    rw [keepsEightbytes_array, (element inner).same_leaves, inner.same_leaves]
    exact whole

end DataType

namespace Amd64

def classAt (leaves : List Leaf) (eightbyte : Nat) : EightbyteClass :=
  (leaves.filter (·.eightbyte = eightbyte)).foldl (fun merged leaf => merged.merge (leafClass leaf))
    .noClass

def leafClasses (leaves : List Leaf) : Classification := ⟨classAt leaves 0, classAt leaves 1⟩

def Fills (leaves : List Leaf) (eightbyte : Nat) (float : Bool) : Prop :=
  ∃ leaf ∈ leaves, leaf.eightbyte = eightbyte ∧ leaf.isFloat = float

instance (leaves : List Leaf) (eightbyte : Nat) (float : Bool) :
    Decidable (Fills leaves eightbyte float) :=
  inferInstanceAs (Decidable (∃ leaf ∈ leaves, _ ∧ _))

section Fills

variable {leaves others : List Leaf} {eightbyte : Nat} {float : Bool}

theorem fills_append : Fills (leaves ++ others) eightbyte float ↔
    Fills leaves eightbyte float ∨ Fills others eightbyte float := by
  simp [Fills, or_and_right, exists_or]

theorem fills_moved {distance : Nat} : Fills (leaves.map (·.moved distance)) eightbyte float ↔
    ∃ leaf ∈ leaves, (leaf.moved distance).eightbyte = eightbyte ∧ leaf.isFloat = float := by
  constructor
  · rintro ⟨_, found, place, kind⟩
    obtain ⟨leaf, listed, rfl⟩ := List.mem_map.1 found
    exact ⟨leaf, listed, place, kind⟩
  · rintro ⟨leaf, listed, place, kind⟩
    exact ⟨_, List.mem_map_of_mem listed, place, kind⟩

end Fills

theorem classAt_eq (leaves : List Leaf) (eightbyte : Nat) :
    classAt leaves eightbyte =
      .ofKinds (Fills leaves eightbyte false) (Fills leaves eightbyte true) := by
  have shared := sharedClass_eq (leaves.filter (·.eightbyte = eightbyte))
  exact shared.trans (EightbyteClass.ofKinds_congr (by simp [Fills, and_assoc])
    (by simp [Fills, and_assoc]))

theorem classAt_append (leaves others : List Leaf) (eightbyte : Nat) :
    classAt (leaves ++ others) eightbyte =
      (classAt leaves eightbyte).merge (classAt others eightbyte) := by
  rw [classAt_eq, classAt_eq, classAt_eq, EightbyteClass.merge_ofKinds]
  exact EightbyteClass.ofKinds_congr fills_append fills_append

theorem classAt_congr {leaves others : List Leaf} {eightbyte other : Nat}
    (same : ∀ float, Fills leaves eightbyte float ↔ Fills others other float) :
    classAt leaves eightbyte = classAt others other := by
  rw [classAt_eq, classAt_eq]
  exact EightbyteClass.ofKinds_congr (same false) (same true)

theorem classAt_eq_noClass {leaves : List Leaf} {eightbyte : Nat} :
    classAt leaves eightbyte = .noClass ↔ ∀ leaf ∈ leaves, leaf.eightbyte ≠ eightbyte := by
  have empty := @sharedClass_eq_noClass (leaves.filter (·.eightbyte = eightbyte))
  refine empty.trans ?_
  simp [List.filter_eq_nil_iff]

/-- The leaves that count for an eightbyte of a type make the same of it as those that lie in it. -/
def CountsInPlace (type : DataType) : Prop :=
  type.sentToMemory = false ∧ ∀ eightbyte < 2,
    sharedClass (type.countedLeaves eightbyte) = classAt type.leaves eightbyte

instance (type : DataType) : Decidable (CountsInPlace type) :=
  inferInstanceAs (Decidable (_ ∧ _))

theorem classify_eq_iff_countsInPlace {type : DataType} (plain : type.everywhere DataType.isPlain) :
    classify type = leafClasses type.leaves ↔ CountsInPlace type := by
  rw [classify_eq_countedClasses plain, countedClasses, CountsInPlace]
  cases type.sentToMemory with
  | true =>
    have outside : classAt type.leaves 0 ≠ .memory := by
      rw [classAt_eq]
      exact EightbyteClass.ofKinds_ne_memory
    simp [Classification.inMemory, leafClasses, outside.symm]
  | false =>
    constructor
    · intro same
      obtain ⟨first, second⟩ := Classification.mk.inj same
      refine ⟨rfl, fun eightbyte below => ?_⟩
      rcases Nat.le_one_iff_eq_zero_or_eq_one.1 (Nat.le_of_lt_succ below) with rfl | rfl
      · exact first
      · exact second
    · rintro ⟨-, same⟩
      exact congrArg₂ Classification.mk (same 0 Nat.zero_lt_two) (same 1 Nat.one_lt_two)

section Array

open DataType (repeated mem_repeated room_of_lt_div)

variable {inner : List Leaf} {length size distance : Nat}

theorem repeated_one {distance : Nat} : repeated 1 distance inner = inner := by
  simp [repeated, Leaf.moved]

theorem repeated_of_long (small : length ≤ 16) (long : 8 < size)
    (last : ∃ leaf ∈ repeated (length / size) (8 * size) inner,
      leaf.eightbyte = (length - 1) / 8) :
    repeated (length / size) (8 * size) inner = inner ∧ classAt inner 1 ≠ .noClass := by
  obtain ⟨_, found, inLast⟩ := last
  obtain ⟨index, below, leaf, listed, rfl⟩ := mem_repeated.1 found
  have room := room_of_lt_div below
  have only : length / size = 1 := by
    have few : length / size < 2 := Nat.div_lt_of_lt_mul (by omega)
    omega
  rw [only, repeated_one] at found ⊢
  refine ⟨rfl, fun empty => ?_⟩
  have elsewhere := classAt_eq_noClass.1 empty _ found
  omega

variable (scalars : ∀ leaf ∈ inner, leaf.code.isLeaf leaf.length)
  (inside : ∀ leaf ∈ inner, leaf.stop ≤ 8 * size)
include scalars inside

theorem position_lt {leaf : Leaf} (listed : leaf ∈ inner) : leaf.position < 8 * size := by
  have stops := inside leaf listed
  have long := TypeKind.pos_of_isLeaf (scalars leaf listed)
  unfold Leaf.stop at stops
  omega

/-- If some element in the second eightbyte of an array is not like another element, then one of
them is a floating-point number, and eightbytes consist of whole elements. -/
theorem fills_second (small : length ≤ 16) (short : size ≤ 8)
    (aligned : ∀ leaf ∈ repeated (length / size) (8 * size) inner,
      (distance + leaf.position) % (8 * leaf.length) = 0)
    (last : ∃ leaf ∈ repeated (length / size) (8 * size) inner, leaf.eightbyte = 1)
    {leaf : Leaf} (listed : leaf ∈ inner) :
    Fills (repeated (length / size) (8 * size) inner) 1 leaf.isFloat := by
  obtain ⟨_, found, second⟩ := last
  obtain ⟨index, below, other, otherListed, rfl⟩ := mem_repeated.1 found
  by_cases same : other.isFloat = leaf.isFloat
  · exact ⟨_, found, second, same⟩
  · obtain ⟨number, numberListed, float⟩ : ∃ number ∈ inner, number.isFloat := by
      cases kind : leaf.isFloat with
      | true => exact ⟨leaf, listed, kind⟩
      | false => exact ⟨other, otherListed, by simpa [kind] using same⟩
    -- The alignment of that floating-point number tells the size of an element.
    have early := position_lt scalars inside otherListed
    have late : 0 < index := by
      rcases Nat.eq_zero_or_pos index with rfl | late
      · simp only [Leaf.eightbyte, Leaf.moved] at second
        omega
      · exact late
    have whole : size = 4 ∨ size = 8 := by
      have here := aligned _ (mem_repeated.2 ⟨0, by omega, number, numberListed, rfl⟩)
      have next := aligned _ (mem_repeated.2 ⟨1, by omega, number, numberListed, rfl⟩)
      simp only [Leaf.moved] at here next
      rcases Leaf.length_of_isFloat (scalars number numberListed) float with wide | wide
      all_goals
        rw [wide] at here next
        omega
    refine ⟨_, mem_repeated.2 ⟨index, below, leaf, listed, rfl⟩, ?_, rfl⟩
    have room := room_of_lt_div below
    have place := position_lt scalars inside listed
    simp only [Leaf.eightbyte, Leaf.moved] at second ⊢
    rcases whole with rfl | rfl <;> omega

theorem eightbyte_of_short (short : size ≤ 8) {leaf : Leaf} (listed : leaf ∈ inner) :
    leaf.eightbyte = 0 := by
  have early := position_lt scalars inside listed
  unfold Leaf.eightbyte
  omega

theorem fills_of_repeated (short : size ≤ 8) {count distance eightbyte : Nat} {float : Bool}
    (filled : Fills (repeated count distance inner) eightbyte float) : Fills inner 0 float := by
  obtain ⟨_, found, -, kind⟩ := filled
  obtain ⟨index, -, leaf, listed, rfl⟩ := mem_repeated.1 found
  exact ⟨leaf, listed, eightbyte_of_short scalars inside short listed, kind⟩

theorem classAt_repeated_first (short : size ≤ 8) {count distance : Nat} (nonempty : 0 < count) :
    classAt (repeated count distance inner) 0 = classAt inner 0 := by
  apply classAt_congr
  intro float
  constructor
  · exact fills_of_repeated scalars inside short
  · rintro ⟨leaf, listed, early, kind⟩
    refine ⟨_, mem_repeated.2 ⟨0, nonempty, leaf, listed, rfl⟩, ?_, kind⟩
    simpa [Leaf.eightbyte, Leaf.moved] using early

theorem classAt_repeated_second (small : length ≤ 16) (short : size ≤ 8)
    (aligned : ∀ leaf ∈ repeated (length / size) (8 * size) inner,
      (distance + leaf.position) % (8 * leaf.length) = 0)
    (last : ∃ leaf ∈ repeated (length / size) (8 * size) inner, leaf.eightbyte = 1) :
    classAt (repeated (length / size) (8 * size) inner) 1 = classAt inner 0 := by
  apply classAt_congr
  intro float
  constructor
  · exact fills_of_repeated scalars inside short
  · rintro ⟨leaf, listed, -, rfl⟩
    exact fills_second scalars inside small short aligned last listed

/-- An array of one eightbyte has nothing in a second one. -/
theorem classAt_repeated_beyond (few : length ≤ 8) :
    classAt (repeated (length / size) (8 * size) inner) 1 = .noClass := by
  refine classAt_eq_noClass.2 fun leaf found => ?_
  obtain ⟨index, below, leaf, listed, rfl⟩ := mem_repeated.1 found
  have room := room_of_lt_div below
  have early := position_lt scalars inside listed
  have start : index * (8 * size) = 8 * (index * size) := Nat.mul_left_comm _ _ _
  simp only [Leaf.eightbyte, Leaf.moved]
  omega

/-- What counts for an eightbyte of an array of short elements makes of it what the elements in it
make of it. -/
theorem classAt_repeated_of_short (small : length ≤ 16) (short : size ≤ 8)
    (aligned : ∀ leaf ∈ repeated (length / size) (8 * size) inner,
      (distance + leaf.position) % (8 * leaf.length) = 0)
    (last : ∃ leaf ∈ repeated (length / size) (8 * size) inner,
      leaf.eightbyte = (length - 1) / 8) :
    classAt (repeated (length / size) (8 * size) inner) 0 = classAt inner 0 ∧
      classAt (repeated (length / size) (8 * size) inner) 1 =
        if 8 < length then classAt inner 0 else .noClass := by
  have nonempty : 0 < length / size := by
    obtain ⟨_, found, -⟩ := last
    obtain ⟨index, below, -⟩ := mem_repeated.1 found
    exact Nat.lt_of_le_of_lt (Nat.zero_le index) below
  refine ⟨classAt_repeated_first scalars inside short nonempty, ?_⟩
  by_cases long : 8 < length
  · have second : (length - 1) / 8 = 1 := by omega
    rw [second] at last
    rw [if_pos long, classAt_repeated_second scalars inside small short aligned last]
  · rw [if_neg long, classAt_repeated_beyond scalars inside (Nat.le_of_not_lt long)]

end Array

section Nested

open DataType

theorem leaves_eq_nil {type : DataType} (inside : type.holdsLeaves) (empty : type.length = 0) :
    type.leaves = [] := by
  refine List.eq_nil_iff_forall_not_mem.2 fun leaf listed => ?_
  have stops := stop_le_of_holdsLeaves inside listed
  have long := TypeKind.pos_of_isLeaf (isLeaf_of_mem_leaves listed)
  unfold Leaf.stop at stops
  omega

section Kinds

variable {code : TypeKind} {length : Nat} {traits : TypeTraits} {fields : List Field}
  {target : Option DataType}

/-- What counts for an eightbyte of a member that starts near enough counts where it lies. -/
theorem counted_member {type : DataType} {bitPosition eightbyte : Nat} (below : eightbyte < 2)
    (near : bitPosition < 128)
    (kept : ∀ leaf ∈ type.leaves, 64 ≤ bitPosition ∨ (leaf.moved bitPosition).eightbyte = leaf.eightbyte)
    (inside : ∀ leaf ∈ type.leaves, bitPosition + leaf.position < 128)
    (same : ∀ eightbyte < 2, sharedClass (type.countedLeaves eightbyte) = classAt type.leaves eightbyte) :
    sharedClass ((if bitPosition < 64 then type.countedLeaves eightbyte
      else if eightbyte = 1 then type.countedLeaves 0 else []).map (·.moved bitPosition)) =
      classAt (type.leaves.map (·.moved bitPosition)) eightbyte := by
  rw [sharedClass_moved]
  by_cases early : bitPosition < 64
  · rw [if_pos early, same eightbyte below]
    apply classAt_congr
    intro float
    rw [fills_moved]
    refine exists_congr fun leaf => and_congr_right fun listed => ?_
    rw [(kept leaf listed).resolve_left (Nat.not_le_of_lt early)]
  · have starts (leaf : Leaf) (listed : leaf ∈ type.leaves) :
        leaf.eightbyte = 0 ∧ (leaf.moved bitPosition).eightbyte = 1 := by
      have stops := inside leaf listed
      simp only [Leaf.eightbyte, Leaf.moved]
      omega
    rw [if_neg early]
    by_cases second : eightbyte = 1
    · rw [if_pos second, same 0 (by decide), second]
      apply classAt_congr
      intro float
      rw [fills_moved]
      refine exists_congr fun leaf => and_congr_right fun listed => ?_
      simp only [starts leaf listed]
    · rw [if_neg second]
      refine (classAt_eq_noClass.2 ?_).symm
      rw [List.forall_mem_map]
      intro leaf listed
      rw [(starts leaf listed).2]
      exact Ne.symm second

theorem counted_fields {eightbyte : Nat}
    (counted : ∀ field ∈ fields, field.static = false ∧
      sharedClass ((if field.bitPosition < 64 then field.type.countedLeaves eightbyte
        else if eightbyte = 1 then field.type.countedLeaves 0 else []).map
          (·.moved field.bitPosition)) =
        classAt (field.type.leaves.map (·.moved field.bitPosition)) eightbyte) :
    sharedClass (fieldsCounted fields eightbyte) = classAt (fieldLeaves fields) eightbyte := by
  induction fields with
  | nil => rfl
  | cons field rest ih =>
    obtain ⟨type, bitPosition, static, baseClass⟩ := field
    obtain ⟨⟨rfl, own⟩, others⟩ := List.forall_mem_cons.1 counted
    simp only [fieldsCounted, fieldLeaves, Bool.false_eq_true, if_false]
    rw [sharedClass_append, classAt_append, own, ih others]

theorem countsInPlace_scalar (noMembers : code.hasMembers = false) (notArray : code ≠ .array)
    (isLeaf : code.isLeaf length) : CountsInPlace (mk code length traits fields target) := by
  have own : (mk code length traits fields target).leaves = [⟨code, length, 0⟩] := by
    simp [leaves, noMembers, notArray, isLeaf]
  refine ⟨by simp [sentToMemory, noMembers, notArray], fun eightbyte below => ?_⟩
  rw [own]
  rcases (show eightbyte = 0 ∨ eightbyte = 1 by omega) with rfl | rfl
  · simp [countedLeaves, noMembers, notArray, isLeaf, classAt, sharedClass, Leaf.eightbyte]
  · simp [countedLeaves, noMembers, notArray, classAt, sharedClass, Leaf.eightbyte]

theorem countsInPlace_members (members : code.hasMembers)
    (plain : (mk code length traits fields target).isPlain)
    (inside : (mk code length traits fields target).holdsLeaves)
    (near : (mk code length traits fields target).startsNear)
    (keeps : (mk code length traits fields target).keepsEightbytes)
    (same : ∀ field ∈ fields, CountsInPlace field.type) :
    CountsInPlace (mk code length traits fields target) := by
  obtain ⟨small, kept⟩ := (keepsEightbytes_members members).1 keeps
  have real := ((isPlain_members members).1 plain).2
  unfold CountsInPlace
  simp only [sentToMemory, countedLeaves, members, if_true]
  rcases Nat.eq_zero_or_pos length with rfl | nonempty
  · rw [leaves_eq_nil inside rfl]
    exact ⟨rfl, fun _ _ => rfl⟩
  · have near := (startsNear_members members nonempty).1 near
    constructor
    · have outside : fieldsSent fields = false := by
        refine Bool.eq_false_iff.2 fun sent => ?_
        obtain ⟨field, listed, real, late | sent⟩ := fieldsSent_iff.1 sent
        · exact absurd (near field listed real) (Nat.not_lt_of_le late)
        · rw [(same field listed).1] at sent
          cases sent
      simp [small, outside]
    · intro eightbyte below
      rw [leaves_members members, if_neg (Nat.ne_of_gt nonempty)]
      refine counted_fields fun field listed => ?_
      have real := (real field listed).1
      refine ⟨real, counted_member below (near field listed real) (kept field listed real) ?_
        (same field listed).2⟩
      intro leaf inner
      have stops := stop_le_of_holdsLeaves inside (moved_mem_leaves members listed real inner)
      have long := TypeKind.pos_of_isLeaf (isLeaf_of_mem_leaves inner)
      simp only [Leaf.stop, Leaf.moved, DataType.length] at stops
      omega

/-- What counts for an eightbyte of an array that is filled up to its last eightbyte counts where
it lies. -/
theorem counted_elements {element : DataType} {distance : Nat}
    (small : length ≤ 16) (inside : element.holdsLeaves)
    (aligned : ∀ leaf ∈ repeated (length / element.length) (8 * element.length) element.leaves,
      (distance + leaf.position) % (8 * leaf.length) = 0)
    (last : ∃ leaf ∈ repeated (length / element.length) (8 * element.length) element.leaves,
      leaf.eightbyte = (length - 1) / 8)
    (same : ∀ eightbyte < 2,
      sharedClass (element.countedLeaves eightbyte) = classAt element.leaves eightbyte)
    {eightbyte : Nat} (below : eightbyte < 2) :
    sharedClass (targetCounted length (some element) eightbyte) =
      classAt (repeated (length / element.length) (8 * element.length) element.leaves)
        eightbyte := by
  have scalars (leaf : Leaf) (listed : leaf ∈ element.leaves) := isLeaf_of_mem_leaves listed
  have inside (leaf : Leaf) (listed : leaf ∈ element.leaves) := stop_le_of_holdsLeaves inside listed
  have second := same 1 (by decide)
  simp only [targetCounted, List.isEmpty_iff, ← sharedClass_eq_noClass, second]
  rcases Nat.lt_or_ge 8 element.length with long | short
  · obtain ⟨only, filled⟩ := repeated_of_long small long last
    rw [if_neg (fun spread => filled spread.2), only, same eightbyte below]
  · have lower : classAt element.leaves 1 = .noClass := classAt_eq_noClass.2 fun leaf listed => by
      rw [eightbyte_of_short scalars inside short listed]
      decide
    obtain ⟨onFirst, onSecond⟩ := classAt_repeated_of_short scalars inside small short aligned last
    simp only [lower, and_true]
    rcases Nat.le_one_iff_eq_zero_or_eq_one.1 (Nat.le_of_lt_succ below) with rfl | rfl
    · rw [ite_self, onFirst, same 0 below]
    · rw [onSecond, apply_ite sharedClass, same 0 (by decide), second, lower]

theorem countsInPlace_elements {element : DataType} {distance : Nat}
    (inside : (mk .array length traits fields (some element)).holdsLeaves)
    (insideElement : element.holdsLeaves)
    (keeps : (mk .array length traits fields (some element)).keepsEightbytes)
    (aligned : (mk .array length traits fields (some element)).alignedFrom distance)
    (same : element.alignedFrom distance → CountsInPlace element) :
    CountsInPlace (mk .array length traits fields (some element)) := by
  obtain ⟨small, filled⟩ := keepsEightbytes_array.1 keeps
  have alignedElements := alignedFrom_iff.1 aligned
  rcases Nat.eq_zero_or_pos length with rfl | nonempty
  · rw [CountsInPlace, leaves_eq_nil inside rfl]
    exact ⟨rfl, fun _ _ => rfl⟩
  rw [leaves_array] at filled alignedElements
  -- The first element starts where the array does.
  have alignedElement : element.alignedFrom distance := by
    refine alignedFrom_iff.2 fun leaf listed => ?_
    rcases filled.resolve_left (Nat.ne_of_gt nonempty) with none | ⟨_, found, -⟩
    · rw [none] at listed
      cases listed
    · obtain ⟨index, below, -⟩ := mem_repeated.1 found
      have first := alignedElements _ (mem_repeated.2 ⟨0, by omega, leaf, listed, rfl⟩)
      simpa [Leaf.moved] using first
  obtain ⟨outside, same⟩ := same alignedElement
  constructor
  · simp [sentToMemory, targetSent, TypeKind.hasMembers, small, outside]
  · intro eightbyte below
    have counted : (mk .array length traits fields (some element)).countedLeaves eightbyte =
        targetCounted length (some element) eightbyte := by
      simp [countedLeaves, TypeKind.hasMembers, Nat.ne_of_gt nonempty]
    rw [counted, leaves_array]
    rcases filled.resolve_left (Nat.ne_of_gt nonempty) with none | last
    · have empty (eightbyte : Nat) (below : eightbyte < 2) : element.countedLeaves eightbyte = [] :=
        sharedClass_eq_noClass.1 ((same eightbyte below).trans (by rw [none]; rfl))
      have nothing : repeated (length / element.length) (8 * element.length) [] = [] := by
        simp [repeated]
      rw [none, nothing, targetCounted, empty 0 (by decide), empty eightbyte below, ite_self]
      rfl
    · exact counted_elements small insideElement alignedElements last same below

end Kinds

theorem countsInPlace_of_keeps {type : DataType} {distance : Nat}
    (plain : type.everywhere isPlain) (inside : type.everywhere holdsLeaves)
    (near : type.everywhere startsNear) (keeps : type.everywhere keepsEightbytes)
    (aligned : type.alignedFrom distance) : CountsInPlace type := by
  -- A part is aligned from where it starts, so the distance grows on the way down.
  induction type using DataType.nested generalizing distance with
  | scalar code length traits fields target noMembers notArray =>
    have isLeaf := (isPlain_scalar noMembers notArray).1 (everywhere_here plain)
    exact countsInPlace_scalar noMembers notArray isLeaf
  | aggregate code length traits fields target members ih =>
    obtain ⟨plain, plainParts⟩ := (everywhere_members members).1 plain
    obtain ⟨inside, insideParts⟩ := (everywhere_members members).1 inside
    obtain ⟨near, nearParts⟩ := (everywhere_members members).1 near
    obtain ⟨keeps, keepsParts⟩ := (everywhere_members members).1 keeps
    refine countsInPlace_members members plain inside near keeps fun field listed => ?_
    have real := (((isPlain_members members).1 plain).2 field listed).1
    have alignedPart : field.type.alignedFrom (distance + field.bitPosition) := by
      refine alignedFrom_iff.2 fun leaf inner => ?_
      rw [Nat.add_assoc]
      exact alignedFrom_iff.1 aligned _ (moved_mem_leaves members listed real inner)
    exact ih field listed (plainParts field listed) (insideParts field listed)
      (nearParts field listed) (keepsParts field listed) alignedPart
  | array length traits fields target ih =>
    cases target with
    | none =>
      have known := everywhere_here plain
      simp [isPlain, DataType.code, DataType.target, TypeKind.hasMembers] at known
    | some element =>
      have plainElement := (everywhere_array.1 plain).2
      obtain ⟨inside, insideElement⟩ := everywhere_array.1 inside
      have nearElement := (everywhere_array.1 near).2
      obtain ⟨keeps, keepsElement⟩ := everywhere_array.1 keeps
      exact countsInPlace_elements inside (everywhere_here insideElement) keeps aligned
        fun alignedElement =>
          ih element rfl plainElement insideElement nearElement keepsElement alignedElement

/-- A small aggregate remains one however the structs in it are dissolved, and so do its leaves. -/
theorem SmallAggregate.flattened {type flat : DataType} (whole : type.SmallAggregate)
    (steps : Relation.ReflTransGen Flattens type flat) :
    flat.SmallAggregate ∧ flat.leaves = type.leaves ∧
      (type.everywhere keepsEightbytes → flat.everywhere keepsEightbytes) := by
  induction steps with
  | refl => exact ⟨whole, rfl, id⟩
  | tail _ step ih =>
    obtain ⟨whole, same, keeps⟩ := ih
    exact ⟨step.keeps_smallAggregate whole, step.same_leaves.trans same, fun kept =>
      step.keeps_everywhere Flattens.keeps_keepsEightbytes (keeps kept)⟩

/-- The classes of a small aggregate are those of its leaves exactly if these count where they lie,
and remain the same exactly as long as they do so when structs in it are dissolved. They do if its parts
keep them in their eightbytes. -/
theorem classify_follows_leaves {type : DataType} (whole : type.SmallAggregate) :
    (classify type = leafClasses type.leaves ↔ CountsInPlace type) ∧
      (CountsInPlace type → ∀ flat, Relation.ReflTransGen Flattens type flat →
        (classify flat = classify type ↔ CountsInPlace flat)) ∧
      (type.everywhere startsNear → type.everywhere keepsEightbytes →
        classify type = leafClasses type.leaves ∧
          ∀ flat, Relation.ReflTransGen Flattens type flat → flat.everywhere startsNear →
            classify flat = classify type) := by
  have direct := classify_eq_iff_countsInPlace whole.plain
  have flattened (counts : CountsInPlace type) (flat : DataType)
      (steps : Relation.ReflTransGen Flattens type flat) :
      classify flat = classify type ↔ CountsInPlace flat := by
    obtain ⟨small, same, -⟩ := SmallAggregate.flattened whole steps
    rw [direct.2 counts, ← same]
    exact classify_eq_iff_countsInPlace small.plain
  refine ⟨direct, flattened, fun near keeps => ?_⟩
  have counts := countsInPlace_of_keeps whole.plain whole.inside near keeps whole.aligned
  refine ⟨direct.2 counts, fun flat steps near => (flattened counts flat steps).2 ?_⟩
  obtain ⟨small, -, keeps'⟩ := SmallAggregate.flattened whole steps
  exact countsInPlace_of_keeps small.plain small.inside near (keeps' keeps) small.aligned

/-- Two floating-point numbers, then a struct of an integer and another one. -/
def numberPair : DataType :=
  .struct 16 [.member (.array (.float 4) 2) 0,
    .member (.struct 8 [.member (.int 4) 0, .member (.float 4) 4]) 8]

def flatNumberPair : DataType :=
  .struct 16 [.member (.array (.float 4) 2) 0, .member (.int 4) 8, .member (.float 4) 12]

theorem numberPair_flattens : Flattens numberPair flatNumberPair :=
  .here rfl [.member (.array (.float 4) 2) 0]

theorem straddlingFilled_flattens : Flattens straddlingFilled
    (.struct 16 [.member (.int 4) 0, .member (.int 4) 4, .member (.int 4) 8, .member (.int 4) 12]) :=
  .here rfl [.member (.int 4) 0]

theorem classify_numberPair : (numberPair.SmallAggregate ∧
    numberPair.everywhere startsNear ∧ numberPair.everywhere keepsEightbytes ∧
      flatNumberPair.everywhere startsNear ∧ classify numberPair = leafClasses numberPair.leaves ∧
        classify flatNumberPair = classify numberPair) ∧
    straddlingFilled.SmallAggregate ∧ straddlingFilled.keepsEightbytes = false ∧
      CountsInPlace straddlingFilled ∧
      classify straddlingFilled = leafClasses straddlingFilled.leaves ∧
        classify (.struct 16 [.member (.int 4) 0, .member (.int 4) 4, .member (.int 4) 8,
          .member (.int 4) 12]) = classify straddlingFilled := by
  constructor
  · have whole : numberPair.SmallAggregate := ⟨.inl rfl, by decide, by decide, rfl, rfl, rfl⟩
    have near : numberPair.everywhere startsNear := rfl
    have keeps : numberPair.everywhere keepsEightbytes := rfl
    have nearFlat : flatNumberPair.everywhere startsNear := rfl
    obtain ⟨classes, flatten⟩ := (classify_follows_leaves whole).2.2 near keeps
    exact ⟨whole, near, keeps, nearFlat, classes, flatten _ (.single numberPair_flattens) nearFlat⟩
  · have whole : straddlingFilled.SmallAggregate := ⟨.inl rfl, by decide, by decide, rfl, rfl, rfl⟩
    obtain ⟨direct, flattened, -⟩ := classify_follows_leaves whole
    have counts : CountsInPlace straddlingFilled := by decide
    exact ⟨whole, by decide, counts, direct.2 counts,
      (flattened counts _ (.single straddlingFilled_flattens)).2 (by decide)⟩

/-- The second number of a straddling pair is missed in the pair, but not on its own. -/
theorem not_all_classes_of_leaves :
    (¬ ∀ type : DataType, type.SmallAggregate → classify type = leafClasses type.leaves) ∧
      ¬ ∀ type flat : DataType, type.SmallAggregate → Relation.ReflTransGen Flattens type flat →
        classify flat = classify type := by
  have whole : straddling.SmallAggregate := ⟨.inl rfl, by decide, by decide, rfl, rfl, rfl⟩
  constructor
  · intro always
    have missed := always straddling whole
    exact absurd missed (by decide)
  · intro always
    have step : Flattens straddling
        (.struct 12 [.member (.int 4) 0, .member (.int 4) 4, .member (.int 4) 8]) :=
      .here rfl [.member (.int 4) 0]
    have missed := always _ _ whole (.single step)
    exact absurd missed (by decide)

end Nested

end Amd64

end Inferior

import Inferior.Proofs.ArgumentPlanning

/-! What the registers for arguments are used for, read off a layout.

The eightbytes of a class take the registers of that class one after the other, whichever arguments
they belong to. So the number of them in the earlier arguments says what an argument finds free, and
thereby whether it goes to the stack.
-/

set_option autoImplicit false

namespace Inferior.Amd64

namespace ArgumentPlace

def part? : ArgumentPlace → Option (EightbyteClass × Nat)
  | .register eightbyteClass eightbyte _ _ => some (eightbyteClass, eightbyte)
  | .stack _ _ => none

def slot? (eightbyteClass : EightbyteClass) : ArgumentPlace → Option (Nat × Nat)
  | .register own _ number offset => if own = eightbyteClass then some (number, offset) else none
  | .stack _ _ => none

end ArgumentPlace

namespace ArgumentLayout

def slots (eightbyteClass : EightbyteClass) (places : List ArgumentPlace) : List (Nat × Nat) :=
  places.filterMap (ArgumentPlace.slot? eightbyteClass)

theorem slots_append (eightbyteClass : EightbyteClass) (first second : List ArgumentPlace) :
    slots eightbyteClass (first ++ second) =
      slots eightbyteClass first ++ slots eightbyteClass second :=
  List.filterMap_append ..

def spilledEightbytes : List ArgumentPlace → Nat
  | [] => 0
  | .register _ _ _ _ :: rest => spilledEightbytes rest
  | .stack _ length :: rest => eightbytes length + spilledEightbytes rest

theorem spilledEightbytes_append (first second : List ArgumentPlace) :
    spilledEightbytes (first ++ second) = spilledEightbytes first + spilledEightbytes second := by
  induction first with
  | nil => exact (Nat.zero_add _).symm
  | cons place rest ih =>
    cases place with
    | register => exact ih
    | stack offset length =>
      rw [List.cons_append, spilledEightbytes, spilledEightbytes, ih, Nat.add_assoc]

def Usage.advance (usage : Usage) (places : List ArgumentPlace) : Usage where
  integers := usage.integers + (slots .integer places).length
  sses := usage.sses + (slots .sse places).length
  stackEightbytes := usage.stackEightbytes + spilledEightbytes places

theorem Usage.advance_append (usage : Usage) (first second : List ArgumentPlace) :
    usage.advance (first ++ second) = (usage.advance first).advance second := by
  simp only [advance, slots_append, List.length_append, spilledEightbytes_append, Nat.add_assoc]

/-- The places of a class are in the next free registers for it. -/
structure TakesNext (usage : Usage) (places : List ArgumentPlace) : Prop where
  integers : slots .integer places <+: (integerArguments.drop usage.integers).map (·, 0)
  sses : slots .sse places <+: (sseArguments.drop usage.sses).map (·, 0)

theorem TakesNext.nil (usage : Usage) : TakesNext usage [] :=
  ⟨List.nil_prefix, List.nil_prefix⟩

/-- What comes after some free registers is free once they are taken. -/
theorem prefix_append_of_drop {first second : List (Nat × Nat)} {registers : List Nat} {used : Nat}
    (one : first <+: (registers.drop used).map (·, 0))
    (two : second <+: (registers.drop (used + first.length)).map (·, 0)) :
    first ++ second <+: (registers.drop used).map (·, 0) := by
  obtain ⟨others, whole⟩ := one
  rw [← List.drop_drop, List.map_drop, ← whole, List.drop_left] at two
  rw [← whole]
  exact (List.prefix_append_right_inj first).2 two

theorem TakesNext.append {usage : Usage} {first second : List ArgumentPlace}
    (one : TakesNext usage first) (two : TakesNext (usage.advance first) second) :
    TakesNext usage (first ++ second) := by
  constructor
  · rw [slots_append]
    exact prefix_append_of_drop one.integers two.integers
  · rw [slots_append]
    exact prefix_append_of_drop one.sses two.sses

theorem singleton_prefix_drop {registers : List Nat} {used number : Nat}
    (listed : registers[used]? = some number) :
    [(number, 0)] <+: (registers.drop used).map (·, 0) := by
  obtain ⟨inside, rfl⟩ := List.getElem?_eq_some_iff.1 listed
  rw [List.drop_eq_getElem_cons inside]
  exact List.prefix_append [_] _

theorem Placed.takesNext {usage after : Usage} {eightbyteClass : EightbyteClass}
    {slot : Option (Nat × Nat)} (placed : Placed usage eightbyteClass slot after) (eightbyte : Nat) :
    TakesNext usage (registerPlace? eightbyteClass eightbyte slot) ∧
      after = usage.advance (registerPlace? eightbyteClass eightbyte slot) := by
  cases placed with
  | integer listed => exact ⟨⟨singleton_prefix_drop listed, List.nil_prefix⟩, rfl⟩
  | sse listed => exact ⟨⟨List.nil_prefix, singleton_prefix_drop listed⟩, rfl⟩
  | upperHalf => exact ⟨⟨List.nil_prefix, List.nil_prefix⟩, rfl⟩
  | padding => exact ⟨.nil _, rfl⟩

theorem Placed.part {usage after : Usage} {eightbyteClass : EightbyteClass}
    {slot : Option (Nat × Nat)} (placed : Placed usage eightbyteClass slot after) (eightbyte : Nat) :
    (registerPlace? eightbyteClass eightbyte slot).map ArgumentPlace.part? =
      ([(eightbyteClass, eightbyte)].filter (·.1 ≠ .noClass)).map some := by
  cases placed <;> rfl

theorem placeEightbytes_takesNext {usage after : Usage} {parts : List (EightbyteClass × Nat)}
    {places : List ArgumentPlace} (placed : placeEightbytes usage parts = .ok (places, after)) :
    TakesNext usage places ∧ after = usage.advance places := by
  induction parts generalizing usage places with
  | nil =>
    cases placed
    exact ⟨.nil _, rfl⟩
  | cons part rest ih =>
    obtain ⟨slot, middle, others, here, there, rfl⟩ := placeEightbytes_cons placed
    obtain ⟨next, rfl⟩ := here.takesNext part.2
    obtain ⟨others, same⟩ := ih there
    exact ⟨next.append others, same.trans (Usage.advance_append ..).symm⟩

theorem placeEightbytes_parts {usage after : Usage} {parts : List (EightbyteClass × Nat)}
    {places : List ArgumentPlace} (placed : placeEightbytes usage parts = .ok (places, after)) :
    places.map ArgumentPlace.part? = (parts.filter (·.1 ≠ .noClass)).map some := by
  induction parts generalizing usage places with
  | nil =>
    cases placed
    rfl
  | cons part rest ih =>
    obtain ⟨slot, middle, others, here, there, rfl⟩ := placeEightbytes_cons placed
    rw [List.map_append, here.part, ih there, ← List.map_append, ← List.filter_append]
    rfl

/-- An upper half follows the eightbyte before it, in the same register. -/
def HalvesMeet (places : List ArgumentPlace) : Prop :=
  ∀ index eightbyte number offset,
    places[index]? = some (.register .sseUp eightbyte number offset) →
      offset = 8 ∧ ∃ before lower, index = before + 1 ∧ eightbyte = lower + 1 ∧
        places[before]? = some (.register .sse lower number 0)

theorem halvesMeet_of_placeEightbytes {usage after : Usage} {classes : Classification}
    (paired : classes.Paired) {count : Nat} {places : List ArgumentPlace}
    (placed : placeEightbytes usage (classes.toList.zipIdx.take count) = .ok (places, after)) :
    HalvesMeet places := by
  intro index eightbyte number offset found
  have listed : (.sseUp, eightbyte) ∈ classes.toList.zipIdx.take count := by
    have member := List.mem_map_of_mem (f := ArgumentPlace.part?) (List.mem_of_getElem? found)
    rw [placeEightbytes_parts placed] at member
    obtain ⟨part, selected, same⟩ := List.mem_map.1 member
    cases same
    exact (List.mem_filter.1 selected).1
  -- Only the second of two eightbytes can be an upper half, and the first is its lower half then.
  match count with
  | 0 => cases listed
  | 1 => exact absurd (congrArg Prod.fst (List.mem_singleton.1 listed)).symm paired.lower
  | count + 2 =>
    obtain ⟨slot, middle, others, first, further, rfl⟩ := placeEightbytes_cons placed
    obtain ⟨slot', after', others', second, rest, rfl⟩ := placeEightbytes_cons further
    rw [List.zipIdx_nil, List.take_nil] at rest
    cases rest
    have upper : classes.second = .sseUp ∧ eightbyte = 1 := by
      rcases List.mem_cons.1 listed with same | listed
      · exact absurd (congrArg Prod.fst same).symm paired.lower
      · have same := List.mem_singleton.1 (List.mem_of_mem_take listed)
        exact ⟨(congrArg Prod.fst same).symm, congrArg Prod.snd same⟩
    rw [paired.upper upper.1] at first found ⊢
    rw [upper.1] at second found ⊢
    cases first with
    | sse register =>
      cases second with
      | upperHalf taken register' =>
        cases taken
        cases register.symm.trans register'
        match index with
        | 0 => cases found
        | 1 =>
          cases found
          exact ⟨rfl, 0, 0, rfl, rfl, rfl⟩
        | _ + 2 => cases found

/-- The places of an argument, given what the earlier ones have taken. -/
structure Undivided (taken : Usage) (type : DataType) (places : List ArgumentPlace) : Prop where
  /-- All of the argument is on the stack, or all of it that is not padding in registers. -/
  whole : places = [.stack (8 * taken.stackEightbytes) type.length] ∨
    places.map ArgumentPlace.part? =
      (((classify type).toList.zipIdx.take (eightbytes type.length)).filter
        (·.1 ≠ .noClass)).map some
  onStack : (∃ offset length, .stack offset length ∈ places) ↔
    (classify type).integerCount = 0 ∧ (classify type).sseCount = 0 ∨
      integerArguments.length < taken.integers + (classify type).integerCount ∨
      sseArguments.length < taken.sses + (classify type).sseCount
  halvesMeet : HalvesMeet places

theorem spills_iff {usage : Usage} {classes : Classification} :
    spills usage classes ↔ classes.integerCount = 0 ∧ classes.sseCount = 0 ∨
      integerArguments.length < usage.integers + classes.integerCount ∨
      sseArguments.length < usage.sses + classes.sseCount := by
  unfold spills
  simp only [Bool.or_eq_true, Bool.and_eq_true, decide_eq_true_eq, beq_iff_eq, gt_iff_lt]
  rw [or_comm]

theorem placeArgument_allocates {usage after : Usage} {type : DataType}
    {places : List ArgumentPlace} (placed : placeArgument usage type = .ok (places, after)) :
    TakesNext usage places ∧ after = usage.advance places ∧ Undivided usage type places := by
  rw [placeArgument] at placed
  split at placed
  · rename_i spilled
    cases placed
    refine ⟨⟨List.nil_prefix, List.nil_prefix⟩, rfl, .inl rfl, ?_, ?_⟩
    · exact iff_of_true ⟨_, _, List.mem_singleton_self _⟩ (spills_iff.1 spilled)
    · intro index eightbyte number offset found
      cases List.mem_singleton.1 (List.mem_of_getElem? found)
  · rename_i held
    split at placed
    · cases placed
    · have parts := placeEightbytes_parts placed
      obtain ⟨next, advanced⟩ := placeEightbytes_takesNext placed
      refine ⟨next, advanced, .inr parts, iff_of_false ?_ (held ∘ spills_iff.2),
        halvesMeet_of_placeEightbytes (paired_classify type) placed⟩
      rintro ⟨offset, length, listed⟩
      have member := List.mem_map_of_mem (f := ArgumentPlace.part?) listed
      rw [parts] at member
      obtain ⟨part, -, same⟩ := List.mem_map.1 member
      cases same

theorem placeArguments_allocates {usage after : Usage} {arguments : List Value}
    {places : List (List ArgumentPlace)}
    (placed : placeArguments usage arguments = .ok (places, after)) :
    TakesNext usage places.flatten ∧ after = usage.advance places.flatten ∧
      places.length = arguments.length ∧
      ∀ (index : Nat) (argument : Value) (own : List ArgumentPlace),
        arguments[index]? = some argument → places[index]? = some own →
          Undivided (usage.advance (places.take index).flatten) argument.type own := by
  -- The usage that an argument starts from is the one before the first argument, advanced by the
  -- places in between.
  induction arguments generalizing usage places with
  | nil =>
    cases placed
    exact ⟨.nil _, rfl, rfl, nofun⟩
  | cons argument rest ih =>
    rw [placeArguments_cons] at placed
    obtain ⟨⟨own, middle⟩, here, placed⟩ := bind_eq_ok.1 placed
    obtain ⟨⟨others, last⟩, there, placed⟩ := bind_eq_ok.1 placed
    cases placed
    obtain ⟨next, rfl, undivided⟩ := placeArgument_allocates here
    obtain ⟨next', same, length, each⟩ := ih there
    refine ⟨next.append next', same.trans (Usage.advance_append ..).symm,
      congrArg Nat.succ length, ?_⟩
    intro index argument' own' listed listed'
    cases index with
    | zero =>
      cases listed
      cases listed'
      exact undivided
    | succ index =>
      have further := each index argument' own' listed listed'
      rwa [← Usage.advance_append] at further

/-- The registers and the stack are handed out to the arguments in order and without gaps. -/
structure Allocates (layout : ArgumentLayout) (arguments : List Value) (structReturn : Bool) :
    Prop where
  length : layout.places.length = arguments.length
  integers : slots .integer layout.places.flatten =
    ((integerArguments.take layout.integersUsed).drop (reserved structReturn).integers).map (·, 0)
  integersUsed : (reserved structReturn).integers ≤ layout.integersUsed ∧
    layout.integersUsed ≤ integerArguments.length
  sses : slots .sse layout.places.flatten = (sseArguments.take layout.ssesUsed).map (·, 0)
  ssesUsed : layout.ssesUsed ≤ sseArguments.length
  stackEightbytes : layout.stackEightbytes = spilledEightbytes layout.places.flatten
  undivided (index : Nat) (argument : Value) (own : List ArgumentPlace)
    (passed : arguments[index]? = some argument) (placed : layout.places[index]? = some own) :
    Undivided ((reserved structReturn).advance (layout.places.take index).flatten) argument.type own

/-- Registers that are taken one after the other are those up to the last one that is used. -/
theorem slots_of_prefix {slots : List (Nat × Nat)} {registers : List Nat} {used : Nat}
    (next : slots <+: (registers.drop used).map (·, 0)) (few : used ≤ registers.length) :
    slots = ((registers.take (used + slots.length)).drop used).map (·, 0) ∧
      used + slots.length ≤ registers.length := by
  have short := next.length_le
  rw [List.length_map, List.length_drop] at short
  refine ⟨?_, by omega⟩
  rw [List.drop_take, Nat.add_sub_cancel_left, List.map_take]
  exact List.prefix_iff_eq_take.1 next

end ArgumentLayout

/-- Arguments are given the free registers in order: none is left out, used twice or kept for an
argument that is not passed in it. -/
theorem layOutArguments_allocates {arguments : List Value} {structReturn : Bool}
    {layout : ArgumentLayout} (planned : layOutArguments arguments structReturn = .ok layout) :
    layout.Allocates arguments structReturn := by
  obtain ⟨⟨places, usage⟩, placed, planned⟩ := bind_eq_ok.1 planned
  cases planned
  obtain ⟨next, rfl, length, each⟩ := ArgumentLayout.placeArguments_allocates placed
  have few : (ArgumentLayout.reserved structReturn).integers ≤ integerArguments.length := by
    cases structReturn <;> decide
  obtain ⟨integers, integersUsed⟩ := ArgumentLayout.slots_of_prefix next.integers few
  obtain ⟨sses, ssesUsed⟩ := ArgumentLayout.slots_of_prefix next.sses (Nat.zero_le _)
  exact ⟨length, integers, ⟨Nat.le_add_right _ _, integersUsed⟩, sses, ssesUsed,
    Nat.zero_add _, each⟩

theorem layOutArguments_allocates_sampleArguments :
    layOutArguments sampleArguments true = .ok sampleLayout ∧
      sampleLayout.Allocates sampleArguments true :=
  ⟨rfl, layOutArguments_allocates rfl⟩

end Inferior.Amd64

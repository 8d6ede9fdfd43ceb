import Inferior.Amd64.Arguments
import Inferior.Attempt
import Inferior.Proofs.ClassPairs

/-! The places of arguments keep out of each other's way.

Each argument takes its places from what the earlier ones have left. So what is taken between two
points of the planning lies apart from all that is taken later, and within one argument only the two
halves of an SSE register come close to each other.
-/

set_option autoImplicit false

namespace Inferior.Amd64

def ArgumentPlace.Apart : ArgumentPlace → ArgumentPlace → Prop
  | .register _ _ number offset, .register _ _ number' offset' =>
    number ≠ number' ∨ offset + 8 ≤ offset' ∨ offset' + 8 ≤ offset
  | .stack offset length, .stack offset' length' =>
    offset + length ≤ offset' ∨ offset' + length' ≤ offset
  | _, _ => True

/-- Whether a place is one for a part of a value of a length, or for the whole of it. -/
def ArgumentPlace.Fits (length : Nat) : ArgumentPlace → Prop
  | .register _ eightbyte _ _ => 8 * eightbyte < length
  | .stack _ length' => length' = length

namespace Classification

/-- An upper half of an SSE register follows the lower one. -/
structure Paired (classes : Classification) : Prop where
  lower : classes.first ≠ .sseUp
  upper (half : classes.second = .sseUp) : classes.first = .sse

end Classification

theorem paired_classify (type : DataType) : (classify type).Paired where
  lower same := by
    have leads := (wellFormed_classify type).leads
    rw [same] at leads
    exact absurd leads (by decide)
  upper := (wellFormed_classify type).upperHalf

namespace ArgumentLayout

/-- More is taken, or as much as before, but no more SSE registers than there are. -/
structure Usage.Grows (before after : Usage) : Prop where
  integers : before.integers ≤ after.integers
  sses : before.sses ≤ after.sses
  stack : before.stackEightbytes ≤ after.stackEightbytes
  bounded (few : before.sses ≤ sseArguments.length) : after.sses ≤ sseArguments.length

theorem Usage.Grows.refl (usage : Usage) : usage.Grows usage :=
  ⟨Nat.le_refl _, Nat.le_refl _, Nat.le_refl _, id⟩

theorem Usage.Grows.trans {first second third : Usage} (one : first.Grows second)
    (two : second.Grows third) : first.Grows third :=
  ⟨Nat.le_trans one.integers two.integers, Nat.le_trans one.sses two.sses,
    Nat.le_trans one.stack two.stack, two.bounded ∘ one.bounded⟩

inductive Taken (before after : Usage) : ArgumentPlace → Prop where
  | integer {eightbyteClass : EightbyteClass} {eightbyte index number : Nat}
      (start : before.integers ≤ index) (stop : index < after.integers)
      (listed : integerArguments[index]? = some number) :
      Taken before after (.register eightbyteClass eightbyte number 0)
  | sse {eightbyteClass : EightbyteClass} {eightbyte index number offset : Nat}
      (start : before.sses ≤ index) (stop : index < after.sses)
      (listed : sseArguments[index]? = some number) (half : offset = 0 ∨ offset = 8) :
      Taken before after (.register eightbyteClass eightbyte number offset)
  | stack {offset length : Nat} (start : 8 * before.stackEightbytes ≤ offset)
      (stop : offset + length ≤ 8 * after.stackEightbytes) :
      Taken before after (.stack offset length)

theorem Taken.mono {before after before' after' : Usage} {place : ArgumentPlace}
    (taken : Taken before after place) (earlier : before'.Grows before)
    (later : after.Grows after') : Taken before' after' place := by
  obtain ⟨earlierIntegers, earlierSses, earlierStack, _⟩ := earlier
  obtain ⟨laterIntegers, laterSses, laterStack, _⟩ := later
  cases taken with
  | integer start stop listed => exact .integer (by omega) (by omega) listed
  | sse start stop listed half => exact .sse (by omega) (by omega) listed half
  | stack start stop => exact .stack (by omega) (by omega)

theorem ne_of_listed {number number' : Nat} (integer : number ∈ integerArguments)
    (sse : number' ∈ sseArguments) : number ≠ number' := by
  have apart : ∀ number ∈ integerArguments, ∀ number' ∈ sseArguments, number ≠ number' := by
    decide
  exact apart number integer number' sse

theorem Taken.apart {first middle next last : Usage} {place place' : ArgumentPlace}
    (taken : Taken first middle place) (later : Taken next last place')
    (grows : middle.Grows next) : place.Apart place' := by
  obtain ⟨integers, sses, stack, _⟩ := grows
  -- Registers of one kind differ by their indices, and those of two kinds differ anyway.
  cases taken with
  | @integer _ _ index number start stop listed =>
    cases later with
    | @integer _ _ index' number' start' stop' listed' =>
      refine .inl fun same => ?_
      have inside := (List.getElem?_eq_some_iff.1 listed).1
      have := (List.getElem?_inj inside (by decide)).1 (listed.trans (same ▸ listed'.symm))
      omega
    | sse start' stop' listed' half =>
      exact .inl (ne_of_listed (List.mem_of_getElem? listed) (List.mem_of_getElem? listed'))
    | stack => trivial
  | @sse _ _ index number offset start stop listed half =>
    cases later with
    | integer start' stop' listed' =>
      exact .inl (ne_of_listed (List.mem_of_getElem? listed') (List.mem_of_getElem? listed)).symm
    | @sse _ _ index' number' offset' start' stop' listed' half' =>
      refine .inl fun same => ?_
      have inside := (List.getElem?_eq_some_iff.1 listed).1
      have := (List.getElem?_inj inside (by decide)).1 (listed.trans (same ▸ listed'.symm))
      omega
    | stack => trivial
  | stack start stop =>
    cases later with
    | integer => trivial
    | sse => trivial
    | stack start' stop' => exact .inl (by omega)

inductive Placed (usage : Usage) : EightbyteClass → Option (Nat × Nat) → Usage → Prop where
  | integer {number : Nat} (listed : integerArguments[usage.integers]? = some number) :
      Placed usage .integer (some (number, 0)) { usage with integers := usage.integers + 1 }
  | sse {number : Nat} (listed : sseArguments[usage.sses]? = some number) :
      Placed usage .sse (some (number, 0)) { usage with sses := usage.sses + 1 }
  | upperHalf {last number : Nat} (taken : usage.sses = last + 1)
      (listed : sseArguments[last]? = some number) :
      Placed usage .sseUp (some (number, 8)) usage
  | padding : Placed usage .noClass none usage

theorem placed_of_placeEightbyte {usage usage' : Usage} {eightbyteClass : EightbyteClass}
    {place : Option (Nat × Nat)}
    (placed : placeEightbyte usage eightbyteClass = .ok (place, usage')) :
    Placed usage eightbyteClass place usage' := by
  cases eightbyteClass with
  | integer | sse =>
    rw [placeEightbyte] at placed
    split at placed <;> cases placed
    constructor
    assumption
  | sseUp =>
    rw [placeEightbyte] at placed
    split at placed
    · cases placed
    · split at placed <;> cases placed
      exact .upperHalf ‹_› ‹_›
  | noClass =>
    cases placed
    exact .padding
  | x87 | x87Up | complexX87 | memory => cases placed

structure Occupies (before after : Usage) (length : Nat) (places : List ArgumentPlace) : Prop where
  grows : before.Grows after
  taken : ∀ place ∈ places, Taken before after place
  apart : places.Pairwise ArgumentPlace.Apart
  fits : ∀ place ∈ places, place.Fits length

def registerPlace? (eightbyteClass : EightbyteClass) (eightbyte : Nat) (slot : Option (Nat × Nat)) :
    List ArgumentPlace :=
  (slot.map fun (number, offset) => .register eightbyteClass eightbyte number offset).toList

theorem placeEightbytes_cons {usage after : Usage} {eightbyteClass : EightbyteClass}
    {eightbyte : Nat} {rest : List (EightbyteClass × Nat)} {places : List ArgumentPlace}
    (placed : placeEightbytes usage ((eightbyteClass, eightbyte) :: rest) = .ok (places, after)) :
    ∃ slot middle others, Placed usage eightbyteClass slot middle ∧
      placeEightbytes middle rest = .ok (others, after) ∧
      places = registerPlace? eightbyteClass eightbyte slot ++ others := by
  obtain ⟨⟨slot, middle⟩, here, placed⟩ := bind_eq_ok.1 placed
  obtain ⟨⟨others, last⟩, there, placed⟩ := bind_eq_ok.1 placed
  refine ⟨slot, middle, others, placed_of_placeEightbyte here, ?_⟩
  cases slot <;> cases placed <;> exact ⟨there, rfl⟩

theorem mem_registerPlace? {eightbyteClass : EightbyteClass} {eightbyte : Nat}
    {slot : Option (Nat × Nat)} {place : ArgumentPlace} :
    place ∈ registerPlace? eightbyteClass eightbyte slot ↔ ∃ number offset,
      slot = some (number, offset) ∧ place = .register eightbyteClass eightbyte number offset := by
  cases slot with
  | none => simp [registerPlace?]
  | some slot =>
    change place ∈ [ArgumentPlace.register eightbyteClass eightbyte slot.1 slot.2] ↔ _
    rw [List.mem_singleton]
    constructor
    · exact fun same => ⟨slot.1, slot.2, rfl, same⟩
    · rintro ⟨number, offset, same, rfl⟩
      cases same
      rfl

namespace Placed

variable {usage after : Usage} {eightbyteClass : EightbyteClass} {slot : Option (Nat × Nat)}

theorem grows (placed : Placed usage eightbyteClass slot after) : usage.Grows after := by
  cases placed with
  | integer => exact ⟨Nat.le_succ _, Nat.le_refl _, Nat.le_refl _, id⟩
  | sse register =>
    exact ⟨Nat.le_refl _, Nat.le_succ _, Nat.le_refl _,
      fun _ => (List.getElem?_eq_some_iff.1 register).1⟩
  | upperHalf => exact .refl usage
  | padding => exact .refl usage

theorem taken (placed : Placed usage eightbyteClass slot after) (lower : eightbyteClass ≠ .sseUp)
    {eightbyte : Nat} {place : ArgumentPlace}
    (listed : place ∈ registerPlace? eightbyteClass eightbyte slot) :
    Taken usage after place := by
  obtain ⟨number, offset, rfl, rfl⟩ := mem_registerPlace?.1 listed
  cases placed with
  | integer register => exact .integer (Nat.le_refl _) (Nat.lt_succ_self _) register
  | sse register => exact .sse (Nat.le_refl _) (Nat.lt_succ_self _) register (.inl rfl)
  | upperHalf => exact absurd rfl lower

theorem taken_upperHalf {middle : Usage} {lower : Option (Nat × Nat)}
    (before : Placed usage .sse lower middle) (placed : Placed middle .sseUp slot after)
    {eightbyte : Nat} {place : ArgumentPlace}
    (listed : place ∈ registerPlace? .sseUp eightbyte slot) : Taken usage after place := by
  obtain ⟨number, offset, rfl, rfl⟩ := mem_registerPlace?.1 listed
  cases before with
  | sse =>
    cases placed with
    | upperHalf same register =>
      cases same
      exact .sse (Nat.le_refl _) (Nat.lt_succ_self _) register (.inr rfl)

end Placed

theorem pairwise_registerPlace? (eightbyteClass : EightbyteClass) (eightbyte : Nat)
    (slot : Option (Nat × Nat)) :
    (registerPlace? eightbyteClass eightbyte slot).Pairwise ArgumentPlace.Apart := by
  cases slot with
  | none => exact .nil
  | some slot => exact List.pairwise_singleton _ _

theorem fits_registerPlace? {eightbyteClass : EightbyteClass} {eightbyte length : Nat}
    {slot : Option (Nat × Nat)} (inside : 8 * eightbyte < length) {place : ArgumentPlace}
    (listed : place ∈ registerPlace? eightbyteClass eightbyte slot) : place.Fits length := by
  obtain ⟨number, offset, -, rfl⟩ := mem_registerPlace?.1 listed
  exact inside

theorem occupies_one {usage after : Usage} {eightbyteClass : EightbyteClass} {length : Nat}
    {slot : Option (Nat × Nat)} (placed : Placed usage eightbyteClass slot after)
    (lower : eightbyteClass ≠ .sseUp) (nonempty : 0 < length) :
    Occupies usage after length (registerPlace? eightbyteClass 0 slot) where
  grows := placed.grows
  taken _ := placed.taken lower
  apart := pairwise_registerPlace? _ _ _
  fits _ := fits_registerPlace? nonempty

theorem occupies_two {usage middle after : Usage} {classes : Classification}
    (paired : classes.Paired) {length : Nat} {slot slot' : Option (Nat × Nat)}
    (placed : Placed usage classes.first slot middle)
    (placed' : Placed middle classes.second slot' after) (long : 8 < length) :
    Occupies usage after length
      (registerPlace? classes.first 0 slot ++ registerPlace? classes.second 1 slot') := by
  have fits : ∀ place ∈ registerPlace? classes.first 0 slot ++ registerPlace? classes.second 1 slot',
      place.Fits length := List.forall_mem_append.2
    ⟨fun _ => fits_registerPlace? (Nat.lt_trans (by decide) long), fun _ => fits_registerPlace? long⟩
  -- An upper half is put into the register of the first eightbyte; otherwise each takes its own.
  by_cases upper : classes.second = .sseUp
  · rw [paired.upper upper] at placed fits ⊢
    rw [upper] at placed' fits ⊢
    refine ⟨placed.grows.trans placed'.grows, List.forall_mem_append.2 ⟨?_, ?_⟩,
      List.pairwise_append.2 ⟨pairwise_registerPlace? _ _ _, pairwise_registerPlace? _ _ _, ?_⟩, fits⟩
    · exact fun place listed => (placed.taken (by simp) listed).mono (.refl _) placed'.grows
    · exact fun place => placed.taken_upperHalf placed'
    · intro place listed place' listed'
      obtain ⟨number, offset, rfl, rfl⟩ := mem_registerPlace?.1 listed
      obtain ⟨number', offset', rfl, rfl⟩ := mem_registerPlace?.1 listed'
      cases placed
      cases placed'
      exact .inr (.inl (Nat.le_refl 8))
  · refine ⟨placed.grows.trans placed'.grows, List.forall_mem_append.2 ⟨?_, ?_⟩,
      List.pairwise_append.2 ⟨pairwise_registerPlace? _ _ _, pairwise_registerPlace? _ _ _, ?_⟩, fits⟩
    · exact fun place listed => (placed.taken paired.lower listed).mono (.refl _) placed'.grows
    · exact fun place listed => (placed'.taken upper listed).mono placed.grows (.refl _)
    · exact fun place listed place' listed' =>
        (placed.taken paired.lower listed).apart (placed'.taken upper listed') (.refl middle)

theorem occupies_placeArgument {usage after : Usage} {type : DataType} {places : List ArgumentPlace}
    (placed : placeArgument usage type = .ok (places, after)) :
    Occupies usage after type.length places := by
  rw [placeArgument] at placed
  split at placed
  · cases placed
    refine ⟨⟨Nat.le_refl _, Nat.le_refl _, Nat.le_add_right _ _, id⟩, ?_,
      List.pairwise_singleton _ _, ?_⟩
    · intro place listed
      cases List.mem_singleton.1 listed
      refine .stack (Nat.le_refl _) ?_
      change _ ≤ 8 * (usage.stackEightbytes + (type.length + 7) / 8)
      omega
    · intro place listed
      cases List.mem_singleton.1 listed
      rfl
  · split at placed
    · cases placed
    · have paired := paired_classify type
      -- A value has as many places as it has eightbytes, and at most two.
      rcases lengths : eightbytes type.length with _ | _ | more
      · rw [lengths] at placed
        cases placed
        exact ⟨.refl usage, nofun, .nil, nofun⟩
      · rw [lengths] at placed
        obtain ⟨slot, middle, others, first, rest, rfl⟩ := placeEightbytes_cons placed
        cases rest
        rw [List.append_nil]
        exact occupies_one first paired.lower (by unfold eightbytes at lengths; omega)
      · have whole : (classify type).toList.zipIdx.take (eightbytes type.length) =
            [((classify type).first, 0), ((classify type).second, 1)] :=
          List.take_of_length_le (by rw [lengths]; exact Nat.le_add_left 2 more)
        rw [whole] at placed
        obtain ⟨slot, middle, others, first, further, rfl⟩ := placeEightbytes_cons placed
        obtain ⟨slot', after', others', second, rest, rfl⟩ := placeEightbytes_cons further
        cases rest
        rw [List.append_nil]
        exact occupies_two paired first second (by unfold eightbytes at lengths; omega)

def assign (arguments : List Value) (places : List (List ArgumentPlace)) :
    List (Value × ArgumentPlace) :=
  (arguments.zip places).flatMap fun (argument, own) => own.map (argument, ·)

theorem mem_assign {arguments : List Value} {places : List (List ArgumentPlace)} {argument : Value}
    {place : ArgumentPlace} : (argument, place) ∈ assign arguments places ↔
      ∃ (index : Nat) (own : List ArgumentPlace), arguments[index]? = some argument ∧
        places[index]? = some own ∧ place ∈ own := by
  unfold assign
  rw [List.mem_flatMap]
  constructor
  · rintro ⟨⟨argument', own⟩, listed, member⟩
    obtain ⟨place', member, same⟩ := List.mem_map.1 member
    cases same
    obtain ⟨index, found⟩ := List.mem_iff_getElem?.1 listed
    obtain ⟨here, there⟩ := List.getElem?_zip_eq_some.1 found
    exact ⟨index, own, here, there, member⟩
  · rintro ⟨index, own, here, there, member⟩
    have found : (arguments.zip places)[index]? = some (argument, own) :=
      List.getElem?_zip_eq_some.2 ⟨here, there⟩
    exact ⟨(argument, own), List.mem_of_getElem? found, List.mem_map_of_mem member⟩

theorem occupies_placeArguments {usage after : Usage} {arguments : List Value}
    {places : List (List ArgumentPlace)}
    (placed : placeArguments usage arguments = .ok (places, after)) :
    usage.Grows after ∧ places.length = arguments.length ∧
      (assign arguments places).Pairwise (fun first second => first.2.Apart second.2) ∧
      ∀ pair ∈ assign arguments places,
        Taken usage after pair.2 ∧ pair.2.Fits pair.1.type.length := by
  -- What an argument takes lies between the usage before it and the one after it, where the next
  -- arguments start from.
  induction arguments generalizing usage places with
  | nil =>
    cases placed
    exact ⟨.refl _, rfl, .nil, nofun⟩
  | cons argument rest ih =>
    obtain ⟨⟨own, middle⟩, here, placed⟩ := bind_eq_ok.1 placed
    obtain ⟨⟨others, last⟩, there, placed⟩ := bind_eq_ok.1 placed
    cases placed
    obtain ⟨grows, taken, apart, fits⟩ := occupies_placeArgument here
    obtain ⟨grows', lengths, apart', rest'⟩ := ih there
    have split : assign (argument :: rest) (own :: others) =
        own.map (argument, ·) ++ assign rest others := rfl
    rw [split]
    refine ⟨grows.trans grows', congrArg Nat.succ lengths, List.pairwise_append.2 ⟨?_, apart', ?_⟩,
      List.forall_mem_append.2 ⟨?_, ?_⟩⟩
    · exact List.pairwise_map.2 apart
    · intro first listed second listed'
      obtain ⟨place, member, rfl⟩ := List.mem_map.1 listed
      exact (taken place member).apart (rest' second listed').1 (.refl middle)
    · intro pair listed
      obtain ⟨place, member, rfl⟩ := List.mem_map.1 listed
      exact ⟨(taken place member).mono (.refl _) grows', fits place member⟩
    · exact fun pair listed => ⟨(rest' pair listed).1.mono grows (.refl _), (rest' pair listed).2⟩

def assignments (layout : ArgumentLayout) (arguments : List Value) :
    List (Value × ArgumentPlace) :=
  assign arguments layout.places

def usage (layout : ArgumentLayout) : Usage :=
  ⟨layout.integersUsed, layout.ssesUsed, layout.stackEightbytes⟩

def reserved (structReturn : Bool) : Usage := ⟨if structReturn then 1 else 0, 0, 0⟩

/-- A layout that gives each argument places of its own. -/
structure Separates (layout : ArgumentLayout) (arguments : List Value) (structReturn : Bool) :
    Prop where
  length : layout.places.length = arguments.length
  apart : (layout.assignments arguments).Pairwise fun first second => first.2.Apart second.2
  taken : ∀ pair ∈ layout.assignments arguments,
    Taken (reserved structReturn) layout.usage pair.2
  fits : ∀ pair ∈ layout.assignments arguments, pair.2.Fits pair.1.type.length
  sses : layout.ssesUsed ≤ sseArguments.length

theorem separates_of_layOutArguments {arguments : List Value} {structReturn : Bool}
    {layout : ArgumentLayout} (planned : layOutArguments arguments structReturn = .ok layout) :
    layout.Separates arguments structReturn := by
  obtain ⟨⟨places, usage⟩, placed, planned⟩ := bind_eq_ok.1 planned
  cases planned
  obtain ⟨grows, length, apart, each⟩ := occupies_placeArguments placed
  exact ⟨length, apart, fun pair listed => (each pair listed).1,
    fun pair listed => (each pair listed).2, grows.bounded (Nat.zero_le _)⟩

section Registers

variable {before after : Usage} {eightbyteClass : EightbyteClass} {eightbyte number offset : Nat}
  (taken : Taken before after (.register eightbyteClass eightbyte number offset))
include taken

theorem Taken.listed : number ∈ integerArguments ∧ offset = 0 ∨
    number ∈ sseArguments ∧ (offset = 0 ∨ offset = 8) := by
  cases taken with
  | integer _ _ listed => exact .inl ⟨List.mem_of_getElem? listed, rfl⟩
  | sse _ _ listed half => exact .inr ⟨List.mem_of_getElem? listed, half⟩

theorem Taken.inside : number < registerFile.count ∧ offset + 8 ≤ registerFile.width number := by
  have integers : ∀ number ∈ integerArguments,
      number < registerFile.count ∧ 8 ≤ registerFile.width number := by decide
  have sses : ∀ number ∈ sseArguments,
      number < registerFile.count ∧ 16 ≤ registerFile.width number := by decide
  rcases taken.listed with ⟨listed, rfl⟩ | ⟨listed, half⟩
  · exact integers number listed
  · have wide := sses number listed
    omega

/-- The registers that describe the call itself pass no arguments. -/
theorem Taken.spares : number ≠ rax ∧ number ≠ rsp ∧ number ≠ rbp := by
  have spared : ∀ number ∈ integerArguments ++ sseArguments,
      number ≠ rax ∧ number ≠ rsp ∧ number ≠ rbp := by decide
  rcases taken.listed with ⟨listed, -⟩ | ⟨listed, -⟩
  · exact spared number (List.mem_append_left _ listed)
  · exact spared number (List.mem_append_right _ listed)

theorem Taken.ne_rdi (reserved : 0 < before.integers) : number ≠ rdi := by
  cases taken with
  | @integer _ _ index _ start stop listed =>
    rintro rfl
    have first : integerArguments[0]? = some rdi := rfl
    have inside := (List.getElem?_eq_some_iff.1 listed).1
    have := (List.getElem?_inj inside (by decide)).1 (listed.trans first.symm)
    omega
  | sse _ _ listed =>
    exact (ne_of_listed (by decide) (List.mem_of_getElem? listed)).symm

end Registers

end ArgumentLayout

end Inferior.Amd64

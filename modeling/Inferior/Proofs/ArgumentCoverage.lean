import Inferior.Amd64.Arguments
import Inferior.Attempt
import Inferior.Proofs.Attribution

/-! Which eightbytes of an argument travel when it is passed in registers.

An eightbyte without a class does not travel, as if it were padding. The second eightbyte of an
argument can be without one although a member reaches into it.
-/

set_option autoImplicit false

namespace Inferior.Amd64

def inRegister (places : List ArgumentPlace) (eightbyte : Nat) : Bool :=
  places.any fun
    | .register _ index _ _ => index == eightbyte
    | .stack _ _ => false

namespace ArgumentLayout

theorem placeEightbyte_ok {usage usage' : Usage} {eightbyteClass : EightbyteClass}
    {place : Option (Nat × Nat)}
    (placed : placeEightbyte usage eightbyteClass = .ok (place, usage')) :
    eightbyteClass ≠ .memory ∧ (place = none ↔ eightbyteClass = .noClass) := by
  cases eightbyteClass with
  | integer | sse =>
    rw [placeEightbyte] at placed
    split at placed <;> cases placed
    simp
  | sseUp =>
    rw [placeEightbyte] at placed
    split at placed
    · cases placed
    · split at placed <;> cases placed
      simp
  | noClass =>
    cases placed
    simp
  | x87 | x87Up | complexX87 | memory => cases placed

theorem placeEightbytes_ok {usage usage' : Usage} {parts : List (EightbyteClass × Nat)}
    {places : List ArgumentPlace}
    (placed : placeEightbytes usage parts = .ok (places, usage')) :
    (∀ part ∈ parts, part.1 ≠ .memory) ∧ ∀ eightbyte, inRegister places eightbyte ↔
      ∃ part ∈ parts, part.2 = eightbyte ∧ part.1 ≠ .noClass := by
  induction parts generalizing usage usage' places with
  | nil =>
    cases placed
    simp [inRegister]
  | cons part rest ih =>
    obtain ⟨eightbyteClass, index⟩ := part
    unfold placeEightbytes at placed
    obtain ⟨⟨place, middle⟩, here, placed⟩ := bind_eq_ok.1 placed
    obtain ⟨⟨others, after⟩, there, placed⟩ := bind_eq_ok.1 placed
    obtain ⟨outside, skipped⟩ := placeEightbyte_ok here
    obtain ⟨othersOutside, travel⟩ := ih there
    constructor
    · exact List.forall_mem_cons.2 ⟨outside, othersOutside⟩
    · intro eightbyte
      cases place with
      | none =>
        cases placed
        simp [travel, skipped.1 rfl]
      | some slot =>
        cases placed
        have own : inRegister (.register eightbyteClass index slot.1 slot.2 :: others) eightbyte ↔
            index = eightbyte ∨ inRegister others eightbyte := by
          simp [inRegister]
        rw [own, travel]
        simp [← skipped]

/-- An argument of which an eightbyte travels in a register was not sent to the stack. -/
theorem placeArgument_ok {usage usage' : Usage} {type : DataType} {places : List ArgumentPlace}
    (placed : placeArgument usage type = .ok (places, usage')) {held : Nat}
    (passed : inRegister places held) :
    type.length ≤ 16 ∧ placeEightbytes usage
      ((classify type).toList.zipIdx.take (eightbytes type.length)) = .ok (places, usage') := by
  rw [placeArgument] at placed
  split at placed
  · cases placed
    cases passed
  · split at placed
    · cases placed
    · rename_i small
      exact ⟨Nat.le_of_not_lt small, placed⟩

theorem placeArguments_ok {usage usage' : Usage} {arguments : List Value}
    {places : List (List ArgumentPlace)}
    (placed : placeArguments usage arguments = .ok (places, usage')) {index : Nat}
    {argument : Value} {own : List ArgumentPlace} (listed : arguments[index]? = some argument)
    (given : places[index]? = some own) :
    ∃ before after, placeArgument before argument.type = .ok (own, after) := by
  induction arguments generalizing usage usage' places index with
  | nil => cases listed
  | cons first rest ih =>
    unfold placeArguments at placed
    obtain ⟨⟨firstPlaces, middle⟩, here, placed⟩ := bind_eq_ok.1 placed
    obtain ⟨⟨others, after⟩, there, placed⟩ := bind_eq_ok.1 placed
    cases placed
    cases index with
    | zero =>
      cases listed
      cases given
      exact ⟨usage, middle, here⟩
    | succ index => exact ih there listed given

end ArgumentLayout

theorem layOutArguments_ok {arguments : List Value} {structReturn : Bool} {layout : ArgumentLayout}
    (planned : layOutArguments arguments structReturn = .ok layout) {index : Nat} {argument : Value}
    {places : List ArgumentPlace} (listed : arguments[index]? = some argument)
    (given : layout.places[index]? = some places) :
    ∃ before after, ArgumentLayout.placeArgument before argument.type = .ok (places, after) := by
  obtain ⟨⟨all, usage⟩, placed, planned⟩ := bind_eq_ok.1 planned
  cases planned
  exact ArgumentLayout.placeArguments_ok placed listed given

theorem mem_parts {classes : Classification} {count : Nat} (small : count ≤ 2)
    {part : EightbyteClass × Nat} : part ∈ classes.toList.zipIdx.take count ↔
      0 < count ∧ part = (classes.first, 0) ∨ 1 < count ∧ part = (classes.second, 1) := by
  match count with
  | 0 | 1 | 2 => simp [Classification.toList]

/-- When an argument travels in registers, an eightbyte that holds some of a scalar is among those
that travel, except for a second one to which nothing is attributed. -/
theorem inRegister_iff_attributed {arguments : List Value} {structReturn : Bool}
    {layout : ArgumentLayout} (planned : layOutArguments arguments structReturn = .ok layout)
    {index : Nat} {argument : Value} {places : List ArgumentPlace}
    (listed : arguments[index]? = some argument) (given : layout.places[index]? = some places)
    (inside : argument.type.contained) {held : Nat} (passed : inRegister places held) {leaf : Leaf}
    (scalar : leaf ∈ argument.type.leaves) {eightbyte : Nat} (meets : leaf.meets eightbyte) :
    inRegister places eightbyte ↔ eightbyte = 0 ∨ Attributed argument.type 1 := by
  obtain ⟨starts, reaches⟩ : leaf.position < 64 * (eightbyte + 1) ∧ 64 * eightbyte < leaf.stop := by
    simpa [Leaf.meets] using meets
  obtain ⟨before, after, placed⟩ := layOutArguments_ok planned listed given
  obtain ⟨small, placed⟩ := ArgumentLayout.placeArgument_ok placed passed
  obtain ⟨outside, travel⟩ := ArgumentLayout.placeEightbytes_ok placed
  -- At most two eightbytes are placed, and the leaf lies in one of them.
  have two : eightbytes argument.type.length ≤ 2 := by
    unfold eightbytes
    omega
  have below : eightbyte < eightbytes argument.type.length := by
    have stop := DataType.stop_le_of_contained inside scalar
    unfold eightbytes
    omega
  have first : (classify argument.type).first ≠ .memory :=
    outside _ ((mem_parts two).2 (.inl ⟨Nat.zero_lt_of_lt below, rfl⟩))
  obtain ⟨fillsFirst, fillsSecond⟩ := class_iff_attributed first
  rw [travel]
  match eightbyte with
  | 0 =>
    have filled := fillsFirst.2 (attributed_first inside scalar starts)
    exact iff_of_true ⟨_, (mem_parts two).2 (.inl ⟨below, rfl⟩), rfl, filled⟩ (.inl rfl)
  | 1 =>
    rw [← fillsSecond]
    constructor
    · rintro ⟨part, member, second, filled⟩
      rcases (mem_parts two).1 member with ⟨-, rfl⟩ | ⟨-, rfl⟩
      · cases second
      · exact .inr filled
    · rintro (impossible | filled)
      · cases impossible
      · exact ⟨_, (mem_parts two).2 (.inr ⟨below, rfl⟩), rfl, filled⟩
  | eightbyte + 2 => omega

section Straddling

/-- A pair of numbers after another one, so that it starts in the first eightbyte and ends in the
second one. -/
def straddlingPair : Field := .member (.struct 8 [.member (.int 4) 0, .member (.int 4) 4]) 4

def straddling : DataType := .struct 12 [.member (.int 4) 0, straddlingPair]

/-- A third number shares the second eightbyte. -/
def straddlingFilled : DataType :=
  .struct 16 [.member (.int 4) 0, straddlingPair, .member (.int 4) 12]

theorem inRegister_straddlingFilled :
    layOutArguments [.ofBytes straddlingFilled []] false =
        .ok ⟨[[.register .integer 0 rdi 0, .register .integer 1 rsi 0]], 0, 2, 0⟩ ∧
      (inRegister [.register .integer 0 rdi 0, .register .integer 1 rsi 0] 1 ↔
        1 = 0 ∨ Attributed straddlingFilled 1) := by
  have planned : layOutArguments [.ofBytes straddlingFilled []] false =
      .ok ⟨[[.register .integer 0 rdi 0, .register .integer 1 rsi 0]], 0, 2, 0⟩ := rfl
  have listed : [Value.ofBytes straddlingFilled []][0]? = some (.ofBytes straddlingFilled []) := rfl
  have first : inRegister [.register .integer 0 rdi 0, .register .integer 1 rsi 0] 0 := rfl
  have second : (⟨.int, 4, 64⟩ : Leaf) ∈ straddlingFilled.leaves := by decide
  exact ⟨planned, inRegister_iff_attributed planned listed rfl rfl first second rfl⟩

/-- The second number of a straddling pair is lost. -/
theorem not_all_inRegister :
    ¬ ∀ (arguments : List Value) (structReturn : Bool) (layout : ArgumentLayout) (index : Nat)
      (argument : Value) (places : List ArgumentPlace) (held : Nat) (leaf : Leaf) (eightbyte : Nat),
      layOutArguments arguments structReturn = .ok layout → arguments[index]? = some argument →
      layout.places[index]? = some places →
      argument.type.code.hasMembers ∨ argument.type.code = .array → argument.type.contained →
      inRegister places held → leaf ∈ argument.type.leaves → leaf.meets eightbyte →
      inRegister places eightbyte := by
  intro always
  have second : (⟨.int, 4, 64⟩ : Leaf) ∈ straddling.leaves := by decide
  have found := always [.ofBytes straddling []] false
    ⟨[[.register .integer 0 rdi 0]], 0, 1, 0⟩ 0 (.ofBytes straddling [])
    [.register .integer 0 rdi 0] 0 ⟨.int, 4, 64⟩ 1 rfl rfl rfl (.inl rfl) rfl rfl second rfl
  cases found

end Straddling

end Inferior.Amd64

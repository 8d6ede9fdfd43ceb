import Inferior.Proofs.ArgumentCoverage
import Inferior.Proofs.ArgumentDelivery
import Inferior.Proofs.ClassPairs

/-! When arguments cannot be placed, and what else can keep them from being passed.

There is one such case: an argument that would travel in registers because it holds an integer or a
floating-point number, while another eightbyte of it holds an x87 number, which no register takes.
Short of that a place is found for every argument, and only writing to the stack can fail.
-/

set_option autoImplicit false

namespace Inferior.Amd64

namespace ArgumentLayout

inductive Refused (usage : Usage) : EightbyteClass → LayoutError → Prop where
  | integer (full : integerArguments.length ≤ usage.integers) : Refused usage .integer .noRegister
  | sse (full : sseArguments.length ≤ usage.sses) : Refused usage .sse .noRegister
  | alone (unused : usage.sses = 0) : Refused usage .sseUp .upperHalfAlone
  | upperHalf (full : sseArguments.length < usage.sses) : Refused usage .sseUp .noRegister
  | unsuited {eightbyteClass : EightbyteClass}
      (unsuited : eightbyteClass ∈ [.x87, .x87Up, .complexX87, .memory]) :
      Refused usage eightbyteClass .noRegister

theorem refused_of_placeEightbyte {usage : Usage} {eightbyteClass : EightbyteClass}
    {error : LayoutError} (failed : placeEightbyte usage eightbyteClass = .error error) :
    Refused usage eightbyteClass error := by
  cases eightbyteClass with
  | integer =>
    rw [placeEightbyte] at failed
    split at failed <;> cases failed
    exact .integer (List.getElem?_eq_none_iff.1 ‹_›)
  | sse =>
    rw [placeEightbyte] at failed
    split at failed <;> cases failed
    exact .sse (List.getElem?_eq_none_iff.1 ‹_›)
  | sseUp =>
    rw [placeEightbyte] at failed
    split at failed
    · cases failed
      exact .alone ‹_›
    · rename_i last taken
      split at failed <;> cases failed
      exact .upperHalf (by have := List.getElem?_eq_none_iff.1 ‹_›; omega)
  | noClass => cases failed
  | x87 | x87Up | complexX87 | memory =>
    cases failed
    exact .unsuited (by decide)

/-- The first eightbyte that finds no place ends the planning. -/
theorem placeEightbytes_error {usage : Usage} {parts : List (EightbyteClass × Nat)}
    {error : LayoutError} (failed : placeEightbytes usage parts = .error error) :
    ∃ before part after places middle, parts = before ++ part :: after ∧
      placeEightbytes usage before = .ok (places, middle) ∧ Refused middle part.1 error := by
  induction parts generalizing usage with
  | nil => cases failed
  | cons part rest ih =>
    obtain ⟨eightbyteClass, index⟩ := part
    unfold placeEightbytes at failed
    cases here : placeEightbyte usage eightbyteClass with
    | error error' =>
      rw [here, error_bind] at failed
      cases failed
      exact ⟨[], _, rest, [], usage, rfl, rfl, refused_of_placeEightbyte here⟩
    | ok placed =>
      obtain ⟨slot, next⟩ := placed
      rw [here, ok_bind] at failed
      cases there : placeEightbytes next rest with
      | ok others =>
        simp only [there, ok_bind] at failed
        cases slot <;> cases failed
      | error error' =>
        simp only [there, error_bind] at failed
        cases failed
        obtain ⟨before, refusing, after, places, middle, rfl, placed, refused⟩ := ih there
        have further : placeEightbytes usage ((eightbyteClass, index) :: before) =
            .ok (registerPlace? eightbyteClass index slot ++ places, middle) := by
          unfold placeEightbytes
          rw [here, ok_bind]
          simp only [placed, ok_bind]
          cases slot <;> rfl
        exact ⟨_, refusing, after, _, middle, rfl, further, refused⟩

theorem Placed.counts {usage after : Usage} {eightbyteClass : EightbyteClass}
    {slot : Option (Nat × Nat)} (placed : Placed usage eightbyteClass slot after) :
    after.integers = usage.integers + [eightbyteClass].count .integer ∧
      after.sses = usage.sses + [eightbyteClass].count .sse ∧
      eightbyteClass ∈ [.integer, .sse, .sseUp, .noClass] := by
  cases placed <;> simp

theorem placeEightbytes_counts {usage after : Usage} {parts : List (EightbyteClass × Nat)}
    {places : List ArgumentPlace} (placed : placeEightbytes usage parts = .ok (places, after)) :
    after.integers = usage.integers + (parts.map Prod.fst).count .integer ∧
      after.sses = usage.sses + (parts.map Prod.fst).count .sse ∧
      ∀ part ∈ parts, part.1 ∈ [.integer, .sse, .sseUp, .noClass] := by
  induction parts generalizing usage places with
  | nil =>
    cases placed
    exact ⟨rfl, rfl, nofun⟩
  | cons part rest ih =>
    obtain ⟨slot, middle, others, here, there, -⟩ := placeEightbytes_cons placed
    obtain ⟨integers, sses, suited⟩ := here.counts
    obtain ⟨integers', sses', suited'⟩ := ih there
    have split (only : EightbyteClass) : ([part.1] ++ rest.map Prod.fst).count only =
        [part.1].count only + (rest.map Prod.fst).count only := List.count_append
    rw [List.singleton_append] at split
    refine ⟨?_, ?_, List.forall_mem_cons.2 ⟨suited, suited'⟩⟩
    · rw [List.map_cons, split, integers', integers, Nat.add_assoc]
    · rw [List.map_cons, split, sses', sses, Nat.add_assoc]

end ArgumentLayout

namespace Classification

def NeedsRegister (classes : Classification) : Prop :=
  classes.integerCount ≠ 0 ∨ classes.sseCount ≠ 0

instance (classes : Classification) : Decidable classes.NeedsRegister :=
  inferInstanceAs (Decidable (_ ∨ _))

end Classification

theorem spills_eq_false_iff {usage : ArgumentLayout.Usage} {classes : Classification} :
    ArgumentLayout.spills usage classes = false ↔
      usage.integers + classes.integerCount ≤ integerArguments.length ∧
        usage.sses + classes.sseCount ≤ sseArguments.length ∧ classes.NeedsRegister := by
  unfold ArgumentLayout.spills Classification.NeedsRegister
  simp only [Bool.or_eq_false_iff, Bool.and_eq_false_iff, decide_eq_false_iff_not, beq_eq_false_iff_ne,
    Nat.not_lt, gt_iff_lt, and_assoc]

theorem Classification.combine_of_long {type : DataType} (long : 16 < type.length)
    (element : Option Classification) (members : List (Nat × Classification)) :
    combine type element members =
      if type.code ∈ [.array, .struct, .union] then inMemory else empty := by
  unfold combine
  cases type.code with
  | function | void => rfl
  | int | enum | bool | range | char | pointer | reference => exact if_neg (by simp; omega)
  | float | decimalFloat => exact (if_neg (by omega)).trans (if_neg (by omega))
  | array | struct | union => exact if_pos (.inl long)

/-- Of the types of more than two eightbytes, aggregates are in memory and the others have no class. -/
theorem classify_of_long {type : DataType} (long : 16 < type.length) :
    classify type = if type.code ∈ [.array, .struct, .union] then .inMemory else .empty := by
  cases type with
  | mk code length traits fields target =>
    rw [classify]
    exact Classification.combine_of_long long _ _

theorem length_le_of_needsRegister {type : DataType} (needs : (classify type).NeedsRegister) :
    type.length ≤ 16 := by
  refine Nat.le_of_not_lt fun long => ?_
  rw [classify_of_long long] at needs
  split at needs
  · exact absurd needs (by decide)
  · exact absurd needs (by decide)

/-- Whether an eightbyte of a type is an x87 number, which no register for arguments takes. -/
def HoldsX87 (type : DataType) : Prop :=
  .x87 ∈ (classify type).toList.take (eightbytes type.length)

instance (type : DataType) : Decidable (HoldsX87 type) := inferInstanceAs (Decidable (_ ∈ _))

namespace ArgumentLayout

theorem split_parts {classes : Classification} {count : Nat}
    {before after : List (EightbyteClass × Nat)} {part : EightbyteClass × Nat}
    (split : classes.toList.zipIdx.take count = before ++ part :: after) :
    before = [] ∧ part.1 = classes.first ∨
      before = [(classes.first, 0)] ∧ part.1 = classes.second := by
  have whole : before ++ part :: after <+: [(classes.first, 0), (classes.second, 1)] :=
    split ▸ List.take_prefix _ _
  match before with
  | [] =>
    obtain ⟨same, -⟩ := List.cons_prefix_cons.1 whole
    exact .inl ⟨rfl, congrArg Prod.fst same⟩
  | [_] =>
    obtain ⟨rfl, rest⟩ := List.cons_prefix_cons.1 whole
    obtain ⟨same, -⟩ := List.cons_prefix_cons.1 rest
    exact .inr ⟨rfl, congrArg Prod.fst same⟩
  | _ :: _ :: _ =>
    have short := whole.length_le
    simp only [List.length_append, List.length_cons, List.length_nil] at short
    omega

section Split

variable {classes : Classification} {count : Nat} {before after : List (EightbyteClass × Nat)}
  {part : EightbyteClass × Nat} (split : classes.toList.zipIdx.take count = before ++ part :: after)
include split

/-- The eightbytes up to one of a value need no more registers than the whole. -/
theorem count_of_split (only : EightbyteClass) :
    (before.map Prod.fst).count only + [part.1].count only ≤ classes.toList.count only := by
  have most := (List.take_sublist count classes.toList).count_le only
  rw [← List.zipIdx_map_fst 0 classes.toList, ← List.map_take, split, List.map_append,
    List.count_append, List.map_cons] at most
  have one : ([part.1] ++ after.map Prod.fst).count only =
      [part.1].count only + (after.map Prod.fst).count only := List.count_append
  rw [List.singleton_append] at one
  rw [List.zipIdx_map_fst] at most
  omega

theorem lowerHalf_of_split (wellFormed : classes.WellFormed) (half : part.1 = .sseUp) :
    before = [(.sse, 0)] ∧ 0 < classes.sseCount := by
  rcases split_parts split with ⟨-, here⟩ | ⟨first, here⟩
  · have leads := wellFormed.leads
    rw [← here, half] at leads
    exact absurd leads (by decide)
  · have lower : classes.first = .sse := wellFormed.upperHalf (here.symm.trans half)
    rw [lower] at first
    exact ⟨first, List.count_pos_iff.2 (lower ▸ List.mem_cons_self)⟩

/-- Next to the classes without a register, other than the first half of an x87 number, nothing in a
value has one. -/
theorem x87_of_split (wellFormed : classes.WellFormed) (needs : classes.NeedsRegister)
    (unsuited : part.1 ∈ [.x87, .x87Up, .complexX87, .memory]) : part.1 = .x87 := by
  have place := split_parts split
  obtain ⟨first, second⟩ := classes
  obtain ⟨whole, leads, plain, -, exponent, -⟩ := wellFormed
  dsimp only at whole leads plain exponent place
  generalize part.1 = unsuitedClass at *
  simp only [List.mem_cons, List.not_mem_nil, or_false] at unsuited
  rcases unsuited with rfl | rfl | rfl | rfl
  · rfl
  · rcases place with ⟨-, rfl⟩ | ⟨-, rfl⟩
    · exact absurd leads (by decide)
    · cases exponent rfl
      exact absurd needs (by decide)
  · rcases place with ⟨-, rfl⟩ | ⟨-, rfl⟩
    · exact absurd leads (by decide)
    · exact absurd rfl plain
  · rcases place with ⟨-, rfl⟩ | ⟨-, rfl⟩
    · cases whole.1 rfl
      exact absurd needs (by decide)
    · cases whole.2 rfl
      exact absurd needs (by decide)

/-- If there are registers for a value, then nothing but an x87 number in it is refused. -/
theorem x87_of_refused {usage middle : Usage} (wellFormed : classes.WellFormed)
    (free : spills usage classes = false) {places : List ArgumentPlace}
    (placed : placeEightbytes usage before = .ok (places, middle)) {error : LayoutError}
    (refused : Refused middle part.1 error) : part.1 = .x87 ∧ error = .noRegister := by
  obtain ⟨integers, sses, needs⟩ := spills_eq_false_iff.1 free
  obtain ⟨takenIntegers, takenSses, -⟩ := placeEightbytes_counts placed
  have enough := count_of_split split
  have half := lowerHalf_of_split split wellFormed
  have suited := x87_of_split split wellFormed needs
  unfold Classification.integerCount at integers
  unfold Classification.sseCount at sses half
  generalize part.1 = refusedClass at *
  -- There are registers for all eightbytes up to this one, so it is not refused for want of one.
  cases refused with
  | integer full =>
    have := enough .integer
    rw [List.count_singleton_self] at this
    omega
  | sse full =>
    have := enough .sse
    rw [List.count_singleton_self] at this
    omega
  | alone unused =>
    obtain ⟨rfl, -⟩ := half rfl
    have : (List.map Prod.fst [(EightbyteClass.sse, 0)]).count .sse = 1 := rfl
    omega
  | upperHalf full =>
    obtain ⟨rfl, lower⟩ := half rfl
    have : (List.map Prod.fst [(EightbyteClass.sse, 0)]).count .sse = 1 := rfl
    omega
  | unsuited unsuited => exact ⟨suited unsuited, rfl⟩

end Split

/-- An argument is only refused for an x87 number in it. -/
theorem placeArgument_error_iff {usage : Usage} {type : DataType} {error : LayoutError} :
    placeArgument usage type = .error error ↔
      error = .noRegister ∧ spills usage (classify type) = false ∧ HoldsX87 type := by
  have refusal {error : LayoutError} (failed : placeArgument usage type = .error error) :
      error = .noRegister ∧ spills usage (classify type) = false ∧ HoldsX87 type := by
    rw [placeArgument] at failed
    split at failed
    · cases failed
    · rename_i stays
      -- What stays in registers is short, so that it is not refused for its length.
      have free := Bool.eq_false_iff.2 stays
      have small := length_le_of_needsRegister (spills_eq_false_iff.1 free).2.2
      rw [if_neg (Nat.not_lt.2 small)] at failed
      obtain ⟨before, part, after, places, middle, split, placed, refused⟩ :=
        placeEightbytes_error failed
      obtain ⟨x87, rfl⟩ := x87_of_refused split (wellFormed_classify type) free placed refused
      refine ⟨rfl, free, ?_⟩
      have listed : part.1 ∈ ((classify type).toList.zipIdx.take (eightbytes type.length)).map
          Prod.fst := by
        rw [split]
        simp
      rwa [List.map_take, List.zipIdx_map_fst, x87] at listed
  -- Conversely, no eightbyte of an x87 number is ever placed.
  refine ⟨refusal, ?_⟩
  rintro ⟨rfl, free, x87⟩
  cases placed : placeArgument usage type with
  | error error => rw [(refusal placed).1]
  | ok outcome =>
    obtain ⟨places, after⟩ := outcome
    rw [placeArgument, if_neg (Bool.eq_false_iff.1 free)] at placed
    split at placed
    · cases placed
    · obtain ⟨-, -, suited⟩ := placeEightbytes_counts placed
      unfold HoldsX87 at x87
      rw [← List.zipIdx_map_fst 0 (classify type).toList, ← List.map_take] at x87
      obtain ⟨part, listed, same⟩ := List.mem_map.1 x87
      have := suited part listed
      rw [same] at this
      exact absurd this (by decide)

theorem placeArguments_cons (usage : Usage) (argument : Value) (rest : List Value) :
    placeArguments usage (argument :: rest) =
      placeArgument usage argument.type >>= fun own =>
        placeArguments own.2 rest >>= fun others => .ok (own.1 :: others.1, others.2) := rfl

theorem placeArguments_append (usage : Usage) (before after : List Value) :
    placeArguments usage (before ++ after) =
      placeArguments usage before >>= fun earlier =>
        placeArguments earlier.2 after >>= fun later => .ok (earlier.1 ++ later.1, later.2) := by
  induction before generalizing usage with
  | nil =>
    change placeArguments usage after = placeArguments usage after >>= _
    cases placeArguments usage after <;> rfl
  | cons argument rest ih =>
    simp only [List.cons_append, placeArguments_cons, ih, bind_assoc, ok_bind]

theorem placeArguments_error_iff {usage : Usage} {arguments : List Value} {error : LayoutError} :
    placeArguments usage arguments = .error error ↔ ∃ index argument places middle,
      arguments[index]? = some argument ∧
        placeArguments usage (arguments.take index) = .ok (places, middle) ∧
        placeArgument middle argument.type = .error error := by
  constructor
  · intro failed
    induction arguments generalizing usage with
    | nil => cases failed
    | cons argument rest ih =>
      unfold placeArguments at failed
      cases here : placeArgument usage argument.type with
      | error error' =>
        rw [here] at failed
        cases failed
        exact ⟨0, argument, [], usage, rfl, rfl, here⟩
      | ok outcome =>
        obtain ⟨own, next⟩ := outcome
        rw [here, ok_bind] at failed
        cases there : placeArguments next rest with
        | ok others => simp [there, pure, Except.pure] at failed
        | error error' =>
          simp only [there, error_bind] at failed
          cases failed
          -- The argument here has its places, and a later one is refused.
          obtain ⟨index, refusing, places, middle, listed, placed, refused⟩ := ih there
          refine ⟨index + 1, refusing, own :: places, middle, listed, ?_, refused⟩
          rw [List.take_succ_cons, placeArguments, here, ok_bind]
          simp only [placed]
          rfl
  · rintro ⟨index, argument, places, middle, listed, placed, refused⟩
    obtain ⟨inside, same⟩ := List.getElem?_eq_some_iff.1 listed
    have split : arguments = arguments.take index ++ argument :: arguments.drop (index + 1) := by
      rw [← same, List.getElem_cons_drop, List.take_append_drop]
    rw [split, placeArguments_append, placed, ok_bind, placeArguments_cons, refused]
    rfl

end ArgumentLayout

/-- An argument for which there are enough registers once the earlier ones have got theirs, but
that also holds an x87 number. -/
def Stranded (arguments : List Value) (structReturn : Bool) (index : Nat) : Prop :=
  ∃ argument layout, arguments[index]? = some argument ∧
    layOutArguments (arguments.take index) structReturn = .ok layout ∧
    ArgumentLayout.spills layout.usage (classify argument.type) = false ∧ HoldsX87 argument.type

theorem layOutArguments_error_iff {arguments : List Value} {structReturn : Bool}
    {error : LayoutError} : layOutArguments arguments structReturn = .error error ↔
      error = .noRegister ∧ ∃ index, Stranded arguments structReturn index := by
  have planned (arguments : List Value) : layOutArguments arguments structReturn =
      ArgumentLayout.placeArguments (ArgumentLayout.reserved structReturn) arguments >>=
        fun planned => .ok ⟨planned.1, planned.2.stackEightbytes, planned.2.integers,
          planned.2.sses⟩ := rfl
  have failed : layOutArguments arguments structReturn = .error error ↔
      ArgumentLayout.placeArguments (ArgumentLayout.reserved structReturn) arguments =
        .error error := by
    rw [planned]
    cases ArgumentLayout.placeArguments (ArgumentLayout.reserved structReturn) arguments <;> simp
  rw [failed, ArgumentLayout.placeArguments_error_iff]
  constructor
  · rintro ⟨index, argument, places, middle, listed, placed, refused⟩
    obtain ⟨rfl, free, x87⟩ := ArgumentLayout.placeArgument_error_iff.1 refused
    let layout : ArgumentLayout :=
      ⟨places, middle.stackEightbytes, middle.integers, middle.sses⟩
    refine ⟨rfl, index, argument, layout, listed, ?_, free, x87⟩
    rw [planned, placed]
    rfl
  · rintro ⟨rfl, index, argument, layout, listed, laid, free, x87⟩
    obtain ⟨⟨places, middle⟩, placed, same⟩ := bind_eq_ok.1 laid
    cases same
    exact ⟨index, argument, places, middle, listed, placed,
      ArgumentLayout.placeArgument_error_iff.2 ⟨rfl, free, x87⟩⟩

section Passing

variable {ε τ : Type} {target : Target 64 ε τ}

theorem write_of_writeAll_error {writes : List (MemoryWrite 64)} {before after : τ}
    {failure : TargetError ε}
    (failed : Attempt.run (target.writeAll writes) before = (.error failure, after)) :
    ∃ write ∈ writes, ∃ memory,
      Attempt.run (target.write write.address write.bytes) memory = (.error failure, after) := by
  induction writes generalizing before with
  | nil => cases failed
  | cons write rest ih =>
    change Attempt.run (target.write write.address write.bytes >>= fun _ => target.writeAll rest)
      before = _ at failed
    rw [Attempt.run_bind] at failed
    rcases here : Attempt.run (target.write write.address write.bytes) before with
      ⟨failure' | done, middle⟩
    · rw [here] at failed
      cases failed
      exact ⟨write, List.mem_cons_self .., before, here⟩
    · rw [here] at failed
      obtain ⟨later, listed, refused⟩ := ih failed
      exact ⟨later, List.mem_cons_of_mem _ listed, refused⟩

/-- Arguments get their places unless one of them is stranded, which is found out before anything
is changed. Once they have them, only a write to the stack keeps them from being passed. -/
theorem passArguments_fails_iff (arguments : List Value) (structReturn : Bool) :
    ((∃ layout, layOutArguments arguments structReturn = .ok layout) ↔
      ∀ index, ¬Stranded arguments structReturn index) ∧
    ∀ {ε τ : Type} {target : Target 64 ε τ} {sp : BitVec 64} {error : Error ε}
      {before after : Machine registerFile τ},
      Attempt.run (passArguments target arguments sp structReturn) before = (.error error, after) →
        (∃ index, Stranded arguments structReturn index) ∧ after = before ∧
          error = .internal LayoutError.noRegister.message ∨
        (∀ index, ¬Stranded arguments structReturn index) ∧ ∃ failure, error = .target failure ∧
          ∃ (write : MemoryWrite 64) (memory : τ),
            Attempt.run (target.write write.address write.bytes) memory =
              (.error failure, after.memory) := by
  have places : (∃ layout, layOutArguments arguments structReturn = .ok layout) ↔
      ∀ index, ¬Stranded arguments structReturn index := by
    constructor
    · rintro ⟨layout, planned⟩ index stranded
      cases planned.symm.trans (layOutArguments_error_iff.2 ⟨rfl, index, stranded⟩)
    · intro none
      cases planned : layOutArguments arguments structReturn with
      | ok layout => exact ⟨layout, rfl⟩
      | error error =>
        obtain ⟨-, index, stranded⟩ := layOutArguments_error_iff.1 planned
        exact absurd stranded (none index)
  -- Planning comes first, so nothing has been written when it fails.
  refine ⟨places, fun {ε τ target sp error before after} failed => ?_⟩
  cases planned : layOutArguments arguments structReturn with
  | error error' =>
    obtain ⟨rfl, stranded⟩ := layOutArguments_error_iff.1 planned
    unfold passArguments at failed
    rw [Attempt.run_bind, Attempt.run_ofExcept, planned] at failed
    cases failed
    exact .inl ⟨stranded, rfl, rfl⟩
  | ok layout =>
    rw [run_passArguments planned] at failed
    rcases written : Attempt.run (target.writeAll (layout.memoryWrites arguments
      (layout.spBelow sp))) before.memory with ⟨failure | done, memory⟩
    · rw [written] at failed
      cases failed
      obtain ⟨write, -, earlier, refused⟩ := write_of_writeAll_error written
      exact .inr ⟨places.1 ⟨layout, planned⟩, failure, rfl, write, earlier, refused⟩
    · rw [written] at failed
      cases failed

def guardedMachine : Machine registerFile (Memory 64 Empty) :=
  ⟨.empty _, { faults := [⟨.write, ⟨0x7000, 0x8000⟩, .nonFatal⟩] }⟩

theorem passArguments_fails_guardedMachine : ∃ after,
    Attempt.run (passArguments (Memory.target 64 Empty) sampleArguments 0x8000 true)
      guardedMachine = (.error (.target .nonFatal), after) ∧
    (∀ index, ¬Stranded sampleArguments true index) ∧
    ∃ (write : MemoryWrite 64) (memory : Memory 64 Empty),
      Attempt.run ((Memory.target 64 Empty).write write.address write.bytes) memory =
        (.error .nonFatal, after.memory) := by
  have planned : layOutArguments sampleArguments true = .ok sampleLayout := rfl
  have writes : sampleLayout.memoryWrites sampleArguments (sampleLayout.spBelow 0x8000) =
      [⟨0x7fe0, [7, 8, 9] ++ Bytes.zeros 21⟩] := rfl
  obtain ⟨after, failed⟩ : ∃ after,
      Attempt.run (passArguments (Memory.target 64 Empty) sampleArguments 0x8000 true)
        guardedMachine = (.error (.target .nonFatal), after) := by
    refine ⟨⟨guardedMachine.registers.storeAll (sampleLayout.registerWrites sampleArguments),
      guardedMachine.memory⟩, ?_⟩
    rw [run_passArguments planned, writes]
    rfl
  obtain ⟨-, causes⟩ := passArguments_fails_iff sampleArguments true
  rcases causes failed with ⟨-, -, other⟩ | ⟨placed, failure, same, write, memory, refused⟩
  · cases other
  · cases same
    exact ⟨after, failed, placed, write, memory, refused⟩

/-- A long double that shares its place with a structure of eight unused bytes and an integer. -/
def overlaidLongDouble : Value :=
  .ofBytes (.union 16 [.member (.float 16) 0, .member (.struct 16 [.member (.int 8) 8]) 0]) []

/-- Not every argument finds a place. -/
theorem not_all_layOutArguments : ¬∀ (arguments : List Value) (structReturn : Bool),
    ∃ layout, layOutArguments arguments structReturn = .ok layout := by
  intro all
  obtain ⟨layout, planned⟩ := all [overlaidLongDouble] false
  cases planned

end Passing

end Inferior.Amd64

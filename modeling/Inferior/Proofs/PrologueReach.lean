import Inferior.Proofs.FunctionFrame
import Inferior.Proofs.TrampolineSearch

/-! How far the analysis of a prologue looks.

The analysis ends at the end of the recognised code or at the current pc, whichever comes first, and
counts an instruction as executed only if all of it lies before the current pc. The one exception is a
pc inside the second instruction: the analysis goes on to the end of that instruction, as it does at
the pc behind it.
-/

set_option autoImplicit false

namespace Inferior

variable {w : Nat} {ε σ : Type}

theorem ByteMap.Has.unique {map : ByteMap (BitVec w)} {address : BitVec w} {first second : Bytes}
    (one : map.Has address first) (other : map.Has address second)
    (sized : first.length = second.length) : first = second := by
  apply List.ext_getElem? fun index => ?_
  by_cases inside : index < first.length
  · exact (one index inside).symm.trans (other index (sized ▸ inside))
  · rw [List.getElem?_eq_none (by omega), List.getElem?_eq_none (by omega)]

/-- What is read are the bytes of a map, unless reading fails. That is so in all states that are held,
which no question makes the state leave. -/
structure AnswersFrom (read : BitVec w → (length : Nat) → StateM σ (Except ε (Block length)))
    (map : ByteMap (BitVec w)) (held : σ → Prop) : Prop where
  answers {state : σ} (start : held state) (address : BitVec w) (length : Nat) :
    ∃ answer next, (read address length).run state = (answer, next) ∧ held next ∧
      ∀ block, answer = .ok block → map.Has address block.val

theorem ReadsBytes.answersFrom
    {read : BitVec w → (length : Nat) → StateM σ (Except ε (Block length))}
    {map : ByteMap (BitVec w)} {held : σ → Prop} (reads : ReadsBytes read map held) :
    AnswersFrom read map held where
  answers start address length := by
    obtain ⟨answer, next, run, kept, bytes⟩ := reads.answers start address length
    exact ⟨answer, next, run, kept, fun block => (bytes block).1⟩

/-- A program that begins by reading goes on with bytes of the map or with a failure. -/
theorem AnswersFrom.run_bind
    {read : BitVec w → (length : Nat) → StateM σ (Except ε (Block length))}
    {map : ByteMap (BitVec w)} {held : σ → Prop} (reads : AnswersFrom read map held) {α : Type}
    {address : BitVec w} {length : Nat} {next : Except ε (Block length) → StateM σ α} {state : σ}
    (start : held state) {outcome : α × σ}
    (returned : (read address length >>= next).run state = outcome) :
    ∃ answer between, held between ∧ (∀ block, answer = .ok block → map.Has address block.val) ∧
      (next answer).run between = outcome := by
  obtain ⟨answer, between, run, kept, bytes⟩ := reads.answers start address length
  rw [StateT.run_bind, run] at returned
  exact ⟨answer, between, kept, bytes, returned⟩

namespace Amd64.Prologue

variable {code : ByteMap (BitVec 64)} {start current stop : BitVec 64} {prologue : Prologue}
  {read : BitVec 64 → (length : Nat) → StateM σ (Except ε (Block length))} {held : σ → Prop}
  {state after : σ}

theorem has_wholeCode : code.Has start wholeCode ↔
    code.Has start pushCode ∧ code.Has (start + 1) moveCode := by
  rw [wholeCode, pushCode, List.singleton_append, ByteMap.has_cons, ByteMap.has_singleton]

/-- How many bytes of the usual prologue a function starts with, in whole instructions. -/
def recognizedLength (code : ByteMap (BitVec 64)) (start : BitVec 64) : Nat :=
  if code.Has start wholeCode then wholeCode.length
  else if code.Has start pushCode then pushCode.length
  else 0

/-- A function starts with some code, all of which lies before the current pc. -/
def Passed (code : ByteMap (BitVec 64)) (start current : BitVec 64) (bytes : Bytes) : Prop :=
  code.Has start bytes ∧ start.toNat + bytes.length ≤ current.toNat

instance (bytes : Bytes) : Decidable (Passed code start current bytes) :=
  inferInstanceAs (Decidable (_ ∧ _))

theorem Passed.pushed (passed : Passed code start current wholeCode) :
    Passed code start current pushCode :=
  ⟨(has_wholeCode.1 passed.1).1, Nat.le_trans (Nat.add_le_add_left (by decide) _) passed.2⟩

/-- The outcome of an analysis that does not look past the current pc. -/
structure StopsAt (code : ByteMap (BitVec 64)) (start current stop : BitVec 64)
    (prologue : Prologue) : Prop where
  stop : stop.toNat = min current.toNat (start.toNat + recognizedLength code start)
  spOffset : prologue.spOffset = if Passed code start current pushCode then -8 + 8 else -8
  saved : prologue.saved = if Passed code start current pushCode then .set .empty rbp 0 else .empty
  frameless : prologue.frameless = false ↔ Passed code start current wholeCode

def InsideMove (code : ByteMap (BitVec 64)) (start current : BitVec 64) : Prop :=
  code.Has start wholeCode ∧ start.toNat + pushCode.length < current.toNat ∧
    current.toNat < start.toNat + wholeCode.length

instance : Decidable (InsideMove code start current) := inferInstanceAs (Decidable (_ ∧ _ ∧ _))

/-- How an analysis of a function ends that has nothing to go by but the function's code: there is one
case for each of the points at which it stops. -/
inductive Analyzed (code : ByteMap (BitVec 64)) (start current : BitVec 64) :
    BitVec 64 → Prologue → Prop where
  | entered : current.toNat ≤ start.toNat → Analyzed code start current current {}
  | otherCode : start.toNat < current.toNat → ¬code.Has start pushCode →
    Analyzed code start current start {}
  | pushed : current.toNat = start.toNat + 1 → code.Has start pushCode →
    Analyzed code start current current (push {})
  | otherMove : start.toNat + 1 < current.toNat → code.Has start pushCode →
    ¬code.Has start wholeCode → Analyzed code start current (start + 1) (push {})
  | moved : start.toNat + 1 < current.toNat → code.Has start wholeCode →
    Analyzed code start current (start + 4) whole

theorem analyzed_of_returned (reads : AnswersFrom read code held)
    (room : start.toNat + 4 < 1 <<< 64) (begun : held state)
    (returned : (analyze read start current {}).run state = ((.ok stop, prologue), after)) :
    Analyzed code start current stop prologue := by
  have next : (start + 1).toNat = start.toNat + 1 := BitVec.toNat_add_of_lt (by simp; omega)
  -- The analysis is followed from one point at which it may stop to the next.
  unfold analyze at returned
  by_cases early : current ≤ start
  · rw [if_pos early] at returned
    cases returned
    exact .entered early
  have entered : start.toNat < current.toNat := Nat.lt_of_not_le early
  rw [if_neg early] at returned
  obtain ⟨answer, between, kept, bytes, rest⟩ := reads.run_bind begun returned
  cases answer with
  | error error => cases rest
  | ok first =>
    have firstFound := bytes first rfl
    dsimp only at rest
    by_cases other : first.val ≠ pushCode
    · rw [if_pos other] at rest
      cases rest
      exact .otherCode entered fun has => other (firstFound.unique has first.property)
    have pushed : code.Has start pushCode := Decidable.not_not.1 other ▸ firstFound
    rw [if_neg other] at rest
    by_cases stopped : current ≤ start + 1
    · rw [if_pos stopped] at rest
      cases rest
      exact .pushed (by rw [BitVec.le_def, next] at stopped; omega) pushed
    have further : start.toNat + 1 < current.toNat := next ▸ Nat.lt_of_not_le stopped
    rw [if_neg stopped] at rest
    obtain ⟨answer, last, -, bytes, rest⟩ := reads.run_bind kept rest
    cases answer with
    | error error => cases rest
    | ok second =>
      have secondFound := bytes second rfl
      dsimp only at rest
      by_cases other : second.val ≠ moveCode
      · rw [if_pos other] at rest
        cases rest
        refine .otherMove further pushed fun has => other ?_
        exact secondFound.unique (has_wholeCode.1 has).2 second.property
      · rw [if_neg other] at rest
        cases rest
        exact .moved further (has_wholeCode.2 ⟨pushed, Decidable.not_not.1 other ▸ secondFound⟩)

theorem toNat_afterMove (room : start.toNat + 4 < 1 <<< 64) : (start + 4).toNat = start.toNat + 4 :=
  BitVec.toNat_add_of_lt room

/-- Unless the current pc lies inside the second instruction, the analysis stops there at the latest. -/
theorem Analyzed.stopsAt (analyzed : Analyzed code start current stop prologue)
    (room : start.toNat + 4 < 1 <<< 64) (outside : ¬InsideMove code start current) :
    StopsAt code start current stop prologue := by
  have one : pushCode.length = 1 := rfl
  have four : wholeCode.length = 4 := rfl
  cases analyzed with
  | entered early =>
    have unpushed : ¬Passed code start current pushCode := fun passed => by have := passed.2; omega
    exact ⟨by omega, (if_neg unpushed).symm, (if_neg unpushed).symm,
      iff_of_false nofun (mt Passed.pushed unpushed)⟩
  | otherCode entered other =>
    have unpushed : ¬Passed code start current pushCode := fun passed => other passed.1
    refine ⟨?_, (if_neg unpushed).symm, (if_neg unpushed).symm,
      iff_of_false nofun (mt Passed.pushed unpushed)⟩
    rw [recognizedLength, if_neg fun has => other (has_wholeCode.1 has).1, if_neg other]
    omega
  | pushed here has =>
    have pushed : Passed code start current pushCode := ⟨has, Nat.le_of_eq here.symm⟩
    have unmoved : ¬Passed code start current wholeCode := fun passed => by have := passed.2; omega
    refine ⟨?_, (if_pos pushed).symm, (if_pos pushed).symm, iff_of_false nofun unmoved⟩
    rw [recognizedLength, if_pos has]
    split <;> omega
  | otherMove further has other =>
    have pushed : Passed code start current pushCode := ⟨has, Nat.le_of_lt further⟩
    have unmoved : ¬Passed code start current wholeCode := fun passed => other passed.1
    refine ⟨?_, (if_pos pushed).symm, (if_pos pushed).symm, iff_of_false nofun unmoved⟩
    rw [recognizedLength, if_neg other, if_pos has, BitVec.toNat_add_of_lt (by simp; omega)]
    change start.toNat + 1 = _
    omega
  | moved further has =>
    -- From inside the move the analysis would go past `current`, and from nowhere else.
    have past : start.toNat + 4 ≤ current.toNat := Nat.le_of_not_lt fun short =>
      outside ⟨has, further, short⟩
    have moved : Passed code start current wholeCode := ⟨has, past⟩
    refine ⟨?_, (if_pos moved.pushed).symm, (if_pos moved.pushed).symm, iff_of_true rfl moved⟩
    rw [recognizedLength, if_pos has, toNat_afterMove room]
    omega

/-- The current pc as the analysis takes it, to which the inside of the second instruction is all one
with its end. -/
def roundedUp (code : ByteMap (BitVec 64)) (start current : BitVec 64) : BitVec 64 :=
  if InsideMove code start current then start + 4 else current

theorem not_insideMove_roundedUp (room : start.toNat + 4 < 1 <<< 64) :
    ¬InsideMove code start (roundedUp code start current) := by
  rintro ⟨has, further, short⟩
  unfold roundedUp at further short
  split at short
  · rw [toNat_afterMove room] at short
    exact Nat.lt_irrefl _ short
  · rename_i outside
    rw [if_neg outside] at further
    exact outside ⟨has, further, short⟩

theorem Analyzed.roundedUp (analyzed : Analyzed code start current stop prologue)
    (room : start.toNat + 4 < 1 <<< 64) :
    Analyzed code start (roundedUp code start current) stop prologue := by
  unfold Prologue.roundedUp
  split
  · rename_i inside
    obtain ⟨has, further, -⟩ := inside
    have one : pushCode.length = 1 := rfl
    cases analyzed with
    | entered early => omega
    | otherCode _ other => exact absurd (has_wholeCode.1 has).1 other
    | pushed here _ => omega
    | otherMove _ _ other => exact absurd has other
    | moved _ _ => exact .moved (by rw [toNat_afterMove room]; omega) has
  · exact analyzed

/-- The analysis of a function's code does not look past the current pc, unless that lies inside the
second instruction, where it has the outcome that it has at the end of that instruction. -/
theorem stopsAt_of_returned (reads : AnswersFrom read code held) (room : start.toNat + 4 < 1 <<< 64)
    (begun : held state)
    (returned : (analyze read start current {}).run state = ((.ok stop, prologue), after)) :
    StopsAt code start (roundedUp code start current) stop prologue ∧
      (StopsAt code start current stop prologue ↔ ¬InsideMove code start current) := by
  have analyzed := analyzed_of_returned reads room begun returned
  have rounded := (analyzed.roundedUp room).stopsAt room (not_insideMove_roundedUp room)
  refine ⟨rounded, fun law inside => ?_, analyzed.stopsAt room⟩
  -- There the law has it that the move is not done yet, although the analysis says that it is.
  have moved : Passed code start current wholeCode := by
    refine law.frameless.1 (rounded.frameless.2 ⟨inside.1, ?_⟩)
    rw [roundedUp, if_pos inside, toNat_afterMove room]
    exact Nat.le_refl _
  exact absurd inside.2.2 (Nat.not_lt.2 moved.2)

def framedMemory : Memory 64 Empty := Memory.poke {} 0x401000 wholeCode

/-- At the end of the prologue, all of it has been executed. -/
theorem stopsAt_of_returned_framed : (0x401000 : BitVec 64).toNat + 4 < 1 <<< 64 ∧
    (analyze (Memory.target 64 Empty).tryRead 0x401000 0x401004 {}).run framedMemory =
      ((.ok 0x401004, whole), framedMemory) ∧
    StopsAt framedMemory.readable 0x401000 0x401004 0x401004 whole := by
  have returned : (analyze (Memory.target 64 Empty).tryRead 0x401000 0x401004 {}).run framedMemory =
      ((.ok 0x401004, whole), framedMemory) := by rfl
  have law := stopsAt_of_returned framedMemory.readsBytes_target.answersFrom (by decide) rfl returned
  exact ⟨by decide, returned, law.2.2 (by decide +kernel)⟩

/-- Two bytes into the second one of the instructions, both of them are taken to be executed. -/
theorem not_all_stopsAt : ¬∀ (memory : Memory 64 Empty) (start current stop : BitVec 64)
    (prologue : Prologue), start.toNat + 4 < 1 <<< 64 →
    (analyze (Memory.target 64 Empty).tryRead start current {}).run memory =
      ((.ok stop, prologue), memory) →
    StopsAt memory.readable start current stop prologue := by
  intro all
  have law := all framedMemory 0x401000 0x401002 0x401004 whole (by decide) rfl
  exact absurd (law.frameless.1 rfl).2 (by decide)

end Amd64.Prologue

end Inferior

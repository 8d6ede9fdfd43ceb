import Inferior.Proofs.Integrity
import Inferior.Proofs.SignalFrame

/-! Where a caller's registers are recovered from.

A register of a frame's caller is looked for from the frame inwards, and the first frame on the way that
has saved it decides. Its value and its place are found by two recursions, which go the same way, and
where no frame has saved a register, the thread still holds it.
-/

set_option autoImplicit false

namespace Inferior

variable {ε τ : Type}

/-- The place that a caller's register is stored in; a value that is computed has none. -/
def PreviousRegister.location {w : Nat} : PreviousRegister w → RegisterLocation w
  | .constant _ => .nowhere
  | .memory address => .memory address
  | .register number => .register number

def CallStack.Records {w : Nat} {κ : Type} (stack : CallStack w ε κ τ) (caches : List κ) : Prop :=
  ∀ (level : Nat) (cache : κ), caches[level]? = some cache →
    ∃ frame, stack.frames[level]? = some frame ∧ frame.cache = .ready cache

namespace Walker

/-- The caches of a frame and of all frames inside it, found from the frame inwards as unwinding does.
They are listed by level, so that the innermost frame's comes first. -/
def cachesTo {w : Nat} {κ : Type} (walker : Walker w ε κ τ) :
    (level : Nat) → Walk w ε κ τ (List κ)
  | 0 => do
    let (_, cache) ← walker.cacheAt (walker.inner 0) 0
    return [cache]
  | level + 1 => do
    let (_, cache) ← walker.cacheAt (walker.inner (level + 1)) (level + 1)
    return (← walker.cachesTo level) ++ [cache]

def fetch {κ : Type} (walker : Walker 64 ε κ τ) (size : Nat) :
    PreviousRegister 64 → Walk 64 ε κ τ Bytes
  | .constant value => pure (Address.toBytes value)
  | .memory address => do
    let block ← onTarget .target (walker.target.read address size)
    return block.val
  | .register number => Attempt.ofExcept ((walker.registers.read number).mapError .register)

section Caches

variable {w : Nat} {κ : Type} {walker : Walker w ε κ τ} {level : Nat}
  {before after : CallStack w ε κ τ} {caches : List κ}

theorem cachesTo_zero_eq_ok
    (computed : Attempt.run (walker.cachesTo 0) before = (.ok caches, after)) :
    ∃ unwinder cache, caches = [cache] ∧
      Attempt.run (walker.cacheAt (walker.inner 0) 0) before = (.ok (unwinder, cache), after) := by
  obtain ⟨pair, middle, here, rest⟩ := Attempt.run_bind_eq_ok.1 computed
  cases rest
  exact ⟨pair.1, pair.2, rfl, here⟩

theorem cachesTo_succ_eq_ok
    (computed : Attempt.run (walker.cachesTo (level + 1)) before = (.ok caches, after)) :
    ∃ unwinder cache middle inside, caches = inside ++ [cache] ∧
      Attempt.run (walker.cacheAt (walker.inner (level + 1)) (level + 1)) before =
        (.ok (unwinder, cache), middle) ∧
      Attempt.run (walker.cachesTo level) middle = (.ok inside, after) := by
  obtain ⟨pair, middle, here, rest⟩ := Attempt.run_bind_eq_ok.1 computed
  obtain ⟨inside, last, further, rest⟩ := Attempt.run_bind_eq_ok.1 rest
  cases rest
  exact ⟨pair.1, pair.2, middle, inside, rfl, here, further⟩

theorem length_caches (computed : Attempt.run (walker.cachesTo level) before = (.ok caches, after)) :
    caches.length = level + 1 := by
  induction level generalizing before caches with
  | zero =>
    obtain ⟨_, _, rfl, -⟩ := cachesTo_zero_eq_ok computed
    rfl
  | succ level ih =>
    obtain ⟨_, _, _, _, rfl, -, further⟩ := cachesTo_succ_eq_ok computed
    rw [List.length_append, ih further]
    rfl

/-- What is computed for a frame is recorded of it, and the frames from there inwards stay settled. -/
theorem recorded_of_cacheAt (settled : before.SettledBelow walker (level + 1))
    {unwinder : Unwinder w ε κ} {cache : κ}
    (computed : Attempt.run (walker.cacheAt (walker.inner level) level) before =
      (.ok (unwinder, cache), after)) :
    before.Keeps after ∧ after.SettledBelow walker (level + 1) ∧
      ∃ frame, after.frames[level]? = some frame ∧ frame.Settled walker ∧
        frame.unwinder = some unwinder ∧ frame.cache = .ready cache := by
  have all : ∀ error : Error ε, True := fun _ => trivial
  have tolerates := tolerates_of_all walker all
  obtain ⟨result, after, run, grows, settled', -, fact⟩ :=
    learns_cacheAt tolerates (learns_inner tolerates level) settled
  cases run.symm.trans computed
  obtain ⟨frame, found, chosen, ready⟩ := fact _ rfl
  obtain ⟨frame', found', idle⟩ := settled' level (Nat.lt_succ_self level)
  cases found.symm.trans found'
  exact ⟨grows.keeps, settled', frame, found, idle, chosen, ready⟩

theorem recorded_of_cachesTo (settled : before.SettledBelow walker (level + 1))
    (computed : Attempt.run (walker.cachesTo level) before = (.ok caches, after)) :
    before.Keeps after ∧ after.Records caches := by
  induction level generalizing before caches with
  | zero =>
    obtain ⟨unwinder, cache, rfl, here⟩ := cachesTo_zero_eq_ok computed
    obtain ⟨keeps, -, frame, found, -, -, ready⟩ := recorded_of_cacheAt settled here
    refine ⟨keeps, fun inner other listed => ?_⟩
    have innermost := (List.getElem?_eq_some_iff.1 listed).1
    cases Nat.lt_one_iff.1 innermost
    cases listed
    exact ⟨frame, found, ready⟩
  | succ level ih =>
    obtain ⟨unwinder, cache, middle, inside, rfl, here, further⟩ := cachesTo_succ_eq_ok computed
    obtain ⟨keeps, settled', frame, found, -, -, ready⟩ := recorded_of_cacheAt settled here
    obtain ⟨keeps', recorded⟩ := ih (settled'.mono (Nat.le_succ _)) further
    refine ⟨keeps.trans keeps', fun inner other listed => ?_⟩
    -- This cache is still on record once those further in have been found.
    rcases Nat.lt_or_ge inner inside.length with below | beyond
    · rw [List.getElem?_append_left below] at listed
      exact recorded inner other listed
    · have last := (List.getElem?_eq_some_iff.1 listed).1
      rw [List.length_append, List.length_singleton] at last
      cases Nat.le_antisymm (Nat.le_of_lt_succ last) beyond
      rw [List.getElem?_concat_length] at listed
      cases listed
      obtain ⟨frame', found', kept⟩ := keeps' _ frame found
      rw [length_caches further]
      exact ⟨frame', found', kept.cache ready⟩

end Caches

section Step

variable {κ : Type} {walker : Walker 64 ε κ τ} {level number size : Nat}
  {before middle : CallStack 64 ε κ τ} {unwinder : Unwinder 64 ε κ} {cache : κ}

theorem run_callerLocation_zero
    (computed : Attempt.run (walker.cacheAt (walker.inner 0) 0) before =
      (.ok (unwinder, cache), middle)) {other : Nat}
    (located : unwinder.previousRegister cache number = .register other) :
    Attempt.run (walker.callerLocation 0 number) before = (.ok (.register other), middle) := by
  unfold callerLocation
  rw [Attempt.run_bind_ok computed]
  simp only [located]
  rfl

theorem run_callerLocation_succ
    (computed : Attempt.run (walker.cacheAt (walker.inner (level + 1)) (level + 1)) before =
      (.ok (unwinder, cache), middle)) {other : Nat}
    (located : unwinder.previousRegister cache number = .register other) :
    Attempt.run (walker.callerLocation (level + 1) number) before =
      Attempt.run (walker.callerLocation level other) middle := by
  rw [callerLocation.eq_def, Attempt.run_bind_ok computed]
  simp only [located]

variable (computed : Attempt.run (walker.cacheAt (walker.inner level) level) before =
    (.ok (unwinder, cache), middle))
include computed

/-- A computed value is an address, which fills a register of eight bytes. -/
theorem run_callerRegister_of_constant (sized : walker.registers.size number = .ok 8)
    {value : BitVec 64} (located : unwinder.previousRegister cache number = .constant value) :
    Attempt.run (walker.callerRegister level number) before =
      Attempt.run (walker.fetch 8 (.constant value)) middle := by
  unfold callerRegister unwindFrom
  rw [sized, mapError_ok, Attempt.run_bind_ok (Attempt.run_ofExcept _ _),
    Attempt.run_bind_ok computed]
  simp only [located]
  rfl

theorem run_callerRegister_of_memory (sized : walker.registers.size number = .ok size)
    {address : BitVec 64} (located : unwinder.previousRegister cache number = .memory address) :
    Attempt.run (walker.callerRegister level number) before =
      Attempt.run (walker.fetch size (.memory address)) middle := by
  unfold callerRegister unwindFrom
  rw [sized, mapError_ok, Attempt.run_bind_ok (Attempt.run_ofExcept _ _),
    Attempt.run_bind_ok computed]
  simp only [located]
  rfl

theorem run_callerRegister_of_register (sized : walker.registers.size number = .ok size)
    {other : Nat} (located : unwinder.previousRegister cache number = .register other) :
    Attempt.run (walker.callerRegister level number) before =
      Attempt.run ((walker.inner level).register other) middle := by
  unfold callerRegister unwindFrom
  rw [sized, mapError_ok, Attempt.run_bind_ok (Attempt.run_ofExcept _ _),
    Attempt.run_bind_ok computed]
  simp only [located]

theorem run_callerLocation_of_saved (saved : ∀ other,
    unwinder.previousRegister cache number ≠ .register other) :
    Attempt.run (walker.callerLocation level number) before =
      (.ok (unwinder.previousRegister cache number).location, middle) := by
  unfold callerLocation
  rw [Attempt.run_bind_ok computed]
  cases located : unwinder.previousRegister cache number with
  | constant value =>
    simp only [located]
    rfl
  | memory address =>
    simp only [located]
    rfl
  | register other => exact absurd located (saved other)

end Step

end Walker

namespace Amd64

namespace FrameCache

/-- A frame has saved a register of its caller, in memory or as the stack pointer that it has computed
for it. -/
def Saves (cache : FrameCache) (number : Nat) : Prop :=
  number = rsp ∧ cache.callerSp ≠ 0 ∨ (cache.saved.get? number).isSome

instance (cache : FrameCache) (number : Nat) : Decidable (cache.Saves number) :=
  inferInstanceAs (Decidable (_ ∧ _ ∨ _))

variable {cache : FrameCache} {number : Nat}

theorem previousRegister_of_not_saves (unsaved : ¬cache.Saves number) :
    cache.previousRegister number = .register number := by
  obtain ⟨computed, stored⟩ := not_or.1 unsaved
  unfold previousRegister
  rw [if_neg computed, Option.not_isSome_iff_eq_none.1 stored]

theorem previousRegister_of_saves (saves : cache.Saves number) :
    (number = rsp ∧ cache.callerSp ≠ 0) ∧
        cache.previousRegister number = .constant cache.callerSp ∨
      ¬(number = rsp ∧ cache.callerSp ≠ 0) ∧ ∃ address, cache.saved.get? number = some address ∧
        cache.previousRegister number = .memory address := by
  unfold previousRegister
  by_cases computed : number = rsp ∧ cache.callerSp ≠ 0
  · exact .inl ⟨computed, if_pos computed⟩
  · obtain ⟨address, stored⟩ := Option.isSome_iff_exists.1 (saves.resolve_left computed)
    exact .inr ⟨computed, address, stored, by rw [if_neg computed, stored]⟩

/-- Among the caches of some frames, listed by level, the one of the outermost frame that has saved a
register. -/
structure NearestSaver (caches : List FrameCache) (number level : Nat) (cache : FrameCache) :
    Prop where
  found : caches[level]? = some cache
  saves : cache.Saves number
  last {outer : Nat} {other : FrameCache} (further : level < outer)
    (listed : caches[outer]? = some other) : ¬other.Saves number

/-- Where a register of the outermost frame's caller is recovered from, given the caches of all frames by
level. -/
inductive RecoveredFrom (caches : List FrameCache) (number : Nat) : PreviousRegister 64 → Prop where
  | stackPointer {level : Nat} {cache : FrameCache} : NearestSaver caches number level cache →
    number = rsp → cache.callerSp ≠ 0 → RecoveredFrom caches number (.constant cache.callerSp)
  | memory {level : Nat} {cache : FrameCache} {address : BitVec 64} :
    NearestSaver caches number level cache → ¬(number = rsp ∧ cache.callerSp ≠ 0) →
    cache.saved.get? number = some address → RecoveredFrom caches number (.memory address)
  | thread : (∀ cache ∈ caches, ¬cache.Saves number) →
    RecoveredFrom caches number (.register number)

variable {caches : List FrameCache}

theorem nearestSaver_concat (saves : cache.Saves number) :
    NearestSaver (caches ++ [cache]) number caches.length cache where
  found := List.getElem?_concat_length
  saves := saves
  last further listed := by
    rw [List.getElem?_eq_none (by rw [List.length_append, List.length_singleton]; omega)] at listed
    cases listed

theorem NearestSaver.concat {level : Nat} {saver : FrameCache}
    (nearest : NearestSaver caches number level saver) (unsaved : ¬cache.Saves number) :
    NearestSaver (caches ++ [cache]) number level saver where
  found := by
    rw [List.getElem?_append_left (List.getElem?_eq_some_iff.1 nearest.found).1]
    exact nearest.found
  saves := nearest.saves
  last {outer other} further listed := by
    rcases Nat.lt_or_ge outer caches.length with inside | beyond
    · rw [List.getElem?_append_left inside] at listed
      exact nearest.last further listed
    · rw [List.getElem?_append_right beyond] at listed
      cases List.mem_singleton.1 (List.mem_of_getElem? listed)
      exact unsaved

/-- A frame that has saved the register decides, whatever the frames inside it have saved. -/
theorem recoveredFrom_concat (saves : cache.Saves number) :
    RecoveredFrom (caches ++ [cache]) number (cache.previousRegister number) := by
  have nearest : NearestSaver (caches ++ [cache]) number caches.length cache :=
    nearestSaver_concat saves
  rcases previousRegister_of_saves saves with ⟨computed, same⟩ | ⟨uncomputed, address, stored, same⟩
  · rw [same]
    exact .stackPointer nearest computed.1 computed.2
  · rw [same]
    exact .memory nearest uncomputed stored

/-- A frame that has not saved the register leaves it where it is. -/
theorem RecoveredFrom.concat {place : PreviousRegister 64}
    (recovered : RecoveredFrom caches number place) (unsaved : ¬cache.Saves number) :
    RecoveredFrom (caches ++ [cache]) number place := by
  cases recovered with
  | stackPointer nearest sp computed => exact .stackPointer (nearest.concat unsaved) sp computed
  | memory nearest uncomputed stored => exact .memory (nearest.concat unsaved) uncomputed stored
  | thread none =>
    refine .thread fun other listed => ?_
    rcases List.mem_append.1 listed with listed | listed
    · exact none other listed
    · cases List.mem_singleton.1 listed
      exact unsaved

end FrameCache

section Recovery

variable {platform : Platform} {target : Target 64 ε τ} {registers : RegisterCache registerFile}
  {level number : Nat} {before middle : CallStack 64 ε FrameCache τ}

theorem size_eq_width (registers : RegisterCache registerFile) (known : number < registerFile.count) :
    registers.size number = .ok (registerFile.width number) := if_pos known

theorem previousRegister_of_mem {unwinder : Unwinder 64 ε FrameCache}
    (listed : unwinder ∈ (platform.walker target registers).unwinders) :
    unwinder.previousRegister = FrameCache.previousRegister := by
  rcases List.mem_cons.1 listed with rfl | listed
  · rfl
  · cases List.mem_singleton.1 listed
    rfl

/-- A frame that has saved the register decides where it is and what is fetched. -/
theorem run_of_saves {unwinder : Unwinder 64 ε FrameCache} {cache : FrameCache}
    (computed : Attempt.run ((platform.walker target registers).cacheAt
      ((platform.walker target registers).inner level) level) before =
        (.ok (unwinder, cache), middle))
    (same : unwinder.previousRegister = FrameCache.previousRegister)
    (known : number < registerFile.count) (saves : cache.Saves number) :
    Attempt.run ((platform.walker target registers).callerLocation level number) before =
        (.ok (cache.previousRegister number).location, middle) ∧
      Attempt.run ((platform.walker target registers).callerRegister level number) before =
        Attempt.run ((platform.walker target registers).fetch (registerFile.width number)
          (cache.previousRegister number)) middle := by
  rw [← same]
  rcases FrameCache.previousRegister_of_saves saves with ⟨⟨rfl, -⟩, located⟩ | ⟨-, address, -, located⟩
  · rw [← same] at located
    refine ⟨Walker.run_callerLocation_of_saved computed (by simp [located]), ?_⟩
    rw [located]
    exact Walker.run_callerRegister_of_constant computed (size_eq_width registers known) located
  · rw [← same] at located
    refine ⟨Walker.run_callerLocation_of_saved computed (by simp [located]), ?_⟩
    rw [located]
    exact Walker.run_callerRegister_of_memory computed (size_eq_width registers known) located

/-- The two recursions go the same way, by induction on the level: either the frame has saved the
register, or both go on with the next inner frame, which is asked for the same register. -/
theorem run_recovered (known : number < registerFile.count)
    (settled : before.SettledBelow (platform.walker target registers) (level + 1))
    {caches : List FrameCache} {last : CallStack 64 ε FrameCache τ}
    (computed : Attempt.run ((platform.walker target registers).cachesTo level) before =
      (.ok caches, last)) :
    ∃ place after, FrameCache.RecoveredFrom caches number place ∧
      Attempt.run ((platform.walker target registers).callerLocation level number) before =
        (.ok place.location, after) ∧
      Attempt.run ((platform.walker target registers).callerRegister level number) before =
        Attempt.run ((platform.walker target registers).fetch (registerFile.width number) place)
          after := by
  induction level generalizing before caches with
  | zero =>
    obtain ⟨unwinder, cache, rfl, here⟩ := Walker.cachesTo_zero_eq_ok computed
    obtain ⟨-, -, frame, -, idle, chosen, -⟩ := Walker.recorded_of_cacheAt settled here
    have same := previousRegister_of_mem (idle.unwinder chosen).1
    by_cases saves : cache.Saves number
    · have recovered : FrameCache.RecoveredFrom ([] ++ [cache]) number (cache.previousRegister number) :=
        FrameCache.recoveredFrom_concat saves
      exact ⟨_, last, recovered, run_of_saves here same known saves⟩
    · have located : unwinder.previousRegister cache number = .register number := by
        rw [same, FrameCache.previousRegister_of_not_saves saves]
      refine ⟨.register number, last, .thread ?_, Walker.run_callerLocation_zero here located,
        Walker.run_callerRegister_of_register here (size_eq_width registers known) located⟩
      simpa using saves
  | succ level ih =>
    obtain ⟨unwinder, cache, middle, inside, rfl, here, further⟩ :=
      Walker.cachesTo_succ_eq_ok computed
    obtain ⟨-, settled', frame, -, idle, chosen, -⟩ := Walker.recorded_of_cacheAt settled here
    have same := previousRegister_of_mem (idle.unwinder chosen).1
    by_cases saves : cache.Saves number
    · exact ⟨_, middle, FrameCache.recoveredFrom_concat saves, run_of_saves here same known saves⟩
    · have located : unwinder.previousRegister cache number = .register number := by
        rw [same, FrameCache.previousRegister_of_not_saves saves]
      obtain ⟨place, after, recovered, location, value⟩ :=
        ih (settled'.mono (Nat.le_succ _)) further
      refine ⟨place, after, recovered.concat saves, ?_, ?_⟩
      · rw [Walker.run_callerLocation_succ here located, location]
      · rw [Walker.run_callerRegister_of_register here (size_eq_width registers known) located]
        exact value

theorem length_of_fetch {caches : List FrameCache} {place : PreviousRegister 64}
    (recovered : FrameCache.RecoveredFrom caches number place) (known : number < registerFile.count)
    {bytes : Bytes}
    (fetched : (Attempt.run ((platform.walker target registers).fetch (registerFile.width number)
      place) before).1 = .ok bytes) : bytes.length = registerFile.width number := by
  cases recovered with
  | @stackPointer _ cache _ sp _ =>
    subst sp
    cases fetched
    exact Address.length_toBytes cache.callerSp
  | @memory _ _ address _ _ _ =>
    unfold Walker.fetch at fetched
    rcases read : Attempt.run (Walker.onTarget .target ((platform.walker target registers).target.read
      address (registerFile.width number))) before with ⟨outcome, after⟩
    cases outcome with
    | error error =>
      rw [Attempt.run_bind_error read] at fetched
      cases fetched
    | ok block =>
      rw [Attempt.run_bind_ok read] at fetched
      cases fetched
      exact block.property
  | thread _ =>
    have content : (registers.read number).mapError Error.register = .ok bytes := fetched
    cases value : registers.read number with
    | error error =>
      rw [value] at content
      cases content
    | ok value' =>
      rw [value] at content
      cases content
      have sized := RegisterCache.size_of_read value
      exact Except.ok.inj (sized.symm.trans (size_eq_width registers known))

end Recovery

/-- Between any two questions, the first frame inwards that has saved a register of a frame's caller
decides where that register is and which value it has. If no frame has, then it is still in the thread.
The value fails to be recovered only if it cannot be fetched from there. What a frame has saved is what
the stack records of it. -/
theorem callerRegister_recovered (platform : Platform) (target : Target 64 ε τ)
    (registers : RegisterCache registerFile) {memory : τ} {first : CallStack 64 ε FrameCache τ}
    (started : (platform.walker target registers).start memory = .ok first)
    (history : List (StackCall 64 ε)) {level : Nat}
    (inside : level < ((platform.walker target registers).after history first).frames.size)
    {caches : List FrameCache}
    (computed : (Attempt.run ((platform.walker target registers).cachesTo level)
      ((platform.walker target registers).after history first)).1 = .ok caches)
    {number : Nat} (known : number < registerFile.count) :
    caches.length = level + 1 ∧
      (Attempt.run ((platform.walker target registers).cachesTo level)
        ((platform.walker target registers).after history first)).2.Records caches ∧
      ∃ place after, FrameCache.RecoveredFrom caches number place ∧
      Attempt.run ((platform.walker target registers).callerLocation level number)
          ((platform.walker target registers).after history first) = (.ok place.location, after) ∧
      Attempt.run ((platform.walker target registers).callerRegister level number)
          ((platform.walker target registers).after history first) =
        Attempt.run ((platform.walker target registers).fetch (registerFile.width number) place)
          after ∧
      ∀ bytes, (Attempt.run ((platform.walker target registers).callerRegister level number)
          ((platform.walker target registers).after history first)).1 = .ok bytes →
        bytes.length = registerFile.width number := by
  have intact := (Walker.intact_after history (Walker.intact_start started)).1
  have listed : Attempt.run ((platform.walker target registers).cachesTo level)
      ((platform.walker target registers).after history first) = (.ok caches, _) :=
    Prod.ext computed rfl
  obtain ⟨place, after, recovered, location, value⟩ :=
    run_recovered known (intact.settled.mono inside) listed
  refine ⟨Walker.length_caches listed,
    (Walker.recorded_of_cachesTo (intact.settled.mono inside) listed).2,
    place, after, recovered, location, value, fun bytes found => ?_⟩
  rw [value] at found
  exact length_of_fetch recovered known found

/-- The thread whose signal handler has been called, once its stack has been walked. -/
def walkedStack : CallStack 64 Empty FrameCache (Memory 64 Empty) :=
  (Linux.platform.walker (Memory.target 64 Empty) sampleHandler).after [.backtrace 5]
    ⟨#[{ pc := sampleDelivery.pc }], 0, sampleMemory⟩

/-- The interrupted function has not saved `rax`, but the trampoline inside it has. -/
theorem callerRegister_recovered_interrupted : ∃ caches place after,
    (Attempt.run ((Linux.platform.walker (Memory.target 64 Empty) sampleHandler).cachesTo 2)
      walkedStack).1 = .ok caches ∧
    (Attempt.run ((Linux.platform.walker (Memory.target 64 Empty) sampleHandler).cachesTo 2)
      walkedStack).2.Records caches ∧
    FrameCache.RecoveredFrom caches rax place ∧ place.location = .memory 0x70a0 ∧
    Attempt.run ((Linux.platform.walker (Memory.target 64 Empty) sampleHandler).callerRegister 2 rax)
        walkedStack =
      Attempt.run ((Linux.platform.walker (Memory.target 64 Empty) sampleHandler).fetch
        (registerFile.width rax) place) after := by
  have started : (Linux.platform.walker (Memory.target 64 Empty) sampleHandler).start sampleMemory =
      .ok ⟨#[{ pc := sampleDelivery.pc }], 0, sampleMemory⟩ :=
    Walker.start_eq_ok sampleDelivers.pcRegister (Address.ofBytes?_toBytes _)
  have inside : 2 < walkedStack.frames.size := by decide +kernel
  have known : rax < registerFile.count := by decide
  have found : ((Attempt.run ((Linux.platform.walker (Memory.target 64 Empty)
      sampleHandler).cachesTo 2) walkedStack).1.toOption).isSome := by decide +kernel
  have saved : (Attempt.run ((Linux.platform.walker (Memory.target 64 Empty)
      sampleHandler).callerLocation 2 rax) walkedStack).1.toOption = some (.memory 0x70a0) := by
    decide +kernel
  cases computed : (Attempt.run ((Linux.platform.walker (Memory.target 64 Empty)
      sampleHandler).cachesTo 2) walkedStack).1 with
  | error error =>
    rw [computed] at found
    cases found
  | ok caches =>
    obtain ⟨-, recorded, place, after, recovered, location, value, -⟩ :=
      callerRegister_recovered Linux.platform (Memory.target 64 Empty) sampleHandler started
        [.backtrace 5] inside computed known
    refine ⟨caches, place, after, rfl, recorded, recovered, ?_, value⟩
    have same : (.ok place.location : Except (Error Empty) _).toOption = some (.memory 0x70a0) :=
      congrArg (Except.toOption ·.1) location ▸ saved
    exact Option.some.inj same

end Amd64

end Inferior

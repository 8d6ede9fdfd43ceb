import Inferior.Proofs.FailureRelay
import Inferior.Proofs.Memoization

/-! What is found out about frames is kept, in front of any program and whatever fails.

Questions about a frame are answered without touching the frames around it, and what is recorded of
a frame, once it is there, stays. A cache is only on its way while its own frame is being looked at.
-/

set_option autoImplicit false

namespace Inferior

variable {w : Nat} {ε κ τ α β : Type}

namespace KnownFrame

/-- A frame about which no less is recorded than before, and nothing else. -/
structure Keeps (before after : KnownFrame w ε κ) : Prop where
  pc : after.pc = before.pc
  unwinder {unwinder : Unwinder w ε κ} (kept : before.unwinder = some unwinder) :
    after.unwinder = some unwinder
  cache {cache : κ} (kept : before.cache = .ready cache) : after.cache = .ready cache
  frameId {frameId : Option (FrameId w)} (kept : before.frameId = some frameId) :
    after.frameId = some frameId
  caller {caller : Caller} (kept : before.caller = some caller) : after.caller = some caller

theorem Keeps.refl (frame : KnownFrame w ε κ) : frame.Keeps frame := ⟨rfl, id, id, id, id⟩

theorem Keeps.trans {first second third : KnownFrame w ε κ} (one : first.Keeps second)
    (two : second.Keeps third) : first.Keeps third :=
  ⟨two.pc.trans one.pc, two.unwinder ∘ one.unwinder, two.cache ∘ one.cache,
    two.frameId ∘ one.frameId, two.caller ∘ one.caller⟩

/-- A frame at which nothing is going on. An unwinder of the walker may have claimed it, and its id
comes from its cache. -/
structure Settled (frame : KnownFrame w ε κ) (walker : Walker w ε κ τ) : Prop where
  unwinder {unwinder : Unwinder w ε κ} (kept : frame.unwinder = some unwinder) :
    unwinder ∈ walker.unwinders ∧ unwinder.claims frame.pc ≠ pure false
  idle : frame.cache ≠ .computing
  owned {cache : κ} (ready : frame.cache = .ready cache) :
    ∃ unwinder, frame.unwinder = some unwinder
  identified {frameId : Option (FrameId w)} (kept : frame.frameId = some frameId) :
    ∃ unwinder cache, frame.unwinder = some unwinder ∧ frame.cache = .ready cache ∧
      unwinder.frameId cache frame.pc = frameId

theorem Keeps.stage {frame : KnownFrame w ε κ} (unready : frame.cache.isReady = false)
    (stage : CacheStage κ) : frame.Keeps { frame with cache := stage } where
  pc := rfl
  unwinder := id
  cache ready := by
    rw [ready] at unready
    cases unready
  frameId := id
  caller := id

theorem Settled.unidentified {frame : KnownFrame w ε κ} {walker : Walker w ε κ τ}
    (settled : frame.Settled walker) (uncomputed : frame.cache = .uncomputed) :
    frame.frameId = none := by
  cases kept : frame.frameId with
  | none => rfl
  | some frameId =>
    obtain ⟨_, _, -, ready, -⟩ := settled.identified kept
    cases uncomputed.symm.trans ready

theorem Settled.ofResult {frame : KnownFrame w ε κ} {walker : Walker w ε κ τ}
    (settled : frame.Settled walker) {unwinder : Unwinder w ε κ}
    (chosen : frame.unwinder = some unwinder) (unidentified : frame.frameId = none)
    (result : Except (Error ε) κ) :
    ({ frame with cache := .ofResult result } : KnownFrame w ε κ).Settled walker where
  unwinder := settled.unwinder
  idle := CacheStage.ofResult_ne_computing result
  owned _ := ⟨unwinder, chosen⟩
  identified kept := by
    rw [unidentified] at kept
    cases kept

end KnownFrame

namespace CallStack

/-- No frame is lost, and what is recorded of each one stays. -/
def Keeps (before after : CallStack w ε κ τ) : Prop :=
  ∀ (level : Nat) (frame : KnownFrame w ε κ), before.frames[level]? = some frame →
    ∃ frame', after.frames[level]? = some frame' ∧ frame.Keeps frame'

theorem Keeps.refl (stack : CallStack w ε κ τ) : stack.Keeps stack :=
  fun _ frame found => ⟨frame, found, .refl frame⟩

theorem Keeps.trans {first second third : CallStack w ε κ τ} (one : first.Keeps second)
    (two : second.Keeps third) : first.Keeps third := by
  intro level frame found
  obtain ⟨frame', found', keeps⟩ := one level frame found
  obtain ⟨frame'', found'', keeps'⟩ := two level frame' found'
  exact ⟨frame'', found'', keeps.trans keeps'⟩

theorem Keeps.update {stack : CallStack w ε κ τ} {level : Nat} {frame : KnownFrame w ε κ}
    {change : KnownFrame w ε κ → KnownFrame w ε κ} (found : stack.frames[level]? = some frame)
    (keeps : frame.Keeps (change frame)) : stack.Keeps (stack.update level change) := by
  intro other frame' found'
  rw [frame_update]
  by_cases here : level = other
  · subst here
    cases found.symm.trans found'
    rw [if_pos rfl, found]
    exact ⟨change frame, rfl, keeps⟩
  · rw [if_neg here]
    exact ⟨frame', found', .refl frame'⟩

theorem Keeps.size_le {before after : CallStack w ε κ τ} (keeps : before.Keeps after) :
    before.frames.size ≤ after.frames.size := by
  rcases Nat.eq_zero_or_pos before.frames.size with none | some
  · omega
  · obtain ⟨_, found, -⟩ :=
      keeps _ _ (Array.getElem?_eq_getElem (Nat.sub_one_lt (Nat.ne_of_gt some)))
    have := (Array.getElem?_eq_some_iff.1 found).1
    omega

def readyCaches (stack : CallStack w ε κ τ) : Nat := stack.frames.countP (·.cache.isReady)

/-- What looking at frames below a level may change: more is recorded of them, and each cache that
is there now but was not before has been computed once. -/
structure Grows (before after : CallStack w ε κ τ) (bound : Nat) : Prop where
  untouched : before.UntouchedFrom after bound
  keeps : before.Keeps after
  counted : after.computations + before.readyCaches = before.computations + after.readyCaches

theorem Grows.refl (stack : CallStack w ε κ τ) (bound : Nat) : stack.Grows stack bound :=
  ⟨.refl stack bound, .refl stack, rfl⟩

theorem Grows.trans {first second third : CallStack w ε κ τ} {bound : Nat}
    (one : first.Grows second bound) (two : second.Grows third bound) : first.Grows third bound := by
  refine ⟨one.untouched.trans two.untouched, one.keeps.trans two.keeps, ?_⟩
  have first := one.counted
  have second := two.counted
  omega

theorem Grows.mono {before after : CallStack w ε κ τ} {bound lower : Nat}
    (grows : before.Grows after lower) (le : lower ≤ bound) : before.Grows after bound :=
  ⟨grows.untouched.mono le, grows.keeps, grows.counted⟩

theorem Grows.memory (stack : CallStack w ε κ τ) (memory : τ) (bound : Nat) :
    stack.Grows { stack with memory } bound :=
  ⟨⟨rfl, fun _ => rfl, fun _ => rfl⟩, .refl stack, rfl⟩

theorem readyCaches_update {stack : CallStack w ε κ τ} {level : Nat} {frame : KnownFrame w ε κ}
    (found : stack.frames[level]? = some frame) (change : KnownFrame w ε κ → KnownFrame w ε κ) :
    (stack.update level change).readyCaches + (if frame.cache.isReady then 1 else 0) =
      stack.readyCaches + if (change frame).cache.isReady then 1 else 0 := by
  obtain ⟨inside, same⟩ := Array.getElem?_eq_some_iff.1 found
  have replaced : (stack.update level change).frames = stack.frames.set level (change frame) := by
    refine Array.ext_getElem? fun other => ?_
    rw [frame_update, Array.getElem?_set]
    split
    · rename_i here
      subst here
      rw [found]
      rfl
    · rfl
  have one : (if frame.cache.isReady then 1 else 0) ≤ stack.readyCaches := by
    rw [← same]
    exact Array.boole_getElem_le_countP (p := fun frame => frame.cache.isReady) inside
  unfold readyCaches at one ⊢
  rw [replaced, Array.countP_set, same]
  omega

theorem readyCaches_update_of_same {stack : CallStack w ε κ τ} {level : Nat}
    {frame : KnownFrame w ε κ} {change : KnownFrame w ε κ → KnownFrame w ε κ}
    (found : stack.frames[level]? = some frame)
    (same : (change frame).cache.isReady = frame.cache.isReady) :
    (stack.update level change).readyCaches = stack.readyCaches := by
  have counted := readyCaches_update found change
  rw [same] at counted
  exact Nat.add_right_cancel counted

/-- More is recorded of a frame below a level. Its cache is no more ready than before. -/
theorem Grows.update {stack : CallStack w ε κ τ} {level bound : Nat} {frame : KnownFrame w ε κ}
    {change : KnownFrame w ε κ → KnownFrame w ε κ} (found : stack.frames[level]? = some frame)
    (inside : level < bound) (sameCaller : ∀ frame, (change frame).caller = frame.caller)
    (keeps : frame.Keeps (change frame))
    (sameCache : (change frame).cache.isReady = frame.cache.isReady) :
    stack.Grows (stack.update level change) bound where
  untouched := .update inside sameCaller
  keeps := .update found keeps
  counted := congrArg (stack.computations + ·) (readyCaches_update_of_same found sameCache).symm

theorem Grows.mark {stack : CallStack w ε κ τ} {level : Nat} {frame : KnownFrame w ε κ}
    (found : stack.frames[level]? = some frame) (unready : frame.cache.isReady = false) :
    stack.Grows (stack.mark level) (level + 1) :=
  .update found (Nat.lt_succ_self level) (fun _ => rfl) (.stage unready _) unready.symm

theorem Grows.finish {stack : CallStack w ε κ τ} {level : Nat} {frame : KnownFrame w ε κ}
    (found : stack.frames[level]? = some frame) (unready : frame.cache.isReady = false)
    (result : Except (Error ε) κ) : stack.Grows (stack.finish level result) (level + 1) where
  untouched := .finish stack level result
  keeps := .update found (.stage unready _)
  counted := by
    have counted := readyCaches_update found ({ · with cache := .ofResult result })
    rw [unready] at counted
    have same : (stack.finish level result).readyCaches =
        (stack.update level ({ · with cache := .ofResult result })).readyCaches := rfl
    have computed : (stack.finish level result).computations =
      stack.computations + if (CacheStage.ofResult result).isReady then 1 else 0 := rfl
    simp only [Bool.false_eq_true, if_false] at counted
    omega

def SettledBelow (stack : CallStack w ε κ τ) (walker : Walker w ε κ τ) (bound : Nat) : Prop :=
  stack.EachBelow (fun _ frame => frame.Settled walker) bound

def KnowsPc (stack : CallStack w ε κ τ) (level : Nat) (pc : BitVec w) : Prop :=
  ∃ frame, stack.frames[level]? = some frame ∧ frame.pc = pc

def KnowsKind (stack : CallStack w ε κ τ) (level : Nat) (kind : FrameKind) : Prop :=
  ∃ frame unwinder, stack.frames[level]? = some frame ∧ frame.unwinder = some unwinder ∧
    unwinder.kind = kind

/-- The id of a frame is recorded, or that it has none. -/
def KnowsId (stack : CallStack w ε κ τ) (level : Nat) (frameId : Option (FrameId w)) : Prop :=
  ∃ frame, stack.frames[level]? = some frame ∧ frame.frameId = some frameId

theorem KnowsPc.keep {before after : CallStack w ε κ τ} {level : Nat} {pc : BitVec w}
    (knows : before.KnowsPc level pc) (keeps : before.Keeps after) : after.KnowsPc level pc := by
  obtain ⟨frame, found, same⟩ := knows
  obtain ⟨frame', found', kept⟩ := keeps level frame found
  exact ⟨frame', found', kept.pc.trans same⟩

theorem KnowsKind.keep {before after : CallStack w ε κ τ} {level : Nat} {kind : FrameKind}
    (knows : before.KnowsKind level kind) (keeps : before.Keeps after) :
    after.KnowsKind level kind := by
  obtain ⟨frame, unwinder, found, chosen, same⟩ := knows
  obtain ⟨frame', found', kept⟩ := keeps level frame found
  exact ⟨frame', unwinder, found', kept.unwinder chosen, same⟩

theorem KnowsId.keep {before after : CallStack w ε κ τ} {level : Nat}
    {frameId : Option (FrameId w)} (knows : before.KnowsId level frameId)
    (keeps : before.Keeps after) : after.KnowsId level frameId := by
  obtain ⟨frame, found, recorded⟩ := knows
  obtain ⟨frame', found', kept⟩ := keeps level frame found
  exact ⟨frame', found', kept.frameId recorded⟩

theorem KnowsId.unique {stack : CallStack w ε κ τ} {level : Nat}
    {frameId frameId' : Option (FrameId w)} (knows : stack.KnowsId level frameId)
    (knows' : stack.KnowsId level frameId') : frameId = frameId' := by
  obtain ⟨frame, found, recorded⟩ := knows
  obtain ⟨frame', found', recorded'⟩ := knows'
  cases found.symm.trans found'
  exact Option.some.inj (recorded.symm.trans recorded')

end CallStack

namespace Walker

/-- A walk below a level, in front of any program: it records more of the frames below the level and
leaves them settled. It comes to a result with a property, or fails in a way that is allowed. -/
def Learns (walker : Walker w ε κ τ) (allowed : Error ε → Prop) (bound : Nat)
    (walk : Walk w ε κ τ α) (before : CallStack w ε κ τ) (fact : α → CallStack w ε κ τ → Prop) :
    Prop :=
  ∃ result after, Attempt.run walk before = (result, after) ∧ before.Grows after bound ∧
    after.SettledBelow walker bound ∧ FailsOnly allowed result ∧
    ∀ value, result = .ok value → fact value after

namespace Learns

variable {walker : Walker w ε κ τ} {allowed : Error ε → Prop} {bound : Nat}
  {before : CallStack w ε κ τ} {fact : α → CallStack w ε κ τ → Prop}

theorem ofExcept (settled : before.SettledBelow walker bound) {result : Except (Error ε) α}
    (fails : FailsOnly allowed result) (holds : ∀ value, result = .ok value → fact value before) :
    walker.Learns allowed bound (Attempt.ofExcept result) before fact :=
  ⟨result, before, rfl, .refl before bound, settled, fails, holds⟩

theorem pure (settled : before.SettledBelow walker bound) {value : α} (holds : fact value before) :
    walker.Learns allowed bound (Pure.pure value) before fact :=
  ofExcept settled (failsOnly_ok value) fun _ same => Except.ok.inj same ▸ holds

theorem throw (settled : before.SettledBelow walker bound) {error : Error ε} (fine : allowed error) :
    walker.Learns allowed bound (MonadExcept.throw error) before fact :=
  ofExcept settled (failsOnly_error fine) nofun

theorem bind {walk : Walk w ε κ τ α} {next : α → Walk w ε κ τ β}
    {last : β → CallStack w ε κ τ → Prop} (first : walker.Learns allowed bound walk before fact)
    (second : ∀ value middle, before.Grows middle bound → middle.SettledBelow walker bound →
      fact value middle → walker.Learns allowed bound (next value) middle last) :
    walker.Learns allowed bound (walk >>= next) before last := by
  obtain ⟨result, middle, run, grows, settled, fails, holds⟩ := first
  unfold Learns
  rw [Attempt.run_bind, run]
  cases result with
  | error error => exact ⟨_, middle, rfl, grows, settled, failsOnly_error (fails error rfl), nofun⟩
  | ok value =>
    obtain ⟨result', after, run', grows', rest⟩ := second value middle grows settled (holds value rfl)
    exact ⟨result', after, run', grows.trans grows', rest⟩

theorem weaken {walk : Walk w ε κ τ α} {weaker : α → CallStack w ε κ τ → Prop}
    (learns : walker.Learns allowed bound walk before fact)
    (weakens : ∀ value after, before.Grows after bound → fact value after → weaker value after) :
    walker.Learns allowed bound walk before weaker := by
  obtain ⟨result, after, run, grows, settled, fails, holds⟩ := learns
  exact ⟨result, after, run, grows, settled, fails, fun value same =>
    weakens value after grows (holds value same)⟩

theorem result {walk : Walk w ε κ τ α} {wider : Error ε → Prop}
    (learns : walker.Learns allowed bound walk before fact) :
    walker.Learns wider bound (walk.result : Walk w ε κ τ (Except (Error ε) α)) before
      fun outcome after => FailsOnly allowed outcome ∧ ∀ value, outcome = .ok value →
        fact value after := by
  obtain ⟨outcome, after, run, grows, settled, fails, holds⟩ := learns
  refine ⟨.ok outcome, after, by simp [Attempt.result, run, Prod.map], grows, settled,
    failsOnly_ok outcome, ?_⟩
  rintro _ ⟨⟩
  exact ⟨fails, holds⟩

theorem mono {walk : Walk w ε κ τ α} {higher : Nat}
    (learns : walker.Learns allowed bound walk before fact)
    (settled : before.SettledBelow walker higher) (le : bound ≤ higher) :
    walker.Learns allowed higher walk before fact := by
  obtain ⟨outcome, after, run, grows, settled', rest⟩ := learns
  exact ⟨outcome, after, run, grows.mono le, settled.extend settled' grows.untouched, rest⟩

/-- What is found out below a level leaves the frame at the level as it was. -/
theorem beneath {walk : Walk w ε κ τ α} {level : Nat}
    (learns : walker.Learns allowed level walk before fact)
    (settled : before.SettledBelow walker (level + 1)) :
    walker.Learns allowed (level + 1) walk before fun value after =>
      fact value after ∧ after.frames[level]? = before.frames[level]? :=
  (learns.weaken fun _ _ grows holds =>
    ⟨holds, grows.untouched.beyond (Nat.le_refl level)⟩).mono settled (Nat.le_succ level)

end Learns

section Frame

variable {walker : Walker w ε κ τ} {allowed : Error ε → Prop} {bound : Nat}
  {before : CallStack w ε κ τ}

theorem learns_known {level : Nat} (settled : before.SettledBelow walker bound)
    (inside : level < bound) {next : KnownFrame w ε κ → Walk w ε κ τ α}
    {fact : α → CallStack w ε κ τ → Prop}
    (rest : ∀ frame, before.frames[level]? = some frame → frame.Settled walker →
      walker.Learns allowed bound (next frame) before fact) :
    walker.Learns allowed bound (known level >>= next) before fact := by
  obtain ⟨frame, found, idle⟩ := settled level inside
  unfold Learns
  rw [Attempt.run_bind_ok (run_known found)]
  exact rest frame found idle

theorem learns_updateFrame {level : Nat} {frame : KnownFrame w ε κ}
    {change : KnownFrame w ε κ → KnownFrame w ε κ}
    (settled : before.SettledBelow walker (level + 1))
    (found : before.frames[level]? = some frame)
    (sameCaller : ∀ frame, (change frame).caller = frame.caller) (keeps : frame.Keeps (change frame))
    (sameCache : (change frame).cache.isReady = frame.cache.isReady)
    (idle : (change frame).Settled walker) :
    walker.Learns allowed (level + 1) (updateFrame level change) before
      fun _ after => after.frames[level]? = some (change frame) := by
  refine ⟨.ok ⟨⟩, before.update level change, rfl,
    .update found (Nat.lt_succ_self level) sameCaller keeps sameCache,
    (settled.mono (Nat.le_succ level)).update found idle, failsOnly_ok _, fun _ _ => ?_⟩
  dsimp only
  rw [CallStack.frame_update, if_pos rfl, found]
  rfl

theorem learns_functionEntry (settled : before.SettledBelow walker bound) (address : BitVec w) :
    walker.Learns allowed bound (onTarget id (walker.target.functionEntry address)) before
      fun _ _ => True := by
  have lifted : ∃ found memory, Attempt.run (liftM (walker.target.functionEntry address) :
      Attempt τ (Error ε) _) before.memory = (.ok found, memory) := ⟨_, _, rfl⟩
  obtain ⟨found, memory, lifted⟩ := lifted
  refine ⟨.ok found, { before with memory }, ?_, .memory before memory bound, settled,
    failsOnly_ok found, fun _ _ => trivial⟩
  simp only [onTarget, Attempt.mapError, Attempt.zoom, Attempt.run_ofRun]
  rw [lifted]
  rfl

structure Inner.Learns (walker : Walker w ε κ τ) (allowed : Error ε → Prop) (bound : Nat)
    (inner : Inner w ε κ τ) : Prop where
  kind {before : CallStack w ε κ τ} (settled : before.SettledBelow walker bound) :
    walker.Learns allowed bound inner.kind before fun _ _ => True
  register {before : CallStack w ε κ τ} (settled : before.SettledBelow walker bound) (number : Nat) :
    walker.Learns allowed bound (inner.register number) before fun _ _ => True

variable (tolerates : walker.Tolerates allowed)
include tolerates

theorem learns_read (settled : before.SettledBelow walker bound) (address : BitVec w)
    (length : Nat) :
    walker.Learns allowed bound (onTarget .target (walker.target.read address length)) before
      fun _ _ => True := by
  rcases read : Attempt.run (walker.target.read address length) before.memory with ⟨outcome, memory⟩
  refine ⟨outcome.mapError .target, { before with memory }, ?_, .memory before memory bound, settled,
    .mapError tolerates.target outcome, fun _ _ => trivial⟩
  simp [onTarget, Attempt.mapError, Attempt.zoom, read, Prod.map]

theorem learns_answer {inner : Inner w ε κ τ} (learns : inner.Learns walker allowed bound)
    {query : FrameQuery w ε α} {post : α → Prop} (ensures : query.Ensures allowed post)
    (settled : before.SettledBelow walker bound) :
    walker.Learns allowed bound (walker.answer inner query) before fun value _ => post value := by
  induction query generalizing before with
  | done result =>
    cases result with
    | ok value => exact .pure settled ensures
    | error error => exact .throw settled ensures
  | innerKind resume ih =>
    refine (learns.kind settled).result.bind fun answer middle _ settled' outcome => ?_
    exact ih answer (ensures answer outcome.1) settled'
  | register number resume ih =>
    refine (learns.register settled number).result.bind fun answer middle _ settled' outcome => ?_
    exact ih answer (ensures answer outcome.1) settled'
  | memory address length resume ih =>
    refine (learns_read tolerates settled address length).result.bind
      fun answer middle _ settled' outcome => ?_
    exact ih answer (ensures answer outcome.1) settled'
  | functionEntry address resume ih =>
    refine (learns_functionEntry settled address).bind fun answer middle _ settled' _ => ?_
    exact ih answer (ensures answer) settled'

/-- Some unwinder claims the frame, or it is allowed that none does. -/
theorem learns_claimant {inner : Inner w ε κ τ} (learns : inner.Learns walker allowed bound)
    (settled : before.SettledBelow walker bound) (level : Nat) (pc : BitVec w)
    {unwinders : List (Unwinder w ε κ)} (listed : ∀ unwinder ∈ unwinders, unwinder ∈ walker.unwinders)
    (exhaustive : (∃ unwinder ∈ unwinders, ∀ pc, unwinder.claims pc = pure true) ∨
      ∀ level, allowed (.noUnwinder level)) :
    walker.Learns allowed bound (walker.claimant inner level pc unwinders) before
      fun unwinder _ => unwinder ∈ walker.unwinders ∧ unwinder.claims pc ≠ pure false := by
  induction unwinders generalizing before with
  | nil =>
    rcases exhaustive with ⟨_, none, -⟩ | fine
    · cases none
    · exact .throw settled (fine level)
  | cons unwinder rest ih =>
    obtain ⟨here, further⟩ := List.forall_mem_cons.1 listed
    have relays := tolerates.claims here pc
    have rest {middle : CallStack w ε κ τ} (settled : middle.SettledBelow walker bound)
        (declines : unwinder.claims pc ≠ pure true) :
        walker.Learns allowed bound (walker.claimant inner level pc rest) middle
          fun unwinder _ => unwinder ∈ walker.unwinders ∧ unwinder.claims pc ≠ pure false := by
      refine ih settled further (exhaustive.imp_left ?_)
      rintro ⟨other, listed', all⟩
      rcases List.mem_cons.1 listed' with rfl | listed'
      · exact absurd (all pc) declines
      · exact ⟨other, listed', all⟩
    refine (learns_answer tolerates learns relays.ensures_pure settled).bind
      fun claimed middle _ settled' only => ?_
    cases claimed with
    | true => exact .pure settled' ⟨here, fun declines => nomatch only false declines⟩
    | false => exact rest settled' fun claims => nomatch only true claims

/-- The unwinder of a frame is recorded. Its cache is left as it was. -/
theorem learns_unwinderAt {inner : Inner w ε κ τ} {level : Nat} {frame : KnownFrame w ε κ}
    (learns : inner.Learns walker allowed level) (settled : before.SettledBelow walker (level + 1))
    (found : before.frames[level]? = some frame) :
    walker.Learns allowed (level + 1) (walker.unwinderAt inner level) before fun unwinder after =>
      after.frames[level]? = some { frame with unwinder := some unwinder } := by
  refine learns_known settled (Nat.lt_succ_self level) fun frame' found' idle => ?_
  cases found.symm.trans found'
  cases chosen : frame.unwinder with
  | some unwinder =>
    refine .pure settled ?_
    rw [found, ← chosen]
  | none =>
    have claimed := learns_claimant tolerates learns (settled.mono (Nat.le_succ level)) level frame.pc
      (fun _ listed => listed) tolerates.exhaustive
    refine (claimed.beneath settled).bind fun unwinder middle _ settled' fact => ?_
    obtain ⟨mayClaim, same⟩ := fact
    have keeps : frame.Keeps { frame with unwinder := some unwinder } :=
      ⟨rfl, fun kept => (nomatch chosen.symm.trans kept), id, id, id⟩
    have idle' : ({ frame with unwinder := some unwinder } : KnownFrame w ε κ).Settled walker :=
      ⟨fun kept => Option.some.inj kept ▸ mayClaim, idle.idle, fun _ => ⟨unwinder, rfl⟩, fun kept => by
        obtain ⟨_, _, chosen', -⟩ := idle.identified kept
        cases chosen.symm.trans chosen'⟩
    refine .bind (learns_updateFrame settled' (same.trans found) (fun _ => rfl) keeps rfl idle') ?_
    exact fun _ _ _ settled'' found'' => .pure settled'' found''

/-- The cache of a frame is computed and recorded, or else nothing is going on at the frame any
more. -/
theorem learns_computeCache {inner : Inner w ε κ τ} {level : Nat} {frame : KnownFrame w ε κ}
    (learns : inner.Learns walker allowed level) (settled : before.SettledBelow walker (level + 1))
    (found : before.frames[level]? = some frame) (uncomputed : frame.cache = .uncomputed) :
    walker.Learns allowed (level + 1) (walker.computeCache inner level) before fun _ after =>
      ∃ frame' cache, after.frames[level]? = some frame' ∧ frame'.cache = .ready cache := by
  obtain ⟨choice, first, run, grows₁, settled₁, fails₁, chosen⟩ :=
    learns_unwinderAt tolerates learns settled found
  cases choice with
  | error error =>
    exact ⟨.error error, first, run_computeCache_of_unclaimed run, grows₁, settled₁,
      failsOnly_error (fails₁ error rfl), nofun⟩
  | ok unwinder =>
    have found₁ := chosen unwinder rfl
    obtain ⟨frame', found', idle⟩ := settled₁ level (Nat.lt_succ_self level)
    cases found₁.symm.trans found'
    have unready : frame.cache.isReady = false := by
      rw [uncomputed]
      rfl
    have unidentified : frame.frameId = none := idle.unidentified uncomputed
    -- While the cache is being computed, only the frames inside the level are settled.
    have marked : (first.mark level).SettledBelow walker level :=
      (settled₁.mono (Nat.le_succ level)).update_beyond (Nat.le_refl level) _
    obtain ⟨result, third, run', grows₃, settled₃, fails, -⟩ := learns_answer tolerates learns
      (tolerates.cache (idle.unwinder rfl).1 (idle.unwinder rfl).2) marked
    have found₃ := (grows₃.untouched.beyond (Nat.le_refl level)).trans (CallStack.frame_mark found₁)
    have grows : before.Grows third (level + 1) :=
      (grows₁.trans (.mark found₁ unready)).trans (grows₃.mono (Nat.le_succ level))
    refine ⟨_, _, run_computeCache_of_chosen run found₁ run', grows.trans (.finish found₃ rfl result),
      settled₃.finish found₃ (idle.ofResult rfl unidentified result), ?_, ?_⟩
    · cases result with
      | error error => exact failsOnly_error (fails error rfl)
      | ok cache => exact failsOnly_ok _
    · intro _ computed
      cases result with
      | error error => cases computed
      | ok cache => exact ⟨_, cache, CallStack.frame_finish found₃ _, rfl⟩

theorem learns_cacheAt {inner : Inner w ε κ τ} {level : Nat}
    (learns : inner.Learns walker allowed level) (settled : before.SettledBelow walker (level + 1)) :
    walker.Learns allowed (level + 1) (walker.cacheAt inner level) before fun pair after =>
      ∃ frame, after.frames[level]? = some frame ∧ frame.unwinder = some pair.1 ∧
        frame.cache = .ready pair.2 := by
  refine learns_known settled (Nat.lt_succ_self level) fun frame found idle => ?_
  cases stage : frame.cache with
  | computing => exact absurd stage idle.idle
  | ready cache =>
    simp only
    refine learns_known settled (Nat.lt_succ_self level) fun frame' found' idle' => ?_
    cases found.symm.trans found'
    obtain ⟨unwinder, chosen⟩ := idle'.owned stage
    simp only [chosen, stage]
    exact .pure settled ⟨frame, found, chosen, stage⟩
  | uncomputed =>
    refine (learns_computeCache tolerates learns settled found stage).bind
      fun _ middle _ settled' computed => ?_
    obtain ⟨frame', cache, found', ready⟩ := computed
    refine learns_known settled' (Nat.lt_succ_self level) fun frame'' found'' idle'' => ?_
    cases found'.symm.trans found''
    obtain ⟨unwinder, chosen⟩ := idle''.owned ready
    simp only [chosen, ready]
    exact .pure settled' ⟨frame', found', chosen, ready⟩

theorem learns_unwindFrom {inner : Inner w ε κ τ} {level : Nat}
    (learns : inner.Learns walker allowed level) (settled : before.SettledBelow walker (level + 1))
    (number : Nat) :
    walker.Learns allowed (level + 1) (walker.unwindFrom inner level number) before
      fun _ _ => True := by
  have sized : walker.Learns allowed (level + 1)
      (Attempt.ofExcept ((walker.registers.size number).mapError .register)) before fun _ _ => True :=
    .ofExcept settled (.mapError tolerates.register _) fun _ _ => trivial
  refine sized.bind fun size first _ settled₁ _ => ?_
  refine (learns_cacheAt tolerates learns settled₁).bind fun pair second _ settled₂ _ => ?_
  obtain ⟨unwinder, cache⟩ := pair
  cases located : unwinder.previousRegister cache number with
  | constant value =>
    -- The buffer has room for an address, whatever the size of the register.
    have room : ¬(Bytes.zeros (max size (Address.width w))).length < Address.width w := by
      rw [Bytes.length_zeros]
      exact Nat.not_lt.2 (Nat.le_max_right _ _)
    simp only [located, LittleEndian.write?, if_neg room]
    exact .pure settled₂ trivial
  | memory address =>
    simp only [located]
    exact (learns_read tolerates settled₂ address size).bind fun _ _ _ settled₃ _ =>
      .pure settled₃ trivial
  | register other =>
    simp only [located]
    exact (learns.register (settled₂.mono (Nat.le_succ level)) other).mono settled₂
      (Nat.le_succ level)

theorem learns_inner (level : Nat) : (walker.inner level).Learns walker allowed level := by
  induction level with
  | zero =>
    refine ⟨fun settled => .pure settled trivial, fun settled number => ?_⟩
    exact .ofExcept settled (.mapError tolerates.register _) fun _ _ => trivial
  | succ level ih =>
    refine ⟨fun settled => ?_, fun settled number => learns_unwindFrom tolerates ih settled number⟩
    refine learns_known settled (Nat.lt_succ_self level) fun frame found _ => ?_
    exact (learns_unwinderAt tolerates ih settled found).bind fun _ _ _ settled' _ =>
      .pure settled' trivial

section Level

variable {level : Nat} (settled : before.SettledBelow walker (level + 1))
include settled

omit tolerates in
theorem learns_pcAt :
    walker.Learns allowed (level + 1) (pcAt level) before fun pc after => after.KnowsPc level pc :=
  learns_known settled (Nat.lt_succ_self level) fun frame found _ =>
    .pure settled ⟨frame, found, rfl⟩

theorem learns_kindAt : walker.Learns allowed (level + 1) (walker.kindAt level) before
    fun kind after => after.KnowsKind level kind := by
  obtain ⟨frame, found, -⟩ := settled level (Nat.lt_succ_self level)
  refine (learns_unwinderAt tolerates (learns_inner tolerates level) settled found).bind
    fun unwinder middle _ settled' found' => ?_
  exact .pure settled' ⟨_, unwinder, found', rfl, rfl⟩

theorem learns_idAt : walker.Learns allowed (level + 1) (walker.idAt level) before
    fun frameId after => after.KnowsId level frameId := by
  refine learns_known settled (Nat.lt_succ_self level) fun frame found _ => ?_
  cases recorded : frame.frameId with
  | some frameId => exact .pure settled ⟨frame, found, recorded⟩
  | none =>
    refine (learns_cacheAt tolerates (learns_inner tolerates level) settled).bind
      fun pair middle grows settled' fact => ?_
    obtain ⟨unwinder, cache⟩ := pair
    obtain ⟨frame', found', chosen, ready⟩ := fact
    obtain ⟨frame'', found'', idle⟩ := settled' level (Nat.lt_succ_self level)
    cases found'.symm.trans found''
    obtain ⟨_, kept, same⟩ := grows.keeps level frame found
    cases found'.symm.trans kept
    -- An id that is there by now is the one that this cache gives.
    have agrees {frameId : Option (FrameId w)} (kept : frame'.frameId = some frameId) :
        unwinder.frameId cache frame.pc = frameId := by
      obtain ⟨_, _, chosen', ready', computed⟩ := idle.identified kept
      cases chosen.symm.trans chosen'
      cases ready.symm.trans ready'
      rw [← computed, same.pc]
    refine .bind (learns_updateFrame settled' found' (fun _ => rfl) ?_ rfl ?_)
      fun _ _ _ settled'' found'' => .pure settled'' ⟨_, found'', rfl⟩
    · exact ⟨rfl, id, id, fun kept => congrArg some (agrees kept), id⟩
    · refine ⟨idle.unwinder, idle.idle, idle.owned, fun kept => ⟨unwinder, cache, chosen, ready, ?_⟩⟩
      rw [← Option.some.inj kept]
      exact congrArg _ same.pc

theorem learns_baseAt :
    walker.Learns allowed (level + 1) (walker.baseAt level) before fun _ _ => True :=
  (learns_cacheAt tolerates (learns_inner tolerates level) settled).bind fun _ _ _ settled' _ =>
    .pure settled' trivial

theorem learns_registerAt (number : Nat) :
    walker.Learns allowed (level + 1) (walker.registerAt level number) before fun _ _ => True :=
  learns_known settled (Nat.lt_succ_self level) fun _ _ _ =>
    ((learns_inner tolerates level).register (settled.mono (Nat.le_succ level)) number).mono settled
      (Nat.le_succ level)

theorem learns_addressAt (number : Nat) :
    walker.Learns allowed (level + 1) (walker.addressAt level number) before fun _ _ => True := by
  refine (learns_registerAt tolerates settled number).bind fun bytes _ _ settled' _ => ?_
  obtain ⟨address, found⟩ := addressOf_eq_ok (w := w) (ε := ε) bytes
  rw [found]
  exact .pure settled' trivial

theorem learns_callerRegister (number : Nat) :
    walker.Learns allowed (level + 1) (walker.callerRegister level number) before
      fun _ _ => True :=
  learns_unwindFrom tolerates (learns_inner tolerates level) settled number

theorem learns_ask {query : FrameQuery w ε α} {post : α → Prop}
    (ensures : query.Ensures allowed post) :
    walker.Learns allowed (level + 1) (walker.ask level query) before fun value _ => post value :=
  (learns_answer tolerates (learns_inner tolerates level) ensures
    (settled.mono (Nat.le_succ level))).mono settled (Nat.le_succ level)

end Level

end Frame

end Walker

end Inferior

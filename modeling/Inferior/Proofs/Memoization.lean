import Inferior.Proofs.Survey
import Inferior.Proofs.UnwindingSteps

/-! What a call stack keeps of its frames is what a fresh computation gives.

Finding out about a frame asks only about frames inside it. So the frames below a level are all
that has to be right for an answer at that level, and a frame whose cache is being computed does
no harm: nothing that is asked on the way looks at it.
-/

set_option autoImplicit false

namespace Inferior

variable {w : Nat} {ε κ τ α β : Type}

/-- All that is kept of a frame is right, and its cache is not being computed. -/
structure KnownFrame.Faithful (frame : KnownFrame w ε κ) (scene : Scene w ε κ) (view : View w ε) :
    Prop where
  pc : frame.pc = view.pc
  unwinder {unwinder : Unwinder w ε κ} (kept : frame.unwinder = some unwinder) :
    scene.unwinder view = .ok unwinder
  cache : frame.cache = .uncomputed ∨
    ∃ unwinder cache, frame.unwinder = some unwinder ∧ frame.cache = .ready cache ∧
      scene.cache view = .ok (unwinder, cache)
  frameId {frameId : Option (FrameId w)} (kept : frame.frameId = some frameId) :
    scene.frameId view = .ok frameId
  caller {caller : Caller} (kept : frame.caller = some caller) :
    scene.caller view.level = .ok caller

theorem KnownFrame.Faithful.choose {frame : KnownFrame w ε κ} {scene : Scene w ε κ}
    {view : View w ε} {unwinder : Unwinder w ε κ} (kept : frame.Faithful scene view)
    (unchosen : frame.unwinder = none) (claimed : scene.unwinder view = .ok unwinder) :
    ({ frame with unwinder := some unwinder } : KnownFrame w ε κ).Faithful scene view where
  pc := kept.pc
  unwinder same := Option.some.inj same ▸ claimed
  cache := by
    rcases kept.cache with cache | ⟨other, _, chosen, _⟩
    · exact .inl cache
    · cases unchosen.symm.trans chosen
  frameId := kept.frameId
  caller := kept.caller

theorem KnownFrame.Faithful.ofResult {frame : KnownFrame w ε κ} {scene : Scene w ε κ}
    {view : View w ε} {unwinder : Unwinder w ε κ} (kept : frame.Faithful scene view)
    (chosen : frame.unwinder = some unwinder) {result : Except (Error ε) κ}
    (fresh : scene.cache view = result.map (unwinder, ·)) :
    ({ frame with cache := .ofResult result } : KnownFrame w ε κ).Faithful scene view where
  pc := kept.pc
  unwinder := kept.unwinder
  cache := by
    cases result with
    | error error => exact .inl rfl
    | ok cache => exact .inr ⟨unwinder, cache, chosen, rfl, fresh⟩
  frameId := kept.frameId
  caller := kept.caller

namespace CallStack

structure FaithfulBelow (stack : CallStack w ε κ τ) (scene : Scene w ε κ) (held : τ → Prop)
    (bound : Nat) : Prop where
  memory : held stack.memory
  each : stack.EachBelow
    (fun level frame => ∃ view, scene.view level = .ok view ∧ frame.Faithful scene view) bound

namespace FaithfulBelow

variable {scene : Scene w ε κ} {held : τ → Prop} {stack : CallStack w ε κ τ} {bound lower : Nat}

theorem frames (faithful : stack.FaithfulBelow scene held bound) {level : Nat}
    (inside : level < bound) :
    ∃ frame view, stack.frames[level]? = some frame ∧ scene.view level = .ok view ∧
      frame.Faithful scene view := by
  obtain ⟨frame, found, view, seen, right⟩ := faithful.each level inside
  exact ⟨frame, view, found, seen, right⟩

theorem mono (faithful : stack.FaithfulBelow scene held bound) (le : lower ≤ bound) :
    stack.FaithfulBelow scene held lower := ⟨faithful.memory, faithful.each.mono le⟩

/-- A change below a level leaves the frames in between as right as they were. -/
theorem extend {before after : CallStack w ε κ τ} (faithful : before.FaithfulBelow scene held bound)
    (inner : after.FaithfulBelow scene held lower) (untouched : before.UntouchedFrom after lower) :
    after.FaithfulBelow scene held bound :=
  ⟨inner.memory, faithful.each.extend inner.each untouched⟩

theorem update_beyond (faithful : stack.FaithfulBelow scene held bound) {level : Nat}
    (outside : bound ≤ level) (change : KnownFrame w ε κ → KnownFrame w ε κ) :
    (stack.update level change).FaithfulBelow scene held bound :=
  ⟨faithful.memory, faithful.each.update_beyond outside change⟩

variable {level : Nat} {frame : KnownFrame w ε κ} {view : View w ε}
  (faithful : stack.FaithfulBelow scene held level) (found : stack.frames[level]? = some frame)
  (seen : scene.view level = .ok view)
include faithful found seen

theorem update {change : KnownFrame w ε κ → KnownFrame w ε κ}
    (right : (change frame).Faithful scene view) :
    (stack.update level change).FaithfulBelow scene held (level + 1) :=
  ⟨faithful.memory, faithful.each.update found ⟨view, seen, right⟩⟩

theorem finish {result : Except (Error ε) κ}
    (right : ({ frame with cache := .ofResult result } : KnownFrame w ε κ).Faithful scene view) :
    (stack.finish level result).FaithfulBelow scene held (level + 1) :=
  ⟨faithful.memory, faithful.each.finish found ⟨view, seen, right⟩⟩

end FaithfulBelow

end CallStack

namespace Walker

/-- A walk below a level gives an answer wherever the frames below the level are right. It keeps
them right and touches no others. -/
def Answers (scene : Scene w ε κ) (held : τ → Prop) (bound : Nat) (walk : Walk w ε κ τ α)
    (answer : Except (Error ε) α) : Prop :=
  ∀ before : CallStack w ε κ τ, before.FaithfulBelow scene held bound →
    ∃ after, Attempt.run walk before = (answer, after) ∧
      after.FaithfulBelow scene held bound ∧ before.UntouchedFrom after bound

namespace Answers

variable {scene : Scene w ε κ} {held : τ → Prop} {bound : Nat}

theorem ofExcept (answer : Except (Error ε) α) :
    Answers scene held bound (Attempt.ofExcept answer : Walk w ε κ τ α) answer :=
  fun before faithful => ⟨before, rfl, faithful, .refl before bound⟩

theorem pure (value : α) :
    Answers scene held bound (Pure.pure value : Walk w ε κ τ α) (.ok value) :=
  ofExcept (.ok value)

theorem throw (error : Error ε) :
    Answers scene held bound (MonadExcept.throw error : Walk w ε κ τ α) (.error error) :=
  ofExcept (.error error)

theorem bind {walk : Walk w ε κ τ α} {answer : Except (Error ε) α}
    {next : α → Walk w ε κ τ β} {rest : α → Except (Error ε) β}
    (first : Answers scene held bound walk answer)
    (second : ∀ value, answer = .ok value → Answers scene held bound (next value) (rest value)) :
    Answers scene held bound (walk >>= next) (answer >>= rest) := by
  intro before faithful
  obtain ⟨middle, run, faithful', untouched⟩ := first before faithful
  rw [Attempt.run_bind, run]
  cases answer with
  | error error => exact ⟨middle, rfl, faithful', untouched⟩
  | ok value =>
    obtain ⟨after, run', faithful'', untouched'⟩ := second value rfl middle faithful'
    exact ⟨after, run', faithful'', untouched.trans untouched'⟩

theorem ite {condition : Prop} [Decidable condition] {walk walk' : Walk w ε κ τ α}
    {answer answer' : Except (Error ε) α}
    (yes : condition → Answers scene held bound walk answer)
    (no : ¬condition → Answers scene held bound walk' answer') :
    Answers scene held bound (if condition then walk else walk')
      (if condition then answer else answer') := by
  by_cases holds : condition
  · simpa only [if_pos holds] using yes holds
  · simpa only [if_neg holds] using no holds

theorem result {walk : Walk w ε κ τ α} {answer : Except (Error ε) α}
    (found : Answers scene held bound walk answer) :
    Answers scene held bound (walk.result : Walk w ε κ τ (Except (Error ε) α)) (.ok answer) := by
  intro before faithful
  obtain ⟨after, run, rest⟩ := found before faithful
  exact ⟨after, by simp [Attempt.result, run, Prod.map], rest⟩

theorem mono {walk : Walk w ε κ τ α} {answer : Except (Error ε) α} {higher : Nat}
    (found : Answers scene held bound walk answer) (le : bound ≤ higher) :
    Answers scene held higher walk answer := by
  intro before faithful
  obtain ⟨after, run, faithful', untouched⟩ := found before (faithful.mono le)
  exact ⟨after, run, faithful.extend faithful' untouched, untouched.mono le⟩

end Answers

/-- A walk that starts at a known frame may rely on what is kept of it. -/
theorem answers_known {scene : Scene w ε κ} {held : τ → Prop} {level bound : Nat} {view : View w ε}
    (seen : scene.view level = .ok view) (inside : level < bound)
    {next : KnownFrame w ε κ → Walk w ε κ τ α} {answer : Except (Error ε) α}
    (rest : ∀ frame, frame.Faithful scene view → Answers scene held bound (next frame) answer) :
    Answers scene held bound (known level >>= next) answer := by
  intro before faithful
  obtain ⟨frame, view', found, seen', kept⟩ := faithful.frames inside
  cases seen.symm.trans seen'
  rw [Attempt.run_bind_ok (run_known found)]
  exact rest frame kept before faithful

theorem answers_updateFrame {scene : Scene w ε κ} {held : τ → Prop} {level : Nat} {view : View w ε}
    (seen : scene.view level = .ok view) {change : KnownFrame w ε κ → KnownFrame w ε κ}
    (right : ∀ frame, frame.Faithful scene view → (change frame).Faithful scene view)
    (same : ∀ frame, (change frame).caller = frame.caller) :
    Answers scene held (level + 1) (updateFrame level change : Walk w ε κ τ Unit) (.ok ⟨⟩) := by
  intro before faithful
  obtain ⟨frame, view', found, seen', kept⟩ := faithful.frames (Nat.lt_succ_self level)
  cases seen.symm.trans seen'
  exact ⟨before.update level change, rfl,
    (faithful.mono (Nat.le_succ level)).update found seen (right frame kept),
    .update (Nat.lt_succ_self level) same⟩

structure Inner.Answers (inner : Inner w ε κ τ) (scene : Scene w ε κ) (held : τ → Prop)
    (view : View w ε) (bound : Nat) : Prop where
  kind : Walker.Answers scene held bound inner.kind view.innerKind
  register (number : Nat) :
    Walker.Answers scene held bound (inner.register number) (view.register number)

/-- A walker is set up as a scene is, and its target shows the program of the scene. -/
structure Explores (walker : Walker w ε κ τ) (scene : Scene w ε κ) (held : τ → Prop) : Prop where
  same : walker.scene scene.snapshot = scene
  shows : walker.target.Shows scene.snapshot held

section Frame

variable {walker : Walker w ε κ τ} {scene : Scene w ε κ} {held : τ → Prop}
  (explores : walker.Explores scene held)
include explores

theorem answers_read (bound : Nat) (address : BitVec w) (length : Nat) :
    Answers scene held bound (onTarget .target (walker.target.read address length))
      ((scene.snapshot.read address length).mapError .target) := by
  intro before faithful
  obtain ⟨next, kept, run⟩ := explores.shows.read faithful.memory address length
  refine ⟨{ before with memory := next }, ?_, ⟨kept, faithful.each⟩,
    ⟨rfl, fun _ => rfl, fun _ => rfl⟩⟩
  simp [onTarget, Attempt.mapError, Attempt.zoom, run, Prod.map]

theorem answers_functionEntry (bound : Nat) (address : BitVec w) :
    Answers scene held bound (onTarget id (walker.target.functionEntry address))
      (.ok (scene.snapshot.functionEntry address)) := by
  intro before faithful
  obtain ⟨next, kept, run⟩ := explores.shows.functionEntry faithful.memory address
  refine ⟨{ before with memory := next }, ?_, ⟨kept, faithful.each⟩,
    ⟨rfl, fun _ => rfl, fun _ => rfl⟩⟩
  have lifted : Attempt.run (liftM (walker.target.functionEntry address) : Attempt τ (Error ε) _)
      before.memory = (.ok (scene.snapshot.functionEntry address), next) := by
    change StateT.run (Except.ok <$> walker.target.functionEntry address) before.memory = _
    rw [StateT.run_map, run]
    rfl
  simp only [onTarget, Attempt.mapError, Attempt.zoom, Attempt.run_ofRun]
  rw [lifted]
  rfl

theorem answers_answer {inner : Inner w ε κ τ} {view : View w ε} {bound : Nat}
    (right : inner.Answers scene held view bound) (query : FrameQuery w ε α) :
    Answers scene held bound (walker.answer inner query) (scene.snapshot.answer view query) := by
  -- Unwinders ask the next inner frame or the target, and both are right. Failures are handed
  -- to the unwinder as values, hence the results.
  induction query with
  | done result => exact .ofExcept result
  | innerKind resume ih =>
    change Answers _ _ _ _
      (.ok view.innerKind >>= fun answer => scene.snapshot.answer view (resume answer))
    exact right.kind.result.bind fun answer _ => ih answer
  | register number resume ih =>
    change Answers _ _ _ _
      (.ok (view.register number) >>= fun answer => scene.snapshot.answer view (resume answer))
    exact (right.register number).result.bind fun answer _ => ih answer
  | memory address length resume ih =>
    change Answers _ _ _ _ (.ok ((scene.snapshot.read address length).mapError .target) >>=
      fun answer => scene.snapshot.answer view (resume answer))
    exact (answers_read explores bound address length).result.bind fun answer _ => ih answer
  | functionEntry address resume ih =>
    change Answers _ _ _ _ (.ok (scene.snapshot.functionEntry address) >>=
      fun answer => scene.snapshot.answer view (resume answer))
    exact (answers_functionEntry explores bound address).bind fun answer _ => ih answer

theorem answers_claimant {inner : Inner w ε κ τ} {view : View w ε} {bound : Nat}
    (right : inner.Answers scene held view bound) (unwinders : List (Unwinder w ε κ)) :
    Answers scene held bound (walker.claimant inner view.level view.pc unwinders)
      (scene.claimant view unwinders) := by
  induction unwinders with
  | nil => exact .throw _
  | cons unwinder rest ih =>
    apply (answers_answer explores right (unwinder.claims view.pc)).bind
    intro claimed _
    cases claimed with
    | true => exact .pure unwinder
    | false => exact ih

/-- The unwinder of a frame is chosen as it would be afresh, and then kept. -/
theorem run_unwinderAt {inner : Inner w ε κ τ} {view : View w ε} {level : Nat}
    (seen : scene.view level = .ok view) (right : inner.Answers scene held view level)
    {before : CallStack w ε κ τ} (faithful : before.FaithfulBelow scene held (level + 1)) :
    ∃ after, Attempt.run (walker.unwinderAt inner level) before = (scene.unwinder view, after) ∧
      after.FaithfulBelow scene held (level + 1) ∧ before.UntouchedFrom after (level + 1) ∧
      ∀ {unwinder}, scene.unwinder view = .ok unwinder →
        ∃ frame, after.frames[level]? = some frame ∧ frame.unwinder = some unwinder := by
  obtain ⟨frame, view', found, seen', kept⟩ := faithful.frames (Nat.lt_succ_self level)
  cases seen.symm.trans seen'
  unfold unwinderAt
  rw [Attempt.run_bind_ok (run_known found)]
  -- A kept unwinder is taken as it is. Otherwise the unwinders look at frames inside this one
  -- only, which leaves the frame itself to be updated afterwards.
  cases chosen : frame.unwinder with
  | some unwinder =>
    refine ⟨before, ?_, faithful, .refl _ _, fun {other} same => ⟨frame, found, ?_⟩⟩
    · rw [kept.unwinder chosen]
      rfl
    · rw [chosen, ← Except.ok.inj ((kept.unwinder chosen).symm.trans same)]
  | none =>
    have claim := answers_claimant explores right walker.unwinders
    rw [Scene.level_of_view seen, ← kept.pc] at claim
    obtain ⟨middle, run, faithful', untouched⟩ := claim before (faithful.mono (Nat.le_succ level))
    have found' := (untouched.beyond (Nat.le_refl level)).trans found
    have fresh : scene.claimant view walker.unwinders = scene.unwinder view := by
      unfold Scene.unwinder
      rw [← explores.same]
      rfl
    rw [fresh] at run
    cases claimed : scene.unwinder view with
    | error error =>
      rw [claimed] at run
      exact ⟨middle, Attempt.run_bind_error run _, faithful.extend faithful' untouched,
        untouched.mono (Nat.le_succ level), fun same => nomatch same⟩
    | ok unwinder =>
      rw [claimed] at run
      refine ⟨middle.update level ({ · with unwinder := some unwinder }),
        Attempt.run_bind_ok run _, ?_, ?_, fun {other} same => ?_⟩
      · exact faithful'.update found' seen (kept.choose chosen claimed)
      · exact (untouched.mono (Nat.le_succ level)).trans
          (.update (Nat.lt_succ_self level) fun _ => rfl)
      · cases same
        exact ⟨_, CallStack.frame_update_self found' _, rfl⟩

theorem answers_unwinderAt {inner : Inner w ε κ τ} {view : View w ε} {level : Nat}
    (seen : scene.view level = .ok view) (right : inner.Answers scene held view level) :
    Answers scene held (level + 1) (walker.unwinderAt inner level) (scene.unwinder view) := by
  intro before faithful
  obtain ⟨after, run, faithful', untouched, _⟩ := run_unwinderAt explores seen right faithful
  exact ⟨after, run, faithful', untouched⟩

/-- The cache of a frame is computed as it would be afresh, and then kept. -/
theorem run_computeCache {inner : Inner w ε κ τ} {view : View w ε} {level : Nat}
    (seen : scene.view level = .ok view) (right : inner.Answers scene held view level)
    {before : CallStack w ε κ τ} (faithful : before.FaithfulBelow scene held (level + 1)) :
    ∃ after, Attempt.run (walker.computeCache inner level) before =
        (scene.cache view >>= fun _ => .ok ⟨⟩, after) ∧
      after.FaithfulBelow scene held (level + 1) ∧ before.UntouchedFrom after (level + 1) ∧
      ∀ {unwinder cache}, scene.cache view = .ok (unwinder, cache) →
        ∃ frame, after.frames[level]? = some frame ∧ frame.unwinder = some unwinder ∧
          frame.cache = .ready cache := by
  obtain ⟨first, run, faithful₁, untouched₁, chosen⟩ := run_unwinderAt explores seen right faithful
  cases claimed : scene.unwinder view with
  | error error =>
    have unclaimed : scene.cache view = .error error := by
      rw [Scene.cache, claimed]
      rfl
    rw [claimed] at run
    refine ⟨first, ?_, faithful₁, untouched₁, fun same => nomatch unclaimed.symm.trans same⟩
    rw [run_computeCache_of_unclaimed run, unclaimed]
    rfl
  | ok unwinder =>
    rw [claimed] at run
    obtain ⟨frame, found, chosen⟩ := chosen claimed
    obtain ⟨frame', view', found', seen', kept⟩ := faithful₁.frames (Nat.lt_succ_self level)
    cases seen.symm.trans seen'
    cases found.symm.trans found'
    -- While the cache is being computed, only the frames inside the level are right.
    have marked : (first.mark level).FaithfulBelow scene held level :=
      (faithful₁.mono (Nat.le_succ level)).update_beyond (Nat.le_refl level) _
    obtain ⟨third, run', faithful₃, untouched₃⟩ :=
      answers_answer explores right (unwinder.cache view.pc) _ marked
    have found₃ := (untouched₃.beyond (Nat.le_refl level)).trans (CallStack.frame_mark found)
    have untouched : before.UntouchedFrom third (level + 1) :=
      (untouched₁.trans (.mark first level)).trans (untouched₃.mono (Nat.le_succ level))
    have fresh := Scene.cache_of_unwinder claimed
    rw [← kept.pc] at run' fresh
    refine ⟨_, ?_, faithful₃.finish found₃ seen (kept.ofResult chosen fresh),
      untouched.trans (.finish third level _), fun {other cache} same => ?_⟩
    · rw [run_computeCache_of_chosen run found run', fresh]
      cases scene.snapshot.answer view (unwinder.cache frame.pc) <;> rfl
    · cases answered : scene.snapshot.answer view (unwinder.cache frame.pc) with
      | error error =>
        rw [fresh, answered] at same
        cases same
      | ok cache' =>
        rw [fresh, answered] at same
        cases same
        exact ⟨_, CallStack.frame_finish found₃ _, chosen, rfl⟩

theorem answers_cacheAt {inner : Inner w ε κ τ} {view : View w ε} {level : Nat}
    (seen : scene.view level = .ok view) (right : inner.Answers scene held view level) :
    Answers scene held (level + 1) (walker.cacheAt inner level) (scene.cache view) := by
  intro before faithful
  obtain ⟨frame, view', found, seen', kept⟩ := faithful.frames (Nat.lt_succ_self level)
  cases seen.symm.trans seen'
  unfold cacheAt
  rw [Attempt.run_bind_ok (run_known found)]
  -- A frame of which all that is kept is right has no cache on its way.
  rcases kept.cache with uncomputed | ⟨unwinder, cache, chosen, ready, fresh⟩
  · obtain ⟨after, run, faithful', untouched, kept'⟩ :=
      run_computeCache explores seen right faithful
    simp only [uncomputed]
    cases fresh : scene.cache view with
    | error error =>
      rw [fresh] at run
      exact ⟨after, Attempt.run_bind_error run _, faithful', untouched⟩
    | ok pair =>
      obtain ⟨unwinder, cache⟩ := pair
      obtain ⟨frame', found', chosen, ready⟩ := kept' fresh
      rw [fresh] at run
      refine ⟨after, ?_, faithful', untouched⟩
      rw [Attempt.run_bind_ok run, Attempt.run_bind_ok (run_known found'), chosen, ready]
      rfl
  · refine ⟨before, ?_, faithful, .refl _ _⟩
    simp only [ready]
    rw [Attempt.run_bind_ok (run_known found), chosen, ready, fresh]
    rfl

theorem Explores.size_eq (number : Nat) :
    scene.registers.size number = walker.registers.size number := by
  rw [← explores.same]
  rfl

theorem Explores.read_eq (number : Nat) :
    scene.registers.read number = walker.registers.read number := by
  rw [← explores.same]
  rfl

theorem answers_unwindFrom {inner : Inner w ε κ τ} {view : View w ε} {level : Nat}
    (seen : scene.view level = .ok view) (right : inner.Answers scene held view level)
    (number : Nat) :
    Answers scene held (level + 1) (walker.unwindFrom inner level number)
      (scene.callerRegister view number) := by
  unfold unwindFrom Scene.callerRegister
  rw [explores.size_eq]
  apply (Answers.ofExcept _).bind
  intro size _
  apply (answers_cacheAt explores seen right).bind
  intro pair _
  obtain ⟨unwinder, cache⟩ := pair
  cases located : unwinder.previousRegister cache number with
  | constant value =>
    simp only [located]
    cases LittleEndian.write? (Address.width w) value.toNat
        (Bytes.zeros (max size (Address.width w))) with
    | some bytes => exact .pure (bytes.take size)
    | none => exact .throw _
  | memory address =>
    simp only [located]
    exact (answers_read explores (level + 1) address size).bind fun block _ => .pure block.val
  | register other =>
    simp only [located]
    exact (right.register other).mono (Nat.le_succ level)

theorem answers_inner {level : Nat} {view : View w ε} (seen : scene.view level = .ok view) :
    (walker.inner level).Answers scene held view level := by
  -- The innermost frame has the registers of the thread. Any other one has what the next inner
  -- frame recovers, which asks frames further inside in turn.
  induction level generalizing view with
  | zero =>
    obtain ⟨_, pc, _, _, rfl⟩ := Scene.view_zero_eq_ok.1 seen
    refine ⟨.pure none, fun number => ?_⟩
    change Answers scene held 0 _ ((scene.registers.read number).mapError .register)
    rw [explores.read_eq]
    exact .ofExcept _
  | succ level ih =>
    obtain ⟨inner, pc, seen', _, rfl⟩ := Scene.view_succ_eq_ok.1 seen
    have right := ih seen'
    refine ⟨?_, fun number => answers_unwindFrom explores seen' right number⟩
    apply answers_known seen' (Nat.lt_succ_self level)
    intro _ _
    exact (answers_unwinderAt explores seen' right).bind fun unwinder _ => .pure _

section Level

variable {level : Nat} {view : View w ε} (seen : scene.view level = .ok view)
include seen

omit explores in
theorem answers_pcAt :
    Answers scene held (level + 1) (pcAt level : Walk w ε κ τ _) (.ok view.pc) := by
  apply answers_known seen (Nat.lt_succ_self level)
  intro frame kept
  rw [← kept.pc]
  exact .pure frame.pc

theorem answers_kindAt : Answers scene held (level + 1) (walker.kindAt level) (scene.kind view) :=
  (answers_unwinderAt explores seen (answers_inner explores seen)).bind fun _ _ => .pure _

theorem answers_idAt : Answers scene held (level + 1) (walker.idAt level) (scene.frameId view) := by
  apply answers_known seen (Nat.lt_succ_self level)
  intro frame kept
  cases recorded : frame.frameId with
  | some frameId =>
    rw [kept.frameId recorded]
    exact .pure frameId
  | none =>
    unfold Scene.frameId
    rw [← kept.pc]
    apply (answers_cacheAt explores seen (answers_inner explores seen)).bind
    intro pair computed
    obtain ⟨unwinder, cache⟩ := pair
    have fresh : scene.frameId view = .ok (unwinder.frameId cache frame.pc) := by
      unfold Scene.frameId
      rw [computed, kept.pc]
      rfl
    -- What is recorded is what a survey would find.
    have update : Answers scene held (level + 1)
        (updateFrame level ({ · with frameId := some (unwinder.frameId cache frame.pc) }) :
          Walk w ε κ τ Unit) (.ok ⟨⟩) := by
      refine answers_updateFrame seen (fun other right => ?_) fun _ => rfl
      refine ⟨right.pc, right.unwinder, right.cache, fun {frameId} same => ?_, right.caller⟩
      rw [← Option.some.inj same]
      exact fresh
    change Answers _ _ _ _ (.ok PUnit.unit >>= fun _ => .ok (unwinder.frameId cache frame.pc))
    exact update.bind fun _ _ => .pure _

theorem answers_baseAt : Answers scene held (level + 1) (walker.baseAt level) (scene.base view) :=
  (answers_cacheAt explores seen (answers_inner explores seen)).bind fun _ _ => .pure _

theorem answers_registerAt (number : Nat) :
    Answers scene held (level + 1) (walker.registerAt level number) (view.register number) :=
  answers_known seen (Nat.lt_succ_self level) fun _ _ =>
    ((answers_inner explores seen).register number).mono (Nat.le_succ level)

theorem answers_addressAt (number : Nat) :
    Answers scene held (level + 1) (walker.addressAt level number)
      (view.register number >>= addressOf) :=
  (answers_registerAt explores seen number).bind fun _ _ => .ofExcept _

theorem answers_callerRegister (number : Nat) :
    Answers scene held (level + 1) (walker.callerRegister level number)
      (scene.callerRegister view number) :=
  answers_unwindFrom explores seen (answers_inner explores seen) number

theorem answers_ask (query : FrameQuery w ε α) :
    Answers scene held (level + 1) (walker.ask level query) (scene.snapshot.answer view query) :=
  (answers_answer explores (answers_inner explores seen) query).mono (Nat.le_succ level)

end Level

end Frame

end Walker

end Inferior

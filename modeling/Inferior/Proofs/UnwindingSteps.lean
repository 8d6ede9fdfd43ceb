import Inferior.CallStack.Caller

/-! What the steps of unwinding do to a call stack.

Finding out about a frame records something of it. A cache is marked as on its way while its unwinder
is asked, and a caller is added after the last frame. This says which stack each step leaves, and that
a property of frames is kept by it, whatever the property.
-/

set_option autoImplicit false

namespace Inferior

variable {w : Nat} {ε κ τ α β : Type}

namespace Attempt

variable {σ ε' : Type} {attempt : Attempt σ ε' α} {before after : σ}

theorem run_bind_ok {value : α} (run : attempt.run before = (.ok value, after))
    (next : α → Attempt σ ε' β) : (attempt >>= next).run before = (next value).run after := by
  rw [run_bind, run]

theorem run_bind_error {error : ε'} (run : attempt.run before = (.error error, after))
    (next : α → Attempt σ ε' β) : (attempt >>= next).run before = (.error error, after) := by
  rw [run_bind, run]

end Attempt

namespace CacheStage

def isReady : CacheStage κ → Bool
  | .ready _ => true
  | .uncomputed | .computing => false

def ofResult : Except (Error ε) κ → CacheStage κ
  | .ok cache => .ready cache
  | .error _ => .uncomputed

theorem ofResult_ne_computing (result : Except (Error ε) κ) : ofResult result ≠ .computing := by
  cases result <;> nofun

end CacheStage

namespace CallStack

/-- The frames from a level on are as they were, and no frame has got another caller. -/
structure UntouchedFrom (before after : CallStack w ε κ τ) (bound : Nat) : Prop where
  size : after.frames.size = before.frames.size
  beyond {level : Nat} (outside : bound ≤ level) : after.frames[level]? = before.frames[level]?
  caller (level : Nat) :
    after.frames[level]?.map KnownFrame.caller = before.frames[level]?.map KnownFrame.caller

theorem UntouchedFrom.refl (stack : CallStack w ε κ τ) (bound : Nat) :
    stack.UntouchedFrom stack bound := ⟨rfl, fun _ => rfl, fun _ => rfl⟩

theorem UntouchedFrom.trans {first second third : CallStack w ε κ τ} {bound : Nat}
    (one : first.UntouchedFrom second bound) (two : second.UntouchedFrom third bound) :
    first.UntouchedFrom third bound :=
  ⟨two.size.trans one.size, fun outside => (two.beyond outside).trans (one.beyond outside),
    fun level => (two.caller level).trans (one.caller level)⟩

theorem UntouchedFrom.mono {before after : CallStack w ε κ τ} {bound lower : Nat}
    (untouched : before.UntouchedFrom after lower) (le : lower ≤ bound) :
    before.UntouchedFrom after bound :=
  ⟨untouched.size, fun outside => untouched.beyond (Nat.le_trans le outside), untouched.caller⟩

theorem UntouchedFrom.known_before {before after : CallStack w ε κ τ} {level bound : Nat}
    {frame : KnownFrame w ε κ} (untouched : before.UntouchedFrom after bound)
    (found : after.frames[level]? = some frame) :
    ∃ frame', before.frames[level]? = some frame' ∧ frame'.caller = frame.caller :=
  Option.map_eq_some_iff.1 ((untouched.caller level).symm.trans (congrArg _ found))

theorem UntouchedFrom.known_after {before after : CallStack w ε κ τ} {level bound : Nat}
    {frame : KnownFrame w ε κ} (untouched : before.UntouchedFrom after bound)
    (found : before.frames[level]? = some frame) :
    ∃ frame', after.frames[level]? = some frame' ∧ frame'.caller = frame.caller :=
  Option.map_eq_some_iff.1 ((untouched.caller level).trans (congrArg _ found))

def update (stack : CallStack w ε κ τ) (level : Nat)
    (change : KnownFrame w ε κ → KnownFrame w ε κ) : CallStack w ε κ τ :=
  { stack with frames := stack.frames.modify level change }

theorem frame_update (stack : CallStack w ε κ τ) (level other : Nat)
    (change : KnownFrame w ε κ → KnownFrame w ε κ) :
    (stack.update level change).frames[other]? =
      if level = other then stack.frames[other]?.map change else stack.frames[other]? :=
  Array.getElem?_modify

@[simp] theorem size_update (stack : CallStack w ε κ τ) (level : Nat)
    (change : KnownFrame w ε κ → KnownFrame w ε κ) :
    (stack.update level change).frames.size = stack.frames.size :=
  Array.size_modify

theorem frame_update_self {stack : CallStack w ε κ τ} {level : Nat} {frame : KnownFrame w ε κ}
    (found : stack.frames[level]? = some frame) (change : KnownFrame w ε κ → KnownFrame w ε κ) :
    (stack.update level change).frames[level]? = some (change frame) := by
  rw [frame_update, if_pos rfl, found]
  rfl

theorem UntouchedFrom.update {stack : CallStack w ε κ τ} {level bound : Nat}
    {change : KnownFrame w ε κ → KnownFrame w ε κ} (inside : level < bound)
    (same : ∀ frame, (change frame).caller = frame.caller) :
    stack.UntouchedFrom (stack.update level change) bound := by
  refine ⟨size_update _ _ _, fun {other} outside => ?_, fun other => ?_⟩
  · rw [frame_update, if_neg (by omega)]
  · rw [frame_update]
    split
    · cases stack.frames[other]? <;> simp [same]
    · rfl

/-- The stack while a frame's unwinder is asked for its cache. -/
def mark (stack : CallStack w ε κ τ) (level : Nat) : CallStack w ε κ τ :=
  stack.update level ({ · with cache := .computing })

theorem UntouchedFrom.mark (stack : CallStack w ε κ τ) (level : Nat) :
    stack.UntouchedFrom (stack.mark level) (level + 1) :=
  .update (Nat.lt_succ_self level) fun _ => rfl

theorem frame_mark {stack : CallStack w ε κ τ} {level : Nat} {frame : KnownFrame w ε κ}
    (found : stack.frames[level]? = some frame) :
    (stack.mark level).frames[level]? = some { frame with cache := .computing } :=
  frame_update_self found _

/-- The stack once a frame's unwinder has answered for its cache. How often a cache was computed is
counted. -/
def finish (stack : CallStack w ε κ τ) (level : Nat) (result : Except (Error ε) κ) :
    CallStack w ε κ τ :=
  let computed := if (CacheStage.ofResult result).isReady then 1 else 0
  { stack with computations := stack.computations + computed }.update level
    ({ · with cache := .ofResult result })

theorem UntouchedFrom.finish (stack : CallStack w ε κ τ) (level : Nat)
    (result : Except (Error ε) κ) : stack.UntouchedFrom (stack.finish level result) (level + 1) := by
  have updated : stack.UntouchedFrom (stack.update level ({ · with cache := .ofResult result }))
      (level + 1) := .update (Nat.lt_succ_self level) fun _ => rfl
  exact ⟨updated.size, updated.beyond, updated.caller⟩

theorem frame_finish {stack : CallStack w ε κ τ} {level : Nat} {frame : KnownFrame w ε κ}
    (found : stack.frames[level]? = some frame) (result : Except (Error ε) κ) :
    (stack.finish level result).frames[level]? = some { frame with cache := .ofResult result } :=
  frame_update_self found _

def push (stack : CallStack w ε κ τ) (pc : BitVec w) : CallStack w ε κ τ :=
  { stack with frames := stack.frames.push { pc } }

@[simp] theorem size_push (stack : CallStack w ε κ τ) (pc : BitVec w) :
    (stack.push pc).frames.size = stack.frames.size + 1 :=
  Array.size_push _

theorem frame_push (stack : CallStack w ε κ τ) (pc : BitVec w) (level : Nat) :
    (stack.push pc).frames[level]? =
      if level = stack.frames.size then some { pc } else stack.frames[level]? := by
  unfold push
  rw [Array.getElem?_push]

theorem frame_push_of_known {stack : CallStack w ε κ τ} {level : Nat} {frame : KnownFrame w ε κ}
    (found : stack.frames[level]? = some frame) (pc : BitVec w) :
    (stack.push pc).frames[level]? = some frame := by
  have inside := (Array.getElem?_eq_some_iff.1 found).1
  rw [frame_push, if_neg (Nat.ne_of_lt inside)]
  exact found

def endAt (stack : CallStack w ε κ τ) (level : Nat) (reason : UnwindStop) : CallStack w ε κ τ :=
  stack.update level ({ · with caller := some (.stop reason) })

def addCaller (stack : CallStack w ε κ τ) (level : Nat) (pc : BitVec w) : CallStack w ε κ τ :=
  (stack.push pc).update level ({ · with caller := some (.level (level + 1)) })

@[simp] theorem size_endAt (stack : CallStack w ε κ τ) (level : Nat) (reason : UnwindStop) :
    (stack.endAt level reason).frames.size = stack.frames.size :=
  size_update _ _ _

@[simp] theorem size_addCaller (stack : CallStack w ε κ τ) (level : Nat) (pc : BitVec w) :
    (stack.addCaller level pc).frames.size = stack.frames.size + 1 := by
  rw [addCaller, size_update, size_push]

/-- The frames inside the last one are as they were. The last one has its caller, and of that one
only the pc is known. -/
theorem frame_addCaller {stack : CallStack w ε κ τ} {level : Nat}
    (last : stack.frames.size = level + 1) (pc : BitVec w) {frame : KnownFrame w ε κ}
    (found : stack.frames[level]? = some frame) (other : Nat) :
    (stack.addCaller level pc).frames[other]? =
      if other = level + 1 then some { pc }
      else if other = level then some { frame with caller := some (.level (level + 1)) }
      else stack.frames[other]? := by
  rw [addCaller, frame_update, frame_push, last]
  by_cases new : other = level + 1
  · rw [if_neg (by omega), if_pos new, if_pos new]
  · rw [if_neg new, if_neg new]
    by_cases here : other = level
    · subst here
      rw [if_pos rfl, if_pos rfl, found]
      rfl
    · rw [if_neg (Ne.symm here), if_neg here]

def EachBelow (stack : CallStack w ε κ τ) (property : Nat → KnownFrame w ε κ → Prop) (bound : Nat) :
    Prop :=
  ∀ level < bound, ∃ frame, stack.frames[level]? = some frame ∧ property level frame

namespace EachBelow

variable {property : Nat → KnownFrame w ε κ → Prop} {stack : CallStack w ε κ τ} {level : Nat}

theorem mono {bound lower : Nat} (each : stack.EachBelow property bound) (le : lower ≤ bound) :
    stack.EachBelow property lower :=
  fun level inside => each level (Nat.lt_of_lt_of_le inside le)

theorem succ {frame : KnownFrame w ε κ} (each : stack.EachBelow property level)
    (found : stack.frames[level]? = some frame) (holds : property level frame) :
    stack.EachBelow property (level + 1) := by
  intro other inside
  rcases Nat.lt_succ_iff_lt_or_eq.1 inside with below | same
  · exact each other below
  · exact same ▸ ⟨frame, found, holds⟩

/-- A change below a level leaves the frames in between as they were. -/
theorem extend {before after : CallStack w ε κ τ} {bound lower : Nat}
    (each : before.EachBelow property bound) (inner : after.EachBelow property lower)
    (untouched : before.UntouchedFrom after lower) : after.EachBelow property bound := by
  intro level inside
  by_cases below : level < lower
  · exact inner level below
  · obtain ⟨frame, found, holds⟩ := each level inside
    exact ⟨frame, (untouched.beyond (Nat.le_of_not_lt below)).trans found, holds⟩

theorem update_beyond {bound : Nat} (each : stack.EachBelow property bound)
    (outside : bound ≤ level) (change : KnownFrame w ε κ → KnownFrame w ε κ) :
    (stack.update level change).EachBelow property bound := by
  intro other inside
  rw [frame_update, if_neg (by omega)]
  exact each other inside

variable {frame : KnownFrame w ε κ} (each : stack.EachBelow property level)
  (found : stack.frames[level]? = some frame)
include each found

theorem update {change : KnownFrame w ε κ → KnownFrame w ε κ} (holds : property level (change frame)) :
    (stack.update level change).EachBelow property (level + 1) :=
  (each.update_beyond (Nat.le_refl level) change).succ (frame_update_self found change) holds

theorem finish {result : Except (Error ε) κ}
    (holds : property level { frame with cache := .ofResult result }) :
    (stack.finish level result).EachBelow property (level + 1) :=
  (show EachBelow { stack with computations := _ } property level from each).update found holds

theorem addCaller {pc : BitVec w} (last : stack.frames.size = level + 1)
    (called : property level { frame with caller := some (.level (level + 1)) })
    (new : property (level + 1) { pc }) :
    (stack.addCaller level pc).EachBelow property (level + 2) := by
  have inside : (stack.addCaller level pc).EachBelow property level := by
    intro other below
    rw [frame_addCaller last pc found, if_neg (by omega), if_neg (by omega)]
    exact each other below
  refine (inside.succ ?_ called).succ ?_ new
  · rw [frame_addCaller last pc found, if_neg (by omega), if_pos rfl]
  · rw [frame_addCaller last pc found, if_pos rfl]

end EachBelow

/-- Each frame but the last one has the next one as its caller, and no other one. -/
structure Linked (stack : CallStack w ε κ τ) : Prop where
  started : 0 < stack.frames.size
  called {level : Nat} {frame : KnownFrame w ε κ} (found : stack.frames[level]? = some frame)
    (inside : level + 1 < stack.frames.size) : frame.caller = some (.level (level + 1))
  last {level outer : Nat} {frame : KnownFrame w ε κ} (found : stack.frames[level]? = some frame)
    (called : frame.caller = some (.level outer)) : outer = level + 1 ∧ outer < stack.frames.size

namespace Linked

theorem untouched {before after : CallStack w ε κ τ} {bound : Nat} (linked : before.Linked)
    (untouched : before.UntouchedFrom after bound) : after.Linked where
  started := untouched.size ▸ linked.started
  called found inside := by
    obtain ⟨_, found', same⟩ := untouched.known_before found
    exact same.symm.trans (linked.called found' (untouched.size ▸ inside))
  last found called := by
    obtain ⟨_, found', same⟩ := untouched.known_before found
    exact untouched.size ▸ linked.last found' (same.trans called)

theorem single (pc : BitVec w) (computations : Nat) (memory : τ) :
    Linked (⟨#[{ pc }], computations, memory⟩ : CallStack w ε κ τ) where
  started := Nat.zero_lt_one
  called _ inside := absurd inside (by simp)
  last found called := by
    cases Nat.lt_one_iff.1 (Array.getElem?_eq_some_iff.1 found).1
    cases found
    cases called

theorem last_of_uncalled {stack : CallStack w ε κ τ} (linked : stack.Linked) {level : Nat}
    {frame : KnownFrame w ε κ} (found : stack.frames[level]? = some frame)
    (uncalled : frame.caller = none) : stack.frames.size = level + 1 := by
  have inside := (Array.getElem?_eq_some_iff.1 found).1
  rcases Nat.lt_or_ge (level + 1) stack.frames.size with further | ends
  · cases uncalled.symm.trans (linked.called found further)
  · omega

variable {stack : CallStack w ε κ τ} {level : Nat} {frame : KnownFrame w ε κ} (linked : stack.Linked)
  (last : stack.frames.size = level + 1) (found : stack.frames[level]? = some frame)
include linked last found

theorem endAt (reason : UnwindStop) : (stack.endAt level reason).Linked where
  started := by
    rw [size_endAt]
    exact linked.started
  called found' inside := by
    rw [size_endAt] at inside
    rw [CallStack.endAt, frame_update, if_neg (by omega)] at found'
    exact linked.called found' inside
  last found' called := by
    rw [size_endAt]
    rw [CallStack.endAt, frame_update] at found'
    split at found'
    · rename_i here
      subst here
      rw [found] at found'
      cases found'
      cases called
    · exact linked.last found' called

theorem addCaller (pc : BitVec w) : (stack.addCaller level pc).Linked where
  started := by
    rw [size_addCaller]
    exact Nat.succ_pos _
  called {other _} found' inside := by
    rw [size_addCaller] at inside
    rw [frame_addCaller last pc found, if_neg (by omega)] at found'
    split at found'
    · rename_i here
      cases found'
      rw [here]
    · exact linked.called found' (by omega)
  last {other _ _} found' called := by
    rw [size_addCaller]
    rw [frame_addCaller last pc found] at found'
    split at found'
    · cases found'
      cases called
    · split at found'
      · rename_i here
        cases found'
        cases called
        omega
      · have inside := linked.last found' called
        omega

end Linked

end CallStack

namespace Walker

variable {walker : Walker w ε κ τ} {level : Nat} {before first second : CallStack w ε κ τ}
  {frame : KnownFrame w ε κ}

theorem run_known {stack : CallStack w ε κ τ} (found : stack.frames[level]? = some frame) :
    Attempt.run (known level) stack = (.ok frame, stack) := by
  simp [known, Attempt.run_bind, found]

theorem run_known_beyond {stack : CallStack w ε κ τ} (beyond : stack.frames.size ≤ level) :
    Attempt.run (known level) stack =
      (.error (.internal "frame level out of range"), stack) := by
  simp [known, Attempt.run_bind, Array.getElem?_eq_none beyond]

theorem run_updateFrame (stack : CallStack w ε κ τ) (level : Nat)
    (change : KnownFrame w ε κ → KnownFrame w ε κ) :
    Attempt.run (updateFrame level change) stack =
      (.ok ⟨⟩, stack.update level change) := rfl

section Cache

variable {inner : Inner w ε κ τ}

theorem run_computeCache_of_unclaimed {error : Error ε}
    (choice : Attempt.run (walker.unwinderAt inner level) before = (.error error, first)) :
    Attempt.run (walker.computeCache inner level) before = (.error error, first) :=
  Attempt.run_bind_error choice _

/-- The chosen unwinder is asked while the cache is marked as on its way. Its answer takes the place of
the mark. -/
theorem run_computeCache_of_chosen {unwinder : Unwinder w ε κ} {result : Except (Error ε) κ}
    (choice : Attempt.run (walker.unwinderAt inner level) before = (.ok unwinder, first))
    (found : first.frames[level]? = some frame)
    (answer : Attempt.run (walker.answer inner (unwinder.cache frame.pc)) (first.mark level) =
      (result, second)) :
    Attempt.run (walker.computeCache inner level) before =
      (result.map fun _ => ⟨⟩, second.finish level result) := by
  have marked : Attempt.run (updateFrame level ({ · with cache := .computing })) first =
      ((.ok ⟨⟩ : Except (Error ε) _), first.mark level) := run_updateFrame first level _
  have asked : Attempt.run (walker.answer inner (unwinder.cache frame.pc)).result
      (first.mark level) = ((.ok result : Except (Error ε) _), second) := by
    simp [Attempt.result, answer, Prod.map]
  rw [computeCache, Attempt.run_bind_ok choice, Attempt.run_bind_ok marked,
    Attempt.run_bind_ok (run_known (CallStack.frame_mark found)), Attempt.run_bind_ok asked]
  cases result with
  | error error => rfl
  | ok cache => rfl

end Cache

def callerPc (walker : Walker w ε κ τ) (level : Nat) : Walk w ε κ τ (BitVec w) := do
  let bytes ← walker.callerRegister level walker.architecture.programCounter
  Attempt.ofExcept (addressOf bytes)

/-- How unwinding a frame for the first time ends, and which stack it leaves. The caller's pc is
recovered before the caller is added, so a failure adds nothing. -/
inductive Unwinds (walker : Walker w ε κ τ) (level : Nat) (before : CallStack w ε κ τ) :
    Except (Error ε) Caller → CallStack w ε κ τ → Prop where
  | failed {error : Error ε} {first : CallStack w ε κ τ}
    (search : Attempt.run (walker.stopAt? level) before = (.error error, first)) :
    Unwinds walker level before (.error error) first
  | stopped {reason : UnwindStop} {first : CallStack w ε κ τ}
    (search : Attempt.run (walker.stopAt? level) before = (.ok (some reason), first)) :
    Unwinds walker level before (.ok (.stop reason)) (first.endAt level reason)
  | unrecovered {error : Error ε} {first second : CallStack w ε κ τ}
    (goesOn : Attempt.run (walker.stopAt? level) before = (.ok none, first))
    (recovery : Attempt.run (walker.callerPc level) first = (.error error, second)) :
    Unwinds walker level before (.error error) second
  | found {pc : BitVec w} {first second : CallStack w ε κ τ}
    (goesOn : Attempt.run (walker.stopAt? level) before = (.ok none, first))
    (recovery : Attempt.run (walker.callerPc level) first = (.ok pc, second))
    (last : second.frames.size = level + 1) :
    Unwinds walker level before (.ok (.level (level + 1))) (second.addCaller level pc)
  | outOfSync {pc : BitVec w} {first second : CallStack w ε κ τ}
    (goesOn : Attempt.run (walker.stopAt? level) before = (.ok none, first))
    (recovery : Attempt.run (walker.callerPc level) first = (.ok pc, second))
    (notLast : second.frames.size ≠ level + 1) :
    Unwinds walker level before (.error (.internal "frame chain out of sync")) second

theorem Unwinds.next {outer : Nat} {after : CallStack w ε κ τ}
    (unwinds : walker.Unwinds level before (.ok (.level outer)) after) :
    outer = level + 1 ∧ outer < after.frames.size := by
  cases unwinds with
  | found _ _ last =>
    rw [CallStack.size_addCaller, last]
    exact ⟨rfl, Nat.lt_succ_self _⟩

theorem run_caller_of_known {caller : Caller} (found : before.frames[level]? = some frame)
    (recorded : frame.caller = some caller) :
    Attempt.run (walker.caller level) before = (.ok caller, before) := by
  rw [Walker.caller, Attempt.run_bind_ok (run_known found)]
  simp only [recorded]
  rfl

theorem run_findCaller_of_stop {reason : UnwindStop}
    (search : Attempt.run (walker.stopAt? level) before = (.ok (some reason), first)) :
    Attempt.run (walker.findCaller level) before = (.ok (.stop reason), first) := by
  rw [findCaller, Attempt.run_bind_ok search]
  rfl

theorem run_findCaller_of_none
    (search : Attempt.run (walker.stopAt? level) before = (.ok none, first)) :
    Attempt.run (walker.findCaller level) before = Attempt.run (do
      let pc ← walker.callerPc level
      if (← get).frames.size ≠ level + 1 then throw (.internal "frame chain out of sync")
      modify fun stack => { stack with frames := stack.frames.push { pc } }
      return Caller.level (level + 1)) first := by
  rw [findCaller, Attempt.run_bind_ok search]
  simp only [callerPc, bind_assoc]

theorem unwinds_caller (found : before.frames[level]? = some frame) (uncalled : frame.caller = none)
    {result : Except (Error ε) Caller} {after : CallStack w ε κ τ}
    (run : Attempt.run (walker.caller level) before = (result, after)) :
    walker.Unwinds level before result after := by
  rw [Walker.caller, Attempt.run_bind_ok (run_known found)] at run
  simp only [uncalled] at run
  -- The search may fail or find a reason to stop. Otherwise the caller needs a pc.
  rcases search : Attempt.run (walker.stopAt? level) before with ⟨_ | _ | reason, first⟩
  case error =>
    have fails : Attempt.run (walker.findCaller level) before = (.error _, first) :=
      Attempt.run_bind_error search _
    rw [Attempt.run_bind_error fails] at run
    cases run
    exact .failed search
  case ok.some =>
    rw [Attempt.run_bind_ok (run_findCaller_of_stop search)] at run
    cases run
    exact .stopped search
  case ok.none =>
    have goesOn := run_findCaller_of_none search
    rcases recovery : Attempt.run (walker.callerPc level) first with ⟨_ | pc, second⟩
    · rw [Attempt.run_bind_error (goesOn.trans (Attempt.run_bind_error recovery _))] at run
      cases run
      exact .unrecovered search recovery
    · rw [Attempt.run_bind_ok recovery, Attempt.run_bind_ok (Attempt.run_get second)] at goesOn
      by_cases last : second.frames.size = level + 1
      · simp only [last, ne_eq, not_true, if_false] at goesOn
        rw [Attempt.run_bind_ok goesOn] at run
        cases run
        exact .found search recovery last
      · simp only [last, ne_eq, not_false_iff, if_true] at goesOn
        rw [Attempt.run_bind_error goesOn] at run
        cases run
        exact .outOfSync search recovery last

end Walker

end Inferior

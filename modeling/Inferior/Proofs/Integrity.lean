import Inferior.Proofs.Growth
import Inferior.Proofs.History

/-! What holds of a call stack between any two questions, whatever program it belongs to and whatever
has failed before.

Frames are only added at the end, and only the last one has no caller. A frame has a caller only if it
was found where a caller of the next inner frame has to lie, and since neither id changes afterwards,
this stays so.
-/

set_option autoImplicit false

namespace Inferior

variable {w : Nat} {ε κ τ α β : Type}

namespace CallStack

/-- A frame and the one that called it, with ids of which the second does not lie inside the first
unless the first is that of a trampoline. -/
def Outward (stack : CallStack w ε κ τ) (architecture : Architecture w) (level : Nat) : Prop :=
  ∃ kind innerId frameId, stack.KnowsKind level kind ∧ stack.KnowsId level (some innerId) ∧
    stack.KnowsId (level + 1) (some frameId) ∧ frameId.stack ≠ innerId.stack ∧
    (kind ≠ .signalTrampoline → architecture.innerThan frameId.stack innerId.stack = false)

theorem Outward.keep {before after : CallStack w ε κ τ} {architecture : Architecture w} {level : Nat}
    (outward : before.Outward architecture level) (keeps : before.Keeps after) :
    after.Outward architecture level := by
  obtain ⟨kind, innerId, frameId, knows, inner, outer, further⟩ := outward
  exact ⟨kind, innerId, frameId, knows.keep keeps, inner.keep keeps, outer.keep keeps, further⟩

end CallStack

structure BacktraceEntry.Recorded (entry : BacktraceEntry w) (stack : CallStack w ε κ τ) : Prop where
  pc : stack.KnowsPc entry.level entry.pc
  kind {kind : FrameKind} (reported : entry.kind = some kind) : stack.KnowsKind entry.level kind
  frameId {frameId : FrameId w} (reported : entry.frameId = some frameId) :
    stack.KnowsId entry.level (some frameId)

theorem BacktraceEntry.Recorded.keep {entry : BacktraceEntry w} {before after : CallStack w ε κ τ}
    (recorded : entry.Recorded before) (keeps : before.Keeps after) : entry.Recorded after :=
  ⟨recorded.pc.keep keeps, fun reported => (recorded.kind reported).keep keeps,
    fun reported => (recorded.frameId reported).keep keeps⟩

def Backtrace.Recorded (backtrace : Backtrace w ε) (level : Nat) (stack : CallStack w ε κ τ) : Prop :=
  ∀ (index : Nat) (entry : BacktraceEntry w), backtrace.frames[index]? = some entry →
    entry.level = level + index ∧ entry.Recorded stack

theorem Backtrace.Recorded.push {entry : BacktraceEntry w} {backtrace : Backtrace w ε} {level : Nat}
    {stack : CallStack w ε κ τ} (first : entry.level = level ∧ entry.Recorded stack)
    (rest : backtrace.Recorded (level + 1) stack) : (backtrace.push entry).Recorded level stack := by
  intro index other found
  cases index with
  | zero =>
    cases found
    exact first
  | succ index =>
    obtain ⟨same, recorded⟩ := rest index other found
    exact ⟨by omega, recorded⟩

namespace Walker

section Caller

variable {walker : Walker w ε κ τ} {allowed : Error ε → Prop} {before : CallStack w ε κ τ}
  (tolerates : walker.Tolerates allowed)
include tolerates

theorem learns_callerLocation {level : Nat} (settled : before.SettledBelow walker (level + 1))
    (number : Nat) :
    walker.Learns allowed (level + 1) (walker.callerLocation level number) before
      fun _ _ => True := by
  induction level generalizing before number with
  | zero =>
    unfold callerLocation
    refine (learns_cacheAt tolerates (learns_inner tolerates 0) settled).bind
      fun pair _ _ settled' _ => ?_
    obtain ⟨unwinder, cache⟩ := pair
    cases located : unwinder.previousRegister cache number with
    | constant _ | memory _ | register _ =>
      simp only [located]
      exact .pure settled' trivial
  | succ level ih =>
    unfold callerLocation
    refine (learns_cacheAt tolerates (learns_inner tolerates (level + 1)) settled).bind
      fun pair _ _ settled' _ => ?_
    obtain ⟨unwinder, cache⟩ := pair
    cases located : unwinder.previousRegister cache number with
    | constant _ | memory _ =>
      simp only [located]
      exact .pure settled' trivial
    | register other =>
      simp only [located]
      exact (ih (settled'.mono (Nat.le_succ _)) other).mono settled' (Nat.le_succ _)

theorem learns_repeatsSavedPc {level : Nat} (settled : before.SettledBelow walker (level + 2))
    (innerKind : FrameKind) :
    walker.Learns allowed (level + 2) (walker.repeatsSavedPc innerKind level) before
      fun _ _ => True := by
  unfold repeatsSavedPc
  split
  · exact .pure settled trivial
  refine (learns_kindAt tolerates settled).bind fun kind _ _ settled₁ _ => ?_
  split
  · exact .pure settled₁ trivial
  refine (learns_callerLocation tolerates settled₁ _).bind fun location _ _ settled₂ _ => ?_
  split
  · exact .pure settled₂ trivial
  refine ((learns_callerLocation tolerates (settled₂.mono (Nat.le_succ _)) _).mono settled₂
    (Nat.le_succ _)).bind fun _ _ _ settled₃ _ => ?_
  exact .pure settled₃ trivial

/-- A frame that is not misplaced lies further out than the one that it called. -/
theorem learns_misplaced? {level : Nat} (settled : before.SettledBelow walker (level + 2))
    {innerId frameId : FrameId w} (inner : before.KnowsId level (some innerId))
    (outer : before.KnowsId (level + 1) (some frameId)) :
    walker.Learns allowed (level + 2) (walker.misplaced? frameId level) before
      fun stop? after => stop? = none → after.Outward walker.architecture level := by
  have le := Nat.le_succ (level + 1)
  unfold misplaced?
  refine ((learns_kindAt tolerates (settled.mono le)).mono settled le).bind
    fun kind first grows₁ settled₁ knows => ?_
  refine ((learns_idAt tolerates (settled₁.mono le)).mono settled₁ le).bind
    fun innerId? second grows₂ settled₂ knows' => ?_
  have keeps := grows₁.keeps.trans grows₂.keeps
  -- The id of the inner frame is on record, so asking for it again gives the same.
  cases knows'.unique (inner.keep keeps)
  dsimp only
  split
  · exact .pure settled₂ nofun
  · rename_i notInner
    split
    · exact .pure settled₂ nofun
    · rename_i different
      refine (learns_repeatsSavedPc tolerates settled₂ kind).bind
        fun repeated third grows₃ settled₃ _ => ?_
      split
      · exact .pure settled₃ nofun
      · refine .pure settled₃ fun _ => ⟨kind, innerId, frameId, ?_, ?_, ?_, ?_, ?_⟩
        · exact knows.keep (grows₂.keeps.trans grows₃.keeps)
        · exact inner.keep (keeps.trans grows₃.keeps)
        · exact outer.keep (keeps.trans grows₃.keeps)
        · exact fun same => different (beq_iff_eq.2 same)
        · exact fun called => Bool.eq_false_iff.2 fun inside => notInner ⟨called, inside⟩

/-- A walk that does not stop at a frame has found its id, and that it lies further out than the next
inner frame. -/
theorem learns_stopAt? {level : Nat} (settled : before.SettledBelow walker (level + 1))
    (identified : ∀ inner, level = inner + 1 → ∃ innerId, before.KnowsId inner (some innerId)) :
    walker.Learns allowed (level + 1) (walker.stopAt? level) before fun stop? after =>
      stop? = none → (∃ frameId, after.KnowsId level (some frameId)) ∧
        ∀ inner, level = inner + 1 → after.Outward walker.architecture inner := by
  refine learns_known settled (Nat.lt_succ_self level) fun frame _ _ => ?_
  split
  · exact .pure settled nofun
  refine (learns_idAt tolerates settled).bind fun frameId? middle grows settled' knows => ?_
  cases frameId? with
  | none => exact .pure settled' nofun
  | some frameId =>
    cases level with
    | zero => exact .pure settled' fun _ => ⟨⟨frameId, knows⟩, nofun⟩
    | succ level =>
      obtain ⟨innerId, inner⟩ := identified level rfl
      refine (learns_misplaced? tolerates settled' (inner.keep grows.keeps) knows).weaken ?_
      intro stop? after grows' further goesOn
      refine ⟨⟨frameId, knows.keep grows'.keeps⟩, ?_⟩
      rintro _ ⟨⟩
      exact further goesOn

theorem learns_entry {level : Nat} (settled : before.SettledBelow walker (level + 1)) :
    walker.Learns (fun _ => False) (level + 1) (walker.entry level) before fun entry after =>
      entry.level = level ∧ entry.Recorded after := by
  refine (learns_pcAt settled).bind fun pc first _ settled₁ knows => ?_
  refine (learns_kindAt tolerates settled₁).result.bind fun kind second grows₂ settled₂ known => ?_
  refine (learns_idAt tolerates settled₂).result.bind fun frameId third grows₃ settled₃ known' => ?_
  refine .pure settled₃ ⟨rfl, knows.keep (grows₂.keeps.trans grows₃.keeps), ?_, ?_⟩
  · intro value reported
    cases kind with
    | error error => cases reported
    | ok kind =>
      cases reported
      exact (known.2 _ rfl).keep grows₃.keeps
  · intro value reported
    cases frameId with
    | error error => cases reported
    | ok frameId =>
      cases frameId with
      | none => cases reported
      | some frameId =>
        cases reported
        exact known'.2 _ rfl

end Caller

end Walker

theorem KnownFrame.Settled.called {frame : KnownFrame w ε κ} {walker : Walker w ε κ τ}
    (settled : frame.Settled walker) (caller : Caller) :
    ({ frame with caller := some caller } : KnownFrame w ε κ).Settled walker :=
  ⟨settled.unwinder, settled.idle, settled.owned, settled.identified⟩

namespace CallStack

/-- What holds of a call stack between two questions. -/
structure Intact (stack : CallStack w ε κ τ) (walker : Walker w ε κ τ) : Prop
    extends stack.Linked where
  settled : stack.SettledBelow walker stack.frames.size
  counted : stack.computations = stack.readyCaches
  /-- A frame gets a caller only after its own id has been found. -/
  identified {level : Nat} (inside : level + 1 < stack.frames.size) :
    ∃ frameId, stack.KnowsId level (some frameId)
  /-- Nor does it get one unless it may lie where it does, seen from the next inner frame. -/
  outward {level : Nat} (inside : level + 2 < stack.frames.size) :
    stack.Outward walker.architecture level

variable {walker : Walker w ε κ τ}

theorem Intact.grow {before after : CallStack w ε κ τ} {bound : Nat} (intact : before.Intact walker)
    (grows : before.Grows after bound) (settled : after.SettledBelow walker bound) :
    after.Intact walker := by
  have size := grows.untouched.size
  constructor
  case toLinked => exact intact.toLinked.untouched grows.untouched
  case settled => exact size ▸ intact.settled.extend settled grows.untouched
  case counted =>
    have counted := grows.counted
    have counted' := intact.counted
    omega
  case identified =>
    intro level inside
    obtain ⟨frameId, knows⟩ := intact.identified (size ▸ inside)
    exact ⟨frameId, knows.keep grows.keeps⟩
  case outward => exact fun inside => (intact.outward (size ▸ inside)).keep grows.keeps

section Last

variable {stack : CallStack w ε κ τ} {level : Nat} {frame : KnownFrame w ε κ}
  (found : stack.frames[level]? = some frame) (uncalled : frame.caller = none)
include found uncalled

theorem Keeps.called (caller : Caller) :
    stack.Keeps (stack.update level ({ · with caller := some caller })) :=
  .update found ⟨rfl, id, id, id, fun kept => (nomatch uncalled.symm.trans kept)⟩

theorem Keeps.addCaller (pc : BitVec w) : stack.Keeps (stack.addCaller level pc) := by
  have pushed : stack.Keeps (stack.push pc) := fun _ frame' found' =>
    ⟨frame', frame_push_of_known found' pc, .refl frame'⟩
  exact pushed.trans (.called (frame_push_of_known found pc) uncalled _)

omit uncalled in
theorem readyCaches_addCaller (pc : BitVec w) :
    (stack.addCaller level pc).readyCaches = stack.readyCaches :=
  (readyCaches_update_of_same (frame_push_of_known found pc) rfl).trans Array.countP_push

variable (intact : stack.Intact walker) (last : stack.frames.size = level + 1)
include intact last

theorem Intact.endAt (reason : UnwindStop) : (stack.endAt level reason).Intact walker := by
  have keeps : stack.Keeps (stack.endAt level reason) := .called found uncalled (.stop reason)
  have size := size_endAt stack level reason
  obtain ⟨_, found', idle⟩ := intact.settled level (by omega)
  cases found.symm.trans found'
  constructor
  case toLinked => exact intact.toLinked.endAt last found reason
  case settled =>
    rw [size, last]
    exact (intact.settled.mono (by omega)).update found (idle.called (.stop reason))
  case counted => exact intact.counted.trans (readyCaches_update_of_same found rfl).symm
  case identified =>
    intro other inside
    obtain ⟨frameId, knows⟩ := intact.identified (size ▸ inside)
    exact ⟨frameId, knows.keep keeps⟩
  case outward => exact fun inside => (intact.outward (size ▸ inside)).keep keeps

/-- The last frame, which lies further out than the one that it called, gets a caller, which is the
last frame from then on. -/
theorem Intact.addCaller (pc : BitVec w) {frameId : FrameId w}
    (identified : stack.KnowsId level (some frameId))
    (outward : ∀ inner, level = inner + 1 → stack.Outward walker.architecture inner) :
    (stack.addCaller level pc).Intact walker := by
  have keeps : stack.Keeps (stack.addCaller level pc) := .addCaller found uncalled pc
  have size := size_addCaller stack level pc
  obtain ⟨_, found', idle⟩ := intact.settled level (by omega)
  cases found.symm.trans found'
  constructor
  case toLinked => exact intact.toLinked.addCaller last found pc
  case settled =>
    rw [size, last]
    exact (intact.settled.mono (by omega)).addCaller found last (idle.called _)
      ⟨nofun, nofun, nofun, nofun⟩
  case counted => exact intact.counted.trans (readyCaches_addCaller found pc).symm
  case identified =>
    intro other inside
    rcases Nat.lt_or_ge (other + 1) stack.frames.size with before | here
    · obtain ⟨frameId, knows⟩ := intact.identified before
      exact ⟨frameId, knows.keep keeps⟩
    · have same : other = level := by omega
      exact ⟨frameId, (same ▸ identified).keep keeps⟩
  case outward =>
    intro other inside
    rcases Nat.lt_or_ge (other + 2) stack.frames.size with before | here
    · exact (intact.outward before).keep keeps
    · exact (outward other (by omega)).keep keeps

end Last

end CallStack

namespace Walker

/-- A walk on a whole call stack keeps it intact and forgets nothing. It comes to a result with a
property, or fails in a way that is allowed. -/
def Maintains (walker : Walker w ε κ τ) (allowed : Error ε → Prop) (walk : Walk w ε κ τ α)
    (before : CallStack w ε κ τ) (fact : α → CallStack w ε κ τ → Prop) : Prop :=
  ∃ result after, Attempt.run walk before = (result, after) ∧ after.Intact walker ∧
    before.Keeps after ∧ FailsOnly allowed result ∧ ∀ value, result = .ok value → fact value after

section Whole

variable {walker : Walker w ε κ τ} {allowed : Error ε → Prop} {before : CallStack w ε κ τ}
  {fact : α → CallStack w ε κ τ → Prop}

theorem Learns.maintains {bound : Nat} {walk : Walk w ε κ τ α}
    (learns : walker.Learns allowed bound walk before fact) (intact : before.Intact walker) :
    walker.Maintains allowed walk before fact := by
  obtain ⟨result, after, run, grows, settled, rest⟩ := learns
  exact ⟨result, after, run, intact.grow grows settled, grows.keeps, rest⟩

namespace Maintains

theorem pure (intact : before.Intact walker) {value : α} (holds : fact value before) :
    walker.Maintains allowed (Pure.pure value) before fact :=
  ⟨.ok value, before, rfl, intact, .refl before, failsOnly_ok value, fun _ same =>
    Except.ok.inj same ▸ holds⟩

theorem bind {walk : Walk w ε κ τ α} {next : α → Walk w ε κ τ β}
    {last : β → CallStack w ε κ τ → Prop} (first : walker.Maintains allowed walk before fact)
    (second : ∀ value middle, before.Keeps middle → middle.Intact walker → fact value middle →
      walker.Maintains allowed (next value) middle last) :
    walker.Maintains allowed (walk >>= next) before last := by
  obtain ⟨result, middle, run, intact, keeps, fails, holds⟩ := first
  unfold Maintains
  rw [Attempt.run_bind, run]
  cases result with
  | error error => exact ⟨_, middle, rfl, intact, keeps, failsOnly_error (fails error rfl), nofun⟩
  | ok value =>
    obtain ⟨result', after, run', intact', keeps', rest⟩ :=
      second value middle keeps intact (holds value rfl)
    exact ⟨result', after, run', intact', keeps.trans keeps', rest⟩

theorem allow {walk : Walk w ε κ τ α} {wider : Error ε → Prop}
    (maintains : walker.Maintains allowed walk before fact)
    (widens : ∀ error, allowed error → wider error) : walker.Maintains wider walk before fact := by
  obtain ⟨result, after, run, intact, keeps, fails, holds⟩ := maintains
  exact ⟨result, after, run, intact, keeps, fun error same => widens error (fails error same), holds⟩

theorem map {walk : Walk w ε κ τ α} (maintains : walker.Maintains allowed walk before fact)
    (wrap : α → β) : walker.Maintains allowed (do return wrap (← walk)) before fun _ _ => True :=
  maintains.bind fun _ _ _ intact _ => .pure intact trivial

theorem result {walk : Walk w ε κ τ α} {wider : Error ε → Prop}
    (maintains : walker.Maintains allowed walk before fact) :
    walker.Maintains wider (walk.result : Walk w ε κ τ (Except (Error ε) α)) before
      fun outcome after => FailsOnly allowed outcome ∧ ∀ value, outcome = .ok value →
        fact value after := by
  obtain ⟨outcome, after, run, intact, keeps, fails, holds⟩ := maintains
  refine ⟨.ok outcome, after, by simp [Attempt.result, run, Prod.map], intact, keeps,
    failsOnly_ok outcome, ?_⟩
  rintro _ ⟨⟩
  exact ⟨fails, holds⟩

end Maintains

variable (tolerates : walker.Tolerates allowed) (intact : before.Intact walker)
include tolerates intact

omit intact in
theorem learns_callerPc {level : Nat} (settled : before.SettledBelow walker (level + 1)) :
    walker.Learns allowed (level + 1) (walker.callerPc level) before fun _ _ => True := by
  refine (learns_callerRegister tolerates settled _).bind fun bytes _ _ settled' _ => ?_
  obtain ⟨pc, address⟩ := addressOf_eq_ok (w := w) (ε := ε) bytes
  rw [address]
  exact .pure settled' trivial

/-- Unwinding the last frame for the first time ends the walk, or finds its caller. -/
theorem Unwinds.maintains {level : Nat} {frame : KnownFrame w ε κ} {after : CallStack w ε κ τ}
    {result : Except (Error ε) Caller} (unwinds : walker.Unwinds level before result after)
    (found : before.frames[level]? = some frame) (uncalled : frame.caller = none) :
    after.Intact walker ∧ before.Keeps after ∧ FailsOnly allowed result := by
  have last : before.frames.size = level + 1 := intact.toLinked.last_of_uncalled found uncalled
  have identified (inner : Nat) (same : level = inner + 1) :
      ∃ innerId, before.KnowsId inner (some innerId) := intact.identified (by omega)
  obtain ⟨stop, first, run, grows₁, settled₁, fails₁, goesOn⟩ :=
    learns_stopAt? tolerates (last ▸ intact.settled) identified
  have intact₁ := intact.grow grows₁ settled₁
  obtain ⟨frame₁, found₁, same₁⟩ := grows₁.untouched.known_after found
  have uncalled₁ := same₁.trans uncalled
  have size₁ := grows₁.untouched.size.trans last
  obtain ⟨recovered, second, run', grows₂, settled₂, fails₂, -⟩ :=
    learns_callerPc tolerates settled₁
  have intact₂ := intact₁.grow grows₂ settled₂
  have keeps := grows₁.keeps.trans grows₂.keeps
  have size₂ := grows₂.untouched.size.trans size₁
  -- Looking things up keeps the stack intact and adds no frame, however it ends.
  cases unwinds with
  | failed search =>
    cases run.symm.trans search
    exact ⟨intact₁, grows₁.keeps, failsOnly_error (fails₁ _ rfl)⟩
  | stopped search =>
    cases run.symm.trans search
    exact ⟨intact₁.endAt found₁ uncalled₁ size₁ _, grows₁.keeps.trans (.called found₁ uncalled₁ _),
      failsOnly_ok _⟩
  | unrecovered search recovery =>
    cases run.symm.trans search
    cases run'.symm.trans recovery
    exact ⟨intact₂, keeps, failsOnly_error (fails₂ _ rfl)⟩
  | found search recovery =>
    cases run.symm.trans search
    cases run'.symm.trans recovery
    obtain ⟨⟨frameId, known⟩, outward⟩ := goesOn none rfl rfl
    obtain ⟨frame₂, found₂, same₂⟩ := grows₂.untouched.known_after found₁
    have uncalled₂ := same₂.trans uncalled₁
    refine ⟨intact₂.addCaller found₂ uncalled₂ size₂ _ (known.keep grows₂.keeps) ?_,
      keeps.trans (.addCaller found₂ uncalled₂ _), failsOnly_ok _⟩
    exact fun inner same => (outward inner same).keep grows₂.keeps
  | outOfSync search recovery notLast =>
    cases run.symm.trans search
    cases run'.symm.trans recovery
    exact absurd size₂ notLast

/-- Unwinding a frame is looked up, or done once. -/
theorem maintains_caller {level : Nat} (inside : level < before.frames.size) :
    walker.Maintains allowed (walker.caller level) before fun caller after =>
      ∀ outer, caller = .level outer → outer = level + 1 ∧ outer < after.frames.size := by
  obtain ⟨frame, found, -⟩ := intact.settled level inside
  cases recorded : frame.caller with
  | some caller =>
    refine ⟨.ok caller, before, run_caller_of_known found recorded, intact, .refl before,
      failsOnly_ok caller, ?_⟩
    rintro _ ⟨⟩ outer rfl
    exact intact.last found recorded
  | none =>
    rcases run : Attempt.run (walker.caller level) before with ⟨result, after⟩
    have unwinds := unwinds_caller found recorded run
    obtain ⟨intact', keeps, fails⟩ := unwinds.maintains tolerates intact found recorded
    refine ⟨result, after, run, intact', keeps, fails, ?_⟩
    rintro _ rfl outer rfl
    exact unwinds.next

/-- A backtrace never fails. A failure on the way ends it. -/
theorem maintains_backtraceFrom {level : Nat} (limit : Nat) (inside : level < before.frames.size) :
    walker.Maintains (fun _ => False) (walker.backtraceFrom level limit) before fun backtrace after =>
      (∀ error, backtrace.error = some error → allowed error) ∧ backtrace.Recorded level after := by
  induction limit generalizing level before with
  | zero => exact .pure intact ⟨nofun, nofun⟩
  | succ limit ih =>
    have listed := learns_entry tolerates (intact.settled.mono inside)
    refine (listed.maintains intact).bind fun entry first keeps₁ intact₁ recorded => ?_
    have inside₁ := Nat.lt_of_lt_of_le inside keeps₁.size_le
    refine (maintains_caller tolerates intact₁ inside₁).result.bind
      fun outcome second keeps₂ intact₂ called => ?_
    obtain ⟨fails, next⟩ := called
    have recorded₂ := And.intro recorded.1 (recorded.2.keep keeps₂)
    -- The entry of this frame is listed however the walk goes on.
    cases outcome with
    | error error =>
      refine .pure intact₂ ⟨?_, .push recorded₂ nofun⟩
      rintro _ ⟨⟩
      exact fails error rfl
    | ok caller =>
      cases caller with
      | stop reason => exact .pure intact₂ ⟨nofun, .push recorded₂ nofun⟩
      | level outer =>
        obtain ⟨rfl, inside₂⟩ := next _ rfl outer rfl
        refine (ih intact₂ inside₂).bind fun rest third keeps₃ intact₃ found => ?_
        exact .pure intact₃ ⟨found.1, .push ⟨recorded₂.1, recorded₂.2.keep keeps₃⟩ found.2⟩

/-- Every question about a known frame leaves the call stack intact. -/
theorem maintains_perform {call : StackCall w ε}
    (relays : ∀ level query, call = .ask level query → query.Relays allowed)
    (inside : call.level < before.frames.size) :
    walker.Maintains allowed (walker.perform call) before fun _ _ => True := by
  have settled := intact.settled.mono inside
  cases call with
  | pc level => exact ((learns_pcAt settled).maintains intact).map StackAnswer.address
  | kind level => exact ((learns_kindAt tolerates settled).maintains intact).map StackAnswer.kind
  | frameId level => exact ((learns_idAt tolerates settled).maintains intact).map StackAnswer.frameId
  | base level => exact ((learns_baseAt tolerates settled).maintains intact).map StackAnswer.address
  | register level number =>
    exact ((learns_registerAt tolerates settled number).maintains intact).map StackAnswer.bytes
  | address level number =>
    exact ((learns_addressAt tolerates settled number).maintains intact).map StackAnswer.address
  | callerRegister level number =>
    exact ((learns_callerRegister tolerates settled number).maintains intact).map StackAnswer.bytes
  | caller level => exact (maintains_caller tolerates intact inside).map StackAnswer.caller
  | backtrace limit =>
    exact ((maintains_backtraceFrom tolerates intact limit inside).map StackAnswer.backtrace).allow
      fun _ => False.elim
  | ask level query =>
    have asked : walker.Learns allowed (level + 1) (walker.perform (.ask level query)) before
        fun _ _ => True := by
      refine learns_known settled (Nat.lt_succ_self level) fun _ _ _ => ?_
      exact (learns_ask tolerates settled (relays level query rfl)).bind
        fun _ _ _ settled' _ => .pure settled' trivial
    exact asked.maintains intact

/-- Every question leaves the call stack intact. One that fails without need is about a frame that
is not known. -/
theorem maintains_any {call : StackCall w ε}
    (relays : ∀ level query, call = .ask level query → query.Relays allowed) :
    walker.Maintains (fun error => allowed error ∨
      error = .internal "frame level out of range" ∧ before.frames.size ≤ call.level)
      (walker.perform call) before fun _ _ => True := by
  rcases Nat.lt_or_ge call.level before.frames.size with inside | beyond
  · exact (maintains_perform tolerates intact relays inside).allow fun _ fine => .inl fine
  · obtain ⟨error, run, reason⟩ := run_perform_beyond call intact.started beyond
    refine ⟨.error error, before, run, intact, .refl before, failsOnly_error ?_, nofun⟩
    rcases reason with rfl | ⟨cause, rfl⟩
    · exact .inr ⟨rfl, beyond⟩
    · exact .inl (tolerates.register cause)

end Whole

section Histories

variable {walker : Walker w ε κ τ}

theorem failsOnly_start {allowed : Error ε → Prop} (tolerates : walker.Tolerates allowed)
    (memory : τ) : FailsOnly allowed (walker.start memory) := by
  unfold start
  cases walker.registers.read walker.architecture.programCounter with
  | error error => exact failsOnly_error (tolerates.register error)
  | ok bytes =>
    obtain ⟨pc, address⟩ := addressOf_eq_ok (w := w) (ε := ε) bytes
    change FailsOnly allowed (addressOf bytes >>= _)
    rw [address]
    exact failsOnly_ok _

theorem intact_start {memory : τ} {first : CallStack w ε κ τ}
    (started : walker.start memory = .ok first) : first.Intact walker := by
  obtain ⟨bytes, -, rest⟩ := bind_eq_ok.1 started
  obtain ⟨pc, -, same⟩ := bind_eq_ok.1 rest
  cases same
  constructor
  case toLinked => exact .single pc _ _
  case settled =>
    intro level inside
    cases Nat.lt_one_iff.1 inside
    exact ⟨{ pc }, rfl, nofun, nofun, nofun, nofun⟩
  case counted => rfl
  case identified => exact fun inside => absurd inside (by simp)
  case outward => exact fun inside => absurd inside (by simp)

/-- Whatever is asked, and whatever of that fails, a call stack stays intact and forgets nothing. -/
theorem intact_after (history : List (StackCall w ε)) {stack : CallStack w ε κ τ}
    (intact : stack.Intact walker) :
    (walker.after history stack).Intact walker ∧ stack.Keeps (walker.after history stack) := by
  induction history generalizing stack with
  | nil => exact ⟨intact, .refl stack⟩
  | cons call history ih =>
    have all : ∀ error : Error ε, True := fun _ => trivial
    obtain ⟨result, next, run, intact', keeps, -⟩ := maintains_any (tolerates_of_all walker all) intact
      fun _ query _ => FrameQuery.relays_of_all all query
    obtain ⟨intact'', keeps'⟩ := ih intact'
    have step : walker.after (call :: history) stack = walker.after history next := by
      change walker.after history (Attempt.run (walker.perform call) stack).2 = _
      rw [run]
    rw [step]
    exact ⟨intact'', keeps.trans keeps'⟩

end Histories

end Walker

end Inferior

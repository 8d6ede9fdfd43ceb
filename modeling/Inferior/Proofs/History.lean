import Inferior.Amd64.Linux
import Inferior.Proofs.Memoization

/-! Callers and backtraces, and whole series of questions about a call stack.

A caller is added at the end of the known frames, and only once, since its frame records it. With
that, each answer is the one that a survey without any memory gives, whatever was asked before.
-/

set_option autoImplicit false

namespace Inferior

variable {w : Nat} {ε κ τ α β : Type}

inductive StackCall (w : Nat) (ε : Type) where
  | pc (level : Nat)
  | kind (level : Nat)
  | frameId (level : Nat)
  | base (level : Nat)
  | register (level number : Nat)
  | address (level number : Nat)
  | callerRegister (level number : Nat)
  | caller (level : Nat)
  | backtrace (limit : Nat)
  /-- A question of the kind that unwinders ask. -/
  | ask (level : Nat) (query : FrameQuery w ε Bytes)

inductive StackAnswer (w : Nat) (ε : Type) where
  | address (address : BitVec w)
  | kind (kind : FrameKind)
  | frameId (frameId : Option (FrameId w))
  | bytes (bytes : Bytes)
  | caller (caller : Caller)
  | backtrace (backtrace : Backtrace w ε)

/-- The level that has to be known. A backtrace starts at the innermost frame. -/
def StackCall.level : StackCall w ε → Nat
  | pc level | kind level | frameId level | base level | register level _ | address level _
  | callerRegister level _ | caller level | ask level _ => level
  | backtrace _ => 0

namespace Walker

def perform (walker : Walker w ε κ τ) : StackCall w ε → Walk w ε κ τ (StackAnswer w ε)
  | .pc level => do return .address (← pcAt level)
  | .kind level => do return .kind (← walker.kindAt level)
  | .frameId level => do return .frameId (← walker.idAt level)
  | .base level => do return .address (← walker.baseAt level)
  | .register level number => do return .bytes (← walker.registerAt level number)
  | .address level number => do return .address (← walker.addressAt level number)
  | .callerRegister level number => do return .bytes (← walker.callerRegister level number)
  | .caller level => do return .caller (← walker.caller level)
  | .backtrace limit => do return .backtrace (← walker.backtrace limit)
  | .ask level query => do
    let _ ← known level
    return .bytes (← walker.ask level query)

/-- A call stack after a series of questions, some of which may have failed. -/
def after (walker : Walker w ε κ τ) (history : List (StackCall w ε)) (stack : CallStack w ε κ τ) :
    CallStack w ε κ τ :=
  history.foldl (fun stack call => (Attempt.run (walker.perform call) stack).2) stack

end Walker

/-- The answer that a survey without any memory gives to a question. -/
def Scene.reply (scene : Scene w ε κ) : StackCall w ε → Except (Error ε) (StackAnswer w ε)
  | .pc level => do return .address (← scene.view level).pc
  | .kind level => do return .kind (← scene.kind (← scene.view level))
  | .frameId level => do return .frameId (← scene.frameId (← scene.view level))
  | .base level => do return .address (← scene.base (← scene.view level))
  | .register level number => do return .bytes (← (← scene.view level).register number)
  | .address level number => do
    return .address (← Walker.addressOf (← (← scene.view level).register number))
  | .callerRegister level number => do
    return .bytes (← scene.callerRegister (← scene.view level) number)
  | .caller level => do return .caller (← scene.caller level)
  | .backtrace limit => do return .backtrace (← scene.backtrace limit)
  | .ask level query => do return .bytes (← scene.snapshot.answer (← scene.view level) query)

namespace Walker

section Caller

variable {walker : Walker w ε κ τ} {scene : Scene w ε κ} {held : τ → Prop}
  (explores : walker.Explores scene held)
include explores

theorem answers_callerLocation {level : Nat} {view : View w ε} (seen : scene.view level = .ok view)
    (number : Nat) :
    Answers scene held (level + 1) (walker.callerLocation level number)
      (scene.callerLocation level number) := by
  -- A register that a frame has left alone is looked for in the next inner frame. The innermost
  -- one has it in the thread.
  induction level generalizing view number with
  | zero =>
    unfold callerLocation Scene.callerLocation
    rw [seen, ok_bind]
    apply (answers_cacheAt explores seen (answers_inner explores seen)).bind
    intro pair _
    obtain ⟨unwinder, cache⟩ := pair
    cases located : unwinder.previousRegister cache number with
    | constant _ | memory _ | register _ =>
      simp only [located]
      exact .pure _
  | succ level ih =>
    unfold callerLocation Scene.callerLocation
    rw [seen, ok_bind]
    apply (answers_cacheAt explores seen (answers_inner explores seen)).bind
    intro pair _
    obtain ⟨unwinder, cache⟩ := pair
    obtain ⟨inner, _, seen', _, _⟩ := Scene.view_succ_eq_ok.1 seen
    cases located : unwinder.previousRegister cache number with
    | constant _ | memory _ =>
      simp only [located]
      exact .pure _
    | register other =>
      simp only [located]
      exact (ih seen' other).mono (Nat.le_succ _)

theorem answers_repeatsSavedPc {level : Nat} {inner view : View w ε}
    (seen : scene.view level = .ok inner) (seen' : scene.view (level + 1) = .ok view)
    (innerKind : FrameKind) :
    Answers scene held (level + 2) (walker.repeatsSavedPc innerKind level)
      (scene.repeatsSavedPc innerKind level) := by
  have programCounter : scene.architecture.programCounter = walker.architecture.programCounter := by
    rw [← explores.same]
    rfl
  unfold repeatsSavedPc Scene.repeatsSavedPc
  rw [programCounter, seen', ok_bind]
  apply Answers.ite (fun _ => .pure false)
  intro _
  apply (answers_kindAt explores seen').bind
  intro kind _
  apply Answers.ite (fun _ => .pure false)
  intro _
  apply (answers_callerLocation explores seen' _).bind
  intro location _
  apply Answers.ite (fun _ => .pure false)
  intro _
  exact ((answers_callerLocation explores seen walker.architecture.programCounter).mono
    (Nat.le_succ (level + 1))).bind fun _ _ => .pure _

theorem answers_misplaced? {level : Nat} {inner view : View w ε}
    (seen : scene.view level = .ok inner) (seen' : scene.view (level + 1) = .ok view)
    (frameId : FrameId w) :
    Answers scene held (level + 2) (walker.misplaced? frameId level)
      (scene.misplaced? frameId level) := by
  have innerThan : scene.architecture.innerThan = walker.architecture.innerThan := by
    rw [← explores.same]
    rfl
  unfold misplaced? Scene.misplaced?
  rw [seen, ok_bind, innerThan]
  have le := Nat.le_succ (level + 1)
  apply ((answers_kindAt explores seen).mono le).bind
  intro kind _
  rw [ok_bind]
  apply ((answers_idAt explores seen).mono le).bind
  intro innerId _
  cases innerId with
  | none =>
    apply (answers_repeatsSavedPc explores seen seen' kind).bind
    intro repeated _
    exact .ite (fun _ => .pure _) fun _ => .pure _
  | some innerId =>
    simp only
    apply Answers.ite (fun _ => .pure _)
    intro _
    apply Answers.ite (fun _ => .pure _)
    intro _
    apply (answers_repeatsSavedPc explores seen seen' kind).bind
    intro repeated _
    exact .ite (fun _ => .pure _) fun _ => .pure _

theorem answers_stopAt? {level : Nat} {view : View w ε} (seen : scene.view level = .ok view) :
    Answers scene held (level + 1) (walker.stopAt? level) (scene.stopAt? level) := by
  unfold stopAt? Scene.stopAt?
  rw [seen, ok_bind]
  apply answers_known seen (Nat.lt_succ_self level)
  intro frame kept
  rw [kept.pc]
  apply Answers.ite (fun _ => .pure _)
  intro _
  apply (answers_idAt explores seen).bind
  intro frameId _
  cases frameId with
  | none => exact .pure _
  | some frameId =>
    cases level with
    | zero => exact .pure _
    | succ level =>
      obtain ⟨inner, _, seen', _, _⟩ := Scene.view_succ_eq_ok.1 seen
      exact answers_misplaced? explores seen' seen frameId

end Caller

end Walker

namespace CallStack

structure Sound (stack : CallStack w ε κ τ) (scene : Scene w ε κ) (held : τ → Prop) : Prop
    extends stack.Linked where
  faithful : stack.FaithfulBelow scene held stack.frames.size

namespace Sound

variable {scene : Scene w ε κ} {held : τ → Prop} {stack : CallStack w ε κ τ} {level : Nat}

theorem view (sound : stack.Sound scene held) (inside : level < stack.frames.size) :
    ∃ view, scene.view level = .ok view := by
  obtain ⟨_, view, _, seen, _⟩ := sound.faithful.frames inside
  exact ⟨view, seen⟩

theorem untouched {before after : CallStack w ε κ τ} {bound : Nat} (sound : before.Sound scene held)
    (faithful : after.FaithfulBelow scene held bound) (untouched : before.UntouchedFrom after bound) :
    after.Sound scene held where
  toLinked := sound.toLinked.untouched untouched
  faithful := untouched.size ▸ sound.faithful.extend faithful untouched

variable (sound : stack.Sound scene held) (last : stack.frames.size = level + 1)
include sound last

theorem endAt {reason : UnwindStop} (right : scene.caller level = .ok (.stop reason)) :
    (stack.endAt level reason).Sound scene held := by
  obtain ⟨frame, view, found, seen, kept⟩ :=
    sound.faithful.frames (show level < _ by omega)
  refine ⟨sound.toLinked.endAt last found reason, ?_⟩
  rw [size_endAt, last]
  refine (sound.faithful.mono (by omega)).update found seen
    ⟨kept.pc, kept.unwinder, kept.cache, kept.frameId, fun {caller} same => ?_⟩
  rw [← Option.some.inj same, Scene.level_of_view seen]
  exact right

theorem addCaller {outer : View w ε} (seen' : scene.view (level + 1) = .ok outer)
    (right : scene.caller level = .ok (.level (level + 1))) :
    (stack.addCaller level outer.pc).Sound scene held := by
  obtain ⟨frame, view, found, seen, kept⟩ :=
    sound.faithful.frames (show level < _ by omega)
  refine ⟨sound.toLinked.addCaller last found outer.pc, sound.faithful.memory, ?_⟩
  rw [size_addCaller, last]
  refine (sound.faithful.each.mono (by omega)).addCaller found last ⟨view, seen, ?_⟩
    ⟨outer, seen', rfl, nofun, .inl rfl, nofun, nofun⟩
  refine ⟨kept.pc, kept.unwinder, kept.cache, kept.frameId, fun {caller} same => ?_⟩
  rw [← Option.some.inj same, Scene.level_of_view seen]
  exact right

end Sound

end CallStack

namespace Walker

variable {walker : Walker w ε κ τ} {scene : Scene w ε κ} {held : τ → Prop}

/-- A walk on a whole call stack gives an answer, keeps the stack sound and loses no frame. -/
def Reports (scene : Scene w ε κ) (held : τ → Prop) (walk : Walk w ε κ τ α)
    (answer : Except (Error ε) α) (before : CallStack w ε κ τ) : Prop :=
  ∃ after, Attempt.run walk before = (answer, after) ∧ after.Sound scene held ∧
    before.frames.size ≤ after.frames.size

theorem Answers.reports {bound : Nat} {walk : Walk w ε κ τ α} {answer : Except (Error ε) α}
    (answers : Answers scene held bound walk answer) {before : CallStack w ε κ τ}
    (sound : before.Sound scene held) (inside : bound ≤ before.frames.size) :
    Reports scene held walk answer before := by
  obtain ⟨after, run, faithful, untouched⟩ := answers before (sound.faithful.mono inside)
  exact ⟨after, run, sound.untouched faithful untouched, Nat.le_of_eq untouched.size.symm⟩

theorem Answers.run_eq {bound : Nat} {walk : Walk w ε κ τ α} {answer : Except (Error ε) α}
    (answers : Answers scene held bound walk answer) {stack : CallStack w ε κ τ}
    (sound : stack.Sound scene held) (inside : bound ≤ stack.frames.size) :
    (Attempt.run walk stack).1 = answer := by
  obtain ⟨_, run, -⟩ := answers.reports sound inside
  rw [run]

theorem Reports.map {walk : Walk w ε κ τ α} {answer : Except (Error ε) α}
    {before : CallStack w ε κ τ} (reports : Reports scene held walk answer before) (wrap : α → β) :
    Reports scene held (do return wrap (← walk)) (do return wrap (← answer)) before := by
  obtain ⟨after, run, rest⟩ := reports
  refine ⟨after, ?_, rest⟩
  cases answer with
  | error error => exact Attempt.run_bind_error run _
  | ok value => exact Attempt.run_bind_ok run _

section Chain

variable (explores : walker.Explores scene held)
include explores

theorem answers_callerPc {level : Nat} {view : View w ε} (seen : scene.view level = .ok view) :
    Answers scene held (level + 1) (walker.callerPc level) (scene.callerPc view) := by
  have programCounter : scene.architecture.programCounter = walker.architecture.programCounter := by
    rw [← explores.same]
    rfl
  unfold Scene.callerPc
  rw [programCounter]
  exact (answers_callerRegister explores seen _).bind fun _ _ => .ofExcept _

/-- Unwinding the last frame for the first time ends as a survey does. -/
theorem Unwinds.sound {level : Nat} {before after : CallStack w ε κ τ}
    {result : Except (Error ε) Caller} (unwinds : walker.Unwinds level before result after)
    (sound : before.Sound scene held) (last : before.frames.size = level + 1) :
    result = scene.caller level ∧ after.Sound scene held ∧
      before.frames.size ≤ after.frames.size := by
  obtain ⟨view, seen⟩ := sound.view (show level < _ by omega)
  obtain ⟨first, run, faithful, untouched⟩ :=
    answers_stopAt? explores seen before (last ▸ sound.faithful)
  have sound₁ := sound.untouched faithful untouched
  obtain ⟨second, run', faithful', untouched'⟩ := answers_callerPc explores seen first faithful
  have sound₂ := sound₁.untouched faithful' untouched'
  have size₁ := untouched.size
  have size₂ := untouched'.size
  -- Each step on the way gives what a survey gives, so it also ends as a survey does.
  cases unwinds with
  | failed search =>
    obtain ⟨stop, rfl⟩ := Prod.mk.inj (run.symm.trans search)
    exact ⟨(Scene.caller_of_error stop).symm, sound₁, by omega⟩
  | stopped search =>
    obtain ⟨stop, rfl⟩ := Prod.mk.inj (run.symm.trans search)
    have stops := Scene.caller_of_stop stop
    refine ⟨stops.symm, sound₁.endAt (size₁.trans last) stops, ?_⟩
    rw [CallStack.size_endAt]
    omega
  | unrecovered goesOn recovery =>
    obtain ⟨stop, rfl⟩ := Prod.mk.inj (run.symm.trans goesOn)
    obtain ⟨failed, rfl⟩ := Prod.mk.inj (run'.symm.trans recovery)
    refine ⟨?_, sound₂, by omega⟩
    rw [Scene.caller_of_no_stop stop, Scene.view, seen, ok_bind, failed]
    rfl
  | found goesOn recovery last' =>
    obtain ⟨stop, rfl⟩ := Prod.mk.inj (run.symm.trans goesOn)
    obtain ⟨recovered, rfl⟩ := Prod.mk.inj (run'.symm.trans recovery)
    have seen' := Scene.view_succ_eq_ok.2 ⟨view, _, seen, recovered, rfl⟩
    have called : scene.caller level = .ok (.level (level + 1)) := by
      rw [Scene.caller_of_no_stop stop, seen']
      rfl
    refine ⟨called.symm, sound₂.addCaller last' seen' called, ?_⟩
    rw [CallStack.size_addCaller]
    omega
  | outOfSync goesOn recovery notLast =>
    -- The frame is the last one, and looking at it has added no other.
    obtain ⟨-, rfl⟩ := Prod.mk.inj (run.symm.trans goesOn)
    obtain ⟨-, rfl⟩ := Prod.mk.inj (run'.symm.trans recovery)
    omega

/-- Unwinding a frame gives what a survey gives. A caller that it names is among the known frames
afterwards. -/
theorem run_caller {level : Nat} {before : CallStack w ε κ τ} (sound : before.Sound scene held)
    (inside : level < before.frames.size) :
    ∃ after, Attempt.run (walker.caller level) before = (scene.caller level, after) ∧
      after.Sound scene held ∧ before.frames.size ≤ after.frames.size ∧
      ∀ outer, scene.caller level = .ok (.level outer) → outer < after.frames.size := by
  obtain ⟨frame, view, found, seen, kept⟩ := sound.faithful.frames inside
  -- A frame with a recorded caller need not be the last one. One without is, since all frames
  -- but the last one have the next one as their caller.
  cases recorded : frame.caller with
  | some caller =>
    have same := kept.caller recorded
    rw [Scene.level_of_view seen] at same
    refine ⟨before, ?_, sound, Nat.le_refl _, fun outer called => ?_⟩
    · rw [run_caller_of_known found recorded, same]
    · cases same.symm.trans called
      exact (sound.last found recorded).2
  | none =>
    have last : before.frames.size = level + 1 := sound.toLinked.last_of_uncalled found recorded
    rcases run : Attempt.run (walker.caller level) before with ⟨result, after⟩
    have unwinds := unwinds_caller found recorded run
    obtain ⟨rfl, sound', size⟩ := unwinds.sound explores sound last
    refine ⟨after, rfl, sound', size, fun outer called => ?_⟩
    rw [called] at unwinds
    exact unwinds.next.2

theorem answers_entry {level : Nat} {view : View w ε} (seen : scene.view level = .ok view) :
    Answers scene held (level + 1) (walker.entry level) (.ok (scene.entry view)) := by
  unfold Scene.entry
  rw [Scene.level_of_view seen]
  change Answers _ _ _ _ (.ok view.pc >>= fun pc => .ok (scene.kind view) >>= fun kind =>
    .ok (scene.frameId view) >>= fun frameId =>
      .ok (⟨level, pc, kind.toOption, frameId.toOption.join⟩ : BacktraceEntry w))
  apply (answers_pcAt seen).bind
  intro pc _
  apply (answers_kindAt explores seen).result.bind
  intro kind _
  exact (answers_idAt explores seen).result.bind fun frameId _ => .pure _

theorem reports_backtraceFrom {level : Nat} (limit : Nat) {before : CallStack w ε κ τ}
    (sound : before.Sound scene held) (inside : level < before.frames.size) :
    Reports scene held (walker.backtraceFrom level limit) (scene.backtraceFrom level limit)
      before := by
  -- Each step hands on a sound call stack, in which the next frame is known.
  induction limit generalizing level before with
  | zero => exact ⟨before, rfl, sound, Nat.le_refl _⟩
  | succ limit ih =>
    obtain ⟨view, seen⟩ := sound.view inside
    obtain ⟨first, run, sound₁, size₁⟩ := (answers_entry explores seen).reports sound inside
    obtain ⟨second, run', sound₂, size₂, next⟩ :=
      run_caller explores sound₁ (Nat.lt_of_lt_of_le inside size₁)
    have run'' : Attempt.run (walker.caller level).result first =
        ((.ok (scene.caller level) : Except (Error ε) _), second) := by
      simp [Attempt.result, run', Prod.map]
    unfold backtraceFrom Scene.backtraceFrom
    rw [seen, ok_bind, Reports, Attempt.run_bind_ok run, Attempt.run_bind_ok run'']
    cases called : scene.caller level with
    | error error => exact ⟨second, rfl, sound₂, by omega⟩
    | ok caller =>
      cases caller with
      | stop reason => exact ⟨second, rfl, sound₂, by omega⟩
      | level outer =>
        obtain ⟨third, run₃, sound₃, size₃⟩ := ih sound₂ (next outer called)
        refine ⟨third, ?_, sound₃, by omega⟩
        simp only
        cases rest : scene.backtraceFrom outer limit with
        | error error =>
          rw [rest] at run₃
          rw [Attempt.run_bind_error run₃]
          rfl
        | ok backtrace =>
          rw [rest] at run₃
          rw [Attempt.run_bind_ok run₃]
          rfl

theorem reports_perform (call : StackCall w ε) {before : CallStack w ε κ τ}
    (sound : before.Sound scene held) (inside : call.level < before.frames.size) :
    Reports scene held (walker.perform call) (scene.reply call) before := by
  obtain ⟨view, seen⟩ := sound.view inside
  cases call with
  | pc level =>
    change scene.view level = .ok view at seen
    rw [perform, Scene.reply, seen, ok_bind]
    exact ((answers_pcAt seen).reports sound inside).map StackAnswer.address
  | kind level =>
    change scene.view level = .ok view at seen
    rw [perform, Scene.reply, seen, ok_bind]
    exact ((answers_kindAt explores seen).reports sound inside).map StackAnswer.kind
  | frameId level =>
    change scene.view level = .ok view at seen
    rw [perform, Scene.reply, seen, ok_bind]
    exact ((answers_idAt explores seen).reports sound inside).map StackAnswer.frameId
  | base level =>
    change scene.view level = .ok view at seen
    rw [perform, Scene.reply, seen, ok_bind]
    exact ((answers_baseAt explores seen).reports sound inside).map StackAnswer.address
  | register level number =>
    change scene.view level = .ok view at seen
    rw [perform, Scene.reply, seen, ok_bind]
    exact ((answers_registerAt explores seen number).reports sound inside).map StackAnswer.bytes
  | address level number =>
    change scene.view level = .ok view at seen
    rw [perform, Scene.reply, seen, ok_bind, ← bind_assoc]
    exact ((answers_addressAt explores seen number).reports sound inside).map StackAnswer.address
  | callerRegister level number =>
    change scene.view level = .ok view at seen
    rw [perform, Scene.reply, seen, ok_bind]
    exact ((answers_callerRegister explores seen number).reports sound inside).map StackAnswer.bytes
  -- A caller and a backtrace may add frames, so what holds below a level is not enough for them.
  | caller level =>
    obtain ⟨after, run, sound', size, _⟩ := run_caller explores sound inside
    exact Reports.map ⟨after, run, sound', size⟩ StackAnswer.caller
  | backtrace limit =>
    exact (reports_backtraceFrom explores limit sound inside).map StackAnswer.backtrace
  | ask level query =>
    change scene.view level = .ok view at seen
    rw [perform, Scene.reply, seen, ok_bind]
    refine Answers.reports ?_ sound inside
    apply answers_known seen (Nat.lt_succ_self level)
    intro _ _
    exact (answers_ask explores seen query).bind fun _ _ => .pure _

end Chain

def Refuses (walk : Walk w ε κ τ α) (before : CallStack w ε κ τ) : Prop :=
  ∃ error, Attempt.run walk before = (.error error, before)

/-- A question about a frame that is not known changes nothing. It is refused for that, or before
that for the register that it is about. -/
theorem run_perform_beyond (call : StackCall w ε) {before : CallStack w ε κ τ}
    (started : 0 < before.frames.size) (beyond : before.frames.size ≤ call.level) :
    ∃ error, Attempt.run (walker.perform call) before = (.error error, before) ∧
      (error = .internal "frame level out of range" ∨ ∃ cause, error = .register cause) := by
  have unknown {β : Type} (next : KnownFrame w ε κ → Walk w ε κ τ β) :
      Attempt.run (known call.level >>= next) before = _ :=
    Attempt.run_bind_error (run_known_beyond beyond) next
  cases call with
  | pc level => exact ⟨_, Attempt.run_bind_error (unknown _) _, .inl rfl⟩
  | kind level =>
    exact ⟨_, Attempt.run_bind_error (Attempt.run_bind_error (unknown _) _) _, .inl rfl⟩
  | frameId level => exact ⟨_, Attempt.run_bind_error (unknown _) _, .inl rfl⟩
  | base level =>
    exact ⟨_, Attempt.run_bind_error (Attempt.run_bind_error (unknown _) _) _, .inl rfl⟩
  | register level number => exact ⟨_, Attempt.run_bind_error (unknown _) _, .inl rfl⟩
  | address level number =>
    exact ⟨_, Attempt.run_bind_error (Attempt.run_bind_error (unknown _) _) _, .inl rfl⟩
  -- The size of the register is looked up before the frame.
  | callerRegister level number =>
    rw [perform, callerRegister, unwindFrom]
    cases walker.registers.size number with
    | error cause => exact ⟨.register cause, rfl, .inr ⟨cause, rfl⟩⟩
    | ok size =>
      exact ⟨_, Attempt.run_bind_error (Attempt.run_bind_error (unknown _) _) _, .inl rfl⟩
  | caller level => exact ⟨_, Attempt.run_bind_error (unknown _) _, .inl rfl⟩
  -- A backtrace is about the innermost frame, which is always known.
  | backtrace limit => exact absurd started (Nat.not_lt.2 beyond)
  | ask level query => exact ⟨_, unknown _, .inl rfl⟩

theorem refuses_perform (call : StackCall w ε) {before : CallStack w ε κ τ}
    (started : 0 < before.frames.size) (beyond : before.frames.size ≤ call.level) :
    Refuses (walker.perform call) before :=
  (run_perform_beyond call started beyond).imp fun _ refused => refused.1

theorem start_eq_ok {memory : τ} {bytes : Bytes} {pc : BitVec w}
    (read : walker.registers.read walker.architecture.programCounter = .ok bytes)
    (address : Address.ofBytes? bytes = some pc) :
    walker.start memory = .ok ⟨#[{ pc }], 0, memory⟩ := by
  have found : (addressOf bytes : Except (Error ε) _) = .ok pc := by
    unfold addressOf
    rw [address]
    rfl
  rw [start, read]
  change addressOf bytes >>= _ = _
  rw [found]
  rfl

theorem sound_start {snapshot : Snapshot w ε} {memory : τ} (start : held memory)
    {stack : CallStack w ε κ τ} (started : walker.start memory = .ok stack) :
    stack.Sound (walker.scene snapshot) held := by
  obtain ⟨bytes, read, rest⟩ := bind_eq_ok.1 started
  obtain ⟨pc, address, same⟩ := bind_eq_ok.1 rest
  have seen : (walker.scene snapshot).view 0 = .ok ((walker.scene snapshot).innermostView pc) := by
    change (walker.registers.read walker.architecture.programCounter).mapError Error.register >>=
      _ = _
    rw [read, ok_bind, address]
    rfl
  cases same
  refine ⟨.single pc _ _, start, fun level inside => ?_⟩
  cases Nat.lt_one_iff.1 inside
  exact ⟨_, rfl, _, seen, rfl, nofun, .inl rfl, nofun, nofun⟩

theorem sound_perform (explores : walker.Explores scene held) (call : StackCall w ε)
    {before : CallStack w ε κ τ} (sound : before.Sound scene held) :
    (Attempt.run (walker.perform call) before).2.Sound scene held ∧
      before.frames.size ≤ (Attempt.run (walker.perform call) before).2.frames.size := by
  rcases Nat.lt_or_ge call.level before.frames.size with inside | beyond
  · obtain ⟨after, run, sound', size⟩ := reports_perform explores call sound inside
    rw [run]
    exact ⟨sound', size⟩
  · have refuses : Refuses (walker.perform call) before :=
      refuses_perform call sound.started beyond
    obtain ⟨error, run⟩ := refuses
    rw [run]
    exact ⟨sound, Nat.le_refl _⟩

theorem after_append (walker : Walker w ε κ τ) (history later : List (StackCall w ε))
    (stack : CallStack w ε κ τ) :
    walker.after (history ++ later) stack = walker.after later (walker.after history stack) :=
  List.foldl_append

theorem sound_after (explores : walker.Explores scene held) (history : List (StackCall w ε))
    {stack : CallStack w ε κ τ} (sound : stack.Sound scene held) :
    (walker.after history stack).Sound scene held := by
  -- Soundness is the invariant. A question that is refused changes nothing.
  induction history generalizing stack with
  | nil => exact sound
  | cons call history ih => exact ih (sound_perform explores call sound).1

theorem size_le_after (explores : walker.Explores scene held) (history : List (StackCall w ε))
    {stack : CallStack w ε κ τ} (sound : stack.Sound scene held) :
    stack.frames.size ≤ (walker.after history stack).frames.size := by
  induction history generalizing stack with
  | nil => exact Nat.le_refl _
  | cons call history ih =>
    obtain ⟨sound', size⟩ := sound_perform explores call sound
    exact Nat.le_trans size (ih sound')

/-- Once a caller has been found, it stays known. -/
theorem lt_size_after_caller (explores : walker.Explores scene held) {level outer : Nat}
    (called : scene.caller level = .ok (.level outer)) (history : List (StackCall w ε))
    {stack : CallStack w ε κ τ} (sound : stack.Sound scene held)
    (inside : level < stack.frames.size) :
    outer < (walker.after (.caller level :: history) stack).frames.size := by
  obtain ⟨after, run, _, _, known⟩ := run_caller explores sound inside
  rw [called] at run
  have performed : Attempt.run (walker.perform (.caller level)) stack =
      (.ok (.caller (.level outer)), after) := Attempt.run_bind_ok run _
  have grown := size_le_after explores history (sound_perform explores (.caller level) sound).1
  rw [performed] at grown
  change outer < (walker.after history
    (Attempt.run (walker.perform (.caller level)) stack).2).frames.size
  rw [performed]
  exact Nat.lt_of_lt_of_le (known outer called) grown

section Started

variable {snapshot : Snapshot w ε} (shows : walker.target.Shows snapshot held) {memory : τ}
  (start : held memory) {stack : CallStack w ε κ τ} (started : walker.start memory = .ok stack)
include shows start started

theorem run_backtrace (limit : Nat) :
    (Attempt.run (walker.backtrace limit) stack).1 = (walker.scene snapshot).backtrace limit := by
  have sound : stack.Sound (walker.scene snapshot) held := sound_start start started
  obtain ⟨after, run, _⟩ := reports_backtraceFrom ⟨rfl, shows⟩ limit sound sound.started
  rw [backtrace, run]
  rfl

theorem run_registerAt_after (history : List (StackCall w ε)) {level : Nat}
    (inside : level < (walker.after history stack).frames.size) (number : Nat) :
    (Attempt.run (walker.registerAt level number) (walker.after history stack)).1 =
      (walker.scene snapshot).view level >>= (·.register number) := by
  have explores : walker.Explores (walker.scene snapshot) held := ⟨rfl, shows⟩
  have sound : (walker.after history stack).Sound (walker.scene snapshot) held :=
    sound_after explores history (sound_start start started)
  obtain ⟨view, seen⟩ := sound.view inside
  obtain ⟨after, run, _⟩ := (answers_registerAt explores seen number).reports sound inside
  rw [run, seen, ok_bind]

end Started

/-- In front of a program that stays as it is, every question about a known frame is answered as a
survey answers it that keeps nothing, whatever has been asked before, at whatever level, and
whatever of that has failed. -/
theorem perform_after_eq_reply {snapshot : Snapshot w ε}
    (shows : walker.target.Shows snapshot held) {memory : τ} (start : held memory)
    {stack : CallStack w ε κ τ} (started : walker.start memory = .ok stack)
    (history : List (StackCall w ε)) (call : StackCall w ε)
    (inside : call.level < (walker.after history stack).frames.size) :
    (Attempt.run (walker.perform call) (walker.after history stack)).1 =
      (walker.scene snapshot).reply call := by
  have explores : walker.Explores (walker.scene snapshot) held := ⟨rfl, shows⟩
  have sound : (walker.after history stack).Sound (walker.scene snapshot) held :=
    sound_after explores history (sound_start start started)
  obtain ⟨after, run, _⟩ := reports_perform explores call sound inside
  rw [run]

/-- A thread that stands in code without symbols, on a stack that holds one return address. -/
def strayThread : Walker 64 Empty Amd64.FrameCache (Memory 64 Empty) where
  architecture := Amd64.architecture
  target := Memory.target 64 Empty
  registers := ((RegisterCache.empty Amd64.registerFile).store Amd64.rip 0
    (LittleEndian.digits 8 0x2000) .valid).store Amd64.rsp 0 (LittleEndian.digits 8 0x1000) .valid
  unwinders := Amd64.Linux.platform.unwinders Empty

def strayStack : Memory 64 Empty := Memory.poke {} 0x1000 (LittleEndian.digits 8 0x3000)

theorem start_strayThread :
    strayThread.start strayStack = .ok ⟨#[{ pc := 0x2000 }], 0, strayStack⟩ := by
  have valid : strayThread.registers.statuses[Amd64.rip]? = some .valid := by decide +kernel
  have pc : strayThread.registers.bytes Amd64.rip = LittleEndian.digits 8 0x2000 := by
    decide +kernel
  exact start_eq_ok (RegisterCache.read_of_valid valid pc) rfl

/-- The second question fails for want of memory, and the third one for want of a frame. -/
def strayHistory : List (StackCall 64 Empty) :=
  [.backtrace 1, .caller 1, .register 5 Amd64.rax, .base 0, .caller 0, .caller 1]

theorem perform_after_strayHistory :
    (strayThread.after strayHistory ⟨#[{ pc := 0x2000 }], 0, strayStack⟩).frames.size = 2 ∧
      (Attempt.run (strayThread.perform (.frameId 1))
        (strayThread.after strayHistory ⟨#[{ pc := 0x2000 }], 0, strayStack⟩)).1 =
        (strayThread.scene strayStack.snapshot).reply (.frameId 1) := by
  have size : (strayThread.after strayHistory
      ⟨#[{ pc := 0x2000 }], 0, strayStack⟩).frames.size = 2 := by decide +kernel
  have shows : strayThread.target.Shows strayStack.snapshot (· = strayStack) :=
    strayStack.shows_snapshot
  refine ⟨size, perform_after_eq_reply shows rfl start_strayThread strayHistory _ ?_⟩
  rw [size]
  exact Nat.one_lt_two

end Walker

end Inferior

import Inferior.Proofs.History

/-! Backtraces of different limits over the same frames. The smaller limit cuts off what the larger
one gives, and changes nothing else: neither the frames in front nor, if it is not reached, the reason
for which the walk ends.
-/

set_option autoImplicit false

namespace Inferior

variable {w : Nat} {ε κ τ : Type}

/-- Whether the walk ends at a frame for what has been found out about the frame, and not for a limit
or a failure. -/
def UnwindStop.endsStack : UnwindStop → Bool
  | .outermost | .insideCallee | .sameAsCallee | .repeatedPc | .zeroPc => true
  | .noUnwinder | .limit | .error => false

namespace Backtrace

def cut (limit : Nat) (found : Backtrace w ε) : Backtrace w ε :=
  if limit < found.frames.length then ⟨found.frames.take limit, .limit, none⟩ else found

theorem frames_cut (limit : Nat) (found : Backtrace w ε) :
    (found.cut limit).frames = found.frames.take limit := by
  unfold cut
  split
  · rfl
  · rw [List.take_of_length_le (by omega)]

theorem cut_zero_push (entry : BacktraceEntry w) (found : Backtrace w ε) :
    (found.push entry).cut 0 = .stopped .limit := by
  simp [cut, push, stopped]

theorem cut_push (limit : Nat) (entry : BacktraceEntry w) (found : Backtrace w ε) :
    (found.push entry).cut (limit + 1) = (found.cut limit).push entry := by
  simp only [cut, push, List.length_cons, Nat.add_lt_add_iff_right]
  split <;> rfl

/-- The end of a walk that the limit had no part in. -/
structure Final (found : Backtrace w ε) : Prop where
  frames : found.frames = []
  unlimited : found.stop ≠ .limit
  failed : found.error.isSome ↔ found.stop = .error ∨ found.stop = .noUnwinder

theorem final_failed (error : Error ε) : (failed error : Backtrace w ε).Final where
  frames := rfl
  unlimited := by cases error <;> simp [failed]
  failed := by cases error <;> simp [failed]

theorem final_stopped {reason : UnwindStop} (ends : reason.endsStack) :
    (stopped reason : Backtrace w ε).Final where
  frames := rfl
  unlimited := by
    rintro rfl
    cases ends
  failed := by cases reason <;> simp [stopped, UnwindStop.endsStack] at ends ⊢

theorem Final.cut {found : Backtrace w ε} (final : found.Final) (limit : Nat) :
    found.cut limit = found := by
  simp [Backtrace.cut, final.frames]

/-- The frames of a backtrace from a level on are counted from there without a gap, there are as many
as the limit allows if that is what ended it, and it tells of a failure if one did. -/
structure Ordered (found : Backtrace w ε) (level limit : Nat) : Prop where
  levels : found.frames.map BacktraceEntry.level = List.range' level found.frames.length
  within : found.frames.length ≤ limit
  limited : found.stop = .limit → found.frames.length = limit
  failed : found.error.isSome ↔ found.stop = .error ∨ found.stop = .noUnwinder

theorem ordered_limit (level : Nat) : (Backtrace.stopped .limit : Backtrace w ε).Ordered level 0 where
  levels := rfl
  within := Nat.le_refl 0
  limited _ := rfl
  failed := by simp [stopped]

theorem Ordered.push {found : Backtrace w ε} {entry : BacktraceEntry w} {limit : Nat}
    (ordered : found.Ordered (entry.level + 1) limit) :
    (found.push entry).Ordered entry.level (limit + 1) where
  levels := by
    simp only [Backtrace.push, List.map_cons, ordered.levels, List.length_cons, List.range'_succ]
  within := Nat.succ_le_succ ordered.within
  limited stop := congrArg Nat.succ (ordered.limited stop)
  failed := ordered.failed

/-- A walk that ends at a frame lists that frame. -/
theorem Final.ordered_push {found : Backtrace w ε} (final : found.Final) (entry : BacktraceEntry w)
    (limit : Nat) : (found.push entry).Ordered entry.level (limit + 1) where
  levels := by simp [Backtrace.push, final.frames]
  within := by simp [Backtrace.push, final.frames]
  limited stop := absurd stop final.unlimited
  failed := final.failed

end Backtrace

namespace Scene

variable {scene : Scene w ε κ} {level : Nat}

theorem endsStack_of_repeatsSavedPc {kind : FrameKind} {reason : UnwindStop}
    (stop : (do
      if ← scene.repeatsSavedPc kind level then return some .repeatedPc
      return none) = Except.ok (ε := Error ε) (some reason)) : reason.endsStack := by
  obtain ⟨repeats, -, stop⟩ := bind_eq_ok.1 stop
  cases repeats with
  | true =>
    cases stop
    rfl
  | false => cases stop

theorem endsStack_of_misplaced? {frameId : FrameId w} {reason : UnwindStop}
    (stop : scene.misplaced? frameId level = .ok (some reason)) : reason.endsStack := by
  obtain ⟨view, -, stop⟩ := bind_eq_ok.1 stop
  obtain ⟨kind, -, stop⟩ := bind_eq_ok.1 stop
  obtain ⟨_, -, stop⟩ := bind_eq_ok.1 stop
  obtain ⟨innerId?, -, stop⟩ := bind_eq_ok.1 stop
  cases innerId? with
  | none => exact endsStack_of_repeatsSavedPc stop
  | some innerId =>
    dsimp only at stop
    split at stop
    · cases stop
      rfl
    · split at stop
      · cases stop
        rfl
      · exact endsStack_of_repeatsSavedPc stop

theorem endsStack_of_stopAt? {reason : UnwindStop}
    (stop : scene.stopAt? level = .ok (some reason)) : reason.endsStack := by
  obtain ⟨view, -, stop⟩ := bind_eq_ok.1 stop
  split at stop
  · cases stop
    rfl
  obtain ⟨frameId?, -, stop⟩ := bind_eq_ok.1 stop
  cases frameId? with
  | none =>
    cases stop
    rfl
  | some frameId =>
    cases level with
    | zero => cases stop
    | succ level => exact endsStack_of_misplaced? stop

/-- A frame without a caller has none for what has been found out about it. -/
theorem endsStack_of_caller {reason : UnwindStop}
    (called : scene.caller level = .ok (.stop reason)) : reason.endsStack := by
  cases stop : scene.stopAt? level with
  | error error => simp [caller_of_error stop] at called
  | ok stop? =>
    cases stop? with
    | some reason' =>
      rw [caller_of_stop stop] at called
      cases called
      exact endsStack_of_stopAt? stop
    | none =>
      rw [caller_of_no_stop stop] at called
      obtain ⟨_, -, same⟩ := bind_eq_ok.1 called
      cases same

/-- A backtrace either goes on with the caller of its first frame or ends there. -/
theorem backtraceFrom_step {view : View w ε} (seen : scene.view level = .ok view) :
    (∃ view', scene.view (level + 1) = .ok view' ∧ ∀ limit,
        scene.backtraceFrom level (limit + 1) =
          (scene.backtraceFrom (level + 1) limit >>= fun rest => .ok (rest.push (scene.entry view)))) ∨
      ∃ ending : Backtrace w ε, ending.Final ∧ ∀ limit,
        scene.backtraceFrom level (limit + 1) = .ok (ending.push (scene.entry view)) := by
  -- A failure ends the backtrace at this frame just as a reason to stop does.
  cases called : scene.caller level with
  | error error =>
    refine .inr ⟨.failed error, Backtrace.final_failed error, fun limit => ?_⟩
    simp only [backtraceFrom, seen, ok_bind, called]
    rfl
  | ok caller =>
    cases caller with
    | stop reason =>
      refine .inr ⟨.stopped reason, Backtrace.final_stopped (endsStack_of_caller called),
        fun limit => ?_⟩
      simp only [backtraceFrom, seen, ok_bind, called]
      rfl
    | level outer =>
      obtain ⟨rfl, view', seen'⟩ := view_of_caller called
      refine .inl ⟨view', seen', fun limit => ?_⟩
      simp only [backtraceFrom, seen, ok_bind, called]
      rfl

/-- Of two limits, the smaller one gives what the larger one gives, cut off. -/
theorem backtraceFrom_cut {view : View w ε} (seen : scene.view level = .ok view) {limit larger : Nat}
    (le : limit ≤ larger) :
    ∃ found, scene.backtraceFrom level larger = .ok found ∧
      scene.backtraceFrom level limit = .ok (found.cut limit) ∧ found.Ordered level larger := by
  -- By induction on the larger limit. Both walks look at the same frame and do the same there.
  induction larger generalizing level limit view with
  | zero =>
    cases Nat.le_zero.1 le
    exact ⟨.stopped .limit, rfl, rfl, Backtrace.ordered_limit level⟩
  | succ larger ih =>
    have here : (scene.entry view).level = level := level_of_view seen
    rcases backtraceFrom_step seen with ⟨view', seen', goesOn⟩ | ⟨ending, final, ends⟩
    · obtain ⟨rest, traced, traced', ordered⟩ := ih seen' (Nat.sub_le_of_le_add le)
      refine ⟨rest.push (scene.entry view), ?_, ?_, ?_⟩
      · rw [goesOn, traced, ok_bind]
      · cases limit with
        | zero =>
          rw [Backtrace.cut_zero_push]
          rfl
        | succ limit =>
          rw [Nat.add_sub_cancel] at traced'
          rw [goesOn, traced', ok_bind, Backtrace.cut_push]
      · rw [← here] at ordered ⊢
        exact ordered.push
    · refine ⟨ending.push (scene.entry view), ends larger, ?_, ?_⟩
      · cases limit with
        | zero =>
          rw [Backtrace.cut_zero_push]
          rfl
        | succ limit => rw [ends, Backtrace.cut_push, final.cut]
      · have ordered := final.ordered_push (scene.entry view) larger
        rwa [here] at ordered

theorem backtrace_cut {view : View w ε} (seen : scene.view 0 = .ok view) {limit larger : Nat}
    (le : limit ≤ larger) :
    ∃ found, scene.backtrace larger = .ok found ∧ scene.backtrace limit = .ok (found.cut limit) ∧
      found.Ordered 0 larger :=
  backtraceFrom_cut seen le

end Scene

namespace Walker

variable {walker : Walker w ε κ τ} {snapshot : Snapshot w ε} {held : τ → Prop}

theorem run_backtrace_after (shows : walker.target.Shows snapshot held) {memory : τ}
    (start : held memory) {stack : CallStack w ε κ τ} (started : walker.start memory = .ok stack)
    (history : List (StackCall w ε)) (limit : Nat) :
    (Attempt.run (walker.backtrace limit) (walker.after history stack)).1 =
      (walker.scene snapshot).backtrace limit := by
  have explores : walker.Explores (walker.scene snapshot) held := ⟨rfl, shows⟩
  have sound : (walker.after history stack).Sound (walker.scene snapshot) held :=
    sound_after explores history (sound_start start started)
  obtain ⟨after, run, _⟩ := reports_backtraceFrom explores limit sound sound.started
  rw [backtrace, run]
  rfl

/-- In front of a program that stays as it is, backtraces of two limits agree as far as the smaller
limit reaches, on one call stack or on two, whatever has been asked of them before. Of the larger one,
the smaller one has the first frames; it stops at its limit if there are more, and else for the same
reason. -/
theorem backtraces_agree (shows : walker.target.Shows snapshot held)
    {memory memory' : τ} (start : held memory) (start' : held memory')
    {stack stack' : CallStack w ε κ τ} (started : walker.start memory = .ok stack)
    (started' : walker.start memory' = .ok stack') (history history' : List (StackCall w ε))
    {limit larger : Nat} (le : limit ≤ larger) :
    ∃ small large,
      (Attempt.run (walker.backtrace limit) (walker.after history stack)).1 = .ok small ∧
      (Attempt.run (walker.backtrace larger) (walker.after history' stack')).1 = .ok large ∧
      small.frames.length = min limit large.frames.length ∧
      small.frames = large.frames.take limit ∧
      (limit < large.frames.length → small.stop = .limit ∧ small.error = none) ∧
      (large.frames.length ≤ limit → small.stop = large.stop ∧ small.error = large.error) ∧
      small.Ordered 0 limit ∧ large.Ordered 0 larger := by
  rw [run_backtrace_after shows start started, run_backtrace_after shows start' started']
  have sound : stack.Sound (walker.scene snapshot) held := sound_start start started
  obtain ⟨view, seen⟩ := sound.view sound.started
  obtain ⟨large, traced, traced', ordered⟩ := Scene.backtrace_cut seen le
  obtain ⟨small, same, -, ordered'⟩ := Scene.backtrace_cut seen (Nat.le_refl limit)
  cases same.symm.trans traced'
  refine ⟨_, large, traced', traced, ?_, large.frames_cut limit, ?_, ?_, ordered', ordered⟩
  · rw [Backtrace.frames_cut, List.length_take]
  · intro more
    simp [Backtrace.cut, more]
  · intro all
    simp [Backtrace.cut, Nat.not_lt.2 all]

/-- The larger backtrace is taken on a call stack that has been asked for callers before, the smaller
one afresh. -/
theorem backtraces_agree_strayThread :
    ∃ small large,
      (Attempt.run (strayThread.backtrace 1) ⟨#[{ pc := 0x2000 }], 0, strayStack⟩).1 = .ok small ∧
      (Attempt.run (strayThread.backtrace 4)
        (strayThread.after strayHistory ⟨#[{ pc := 0x2000 }], 0, strayStack⟩)).1 = .ok large ∧
      small.frames = large.frames.take 1 ∧ small.stop = .limit ∧ small.error = none ∧
      large.frames.length = 2 ∧ large.Ordered 0 4 := by
  have shows : strayThread.target.Shows strayStack.snapshot (· = strayStack) :=
    strayStack.shows_snapshot
  have le : 1 ≤ 4 := by decide
  obtain ⟨small, large, traced, traced', -, same, limited, -, -, ordered⟩ :=
    backtraces_agree shows rfl rfl start_strayThread start_strayThread [] strayHistory le
  have listed : ((Attempt.run (strayThread.backtrace 4) (strayThread.after strayHistory
      ⟨#[{ pc := 0x2000 }], 0, strayStack⟩)).1.toOption.map fun found => found.frames.length) =
        some 2 := by
    decide +kernel
  rw [traced'] at listed
  have two : large.frames.length = 2 := Option.some.inj listed
  obtain ⟨stop, error⟩ := limited (by omega)
  exact ⟨small, large, traced, traced', same, stop, error, two, ordered⟩

end Walker

end Inferior

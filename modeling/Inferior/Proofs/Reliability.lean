import Inferior.Proofs.Integrity

/-! What the users of a call stack can rely on, however often memory cannot be read.

With the unwinders of a platform, a question fails for an access that fails, or since it is about a
frame that has not been found yet, and for nothing else. Between two questions no cache is on its way,
and each one that is there has been computed once and stays.
-/

set_option autoImplicit false

namespace Inferior

variable {w : Nat} {ε κ τ α : Type}

namespace CallStack

/-- The frames are chained one to the next, and what is on record adds up. -/
structure Chained (stack : CallStack w ε κ τ) : Prop where
  called {level : Nat} {frame : KnownFrame w ε κ} (found : stack.frames[level]? = some frame)
    (inside : level + 1 < stack.frames.size) : frame.caller = some (.level (level + 1))
  last {level : Nat} {frame : KnownFrame w ε κ} (found : stack.frames[level]? = some frame)
    (last : level + 1 = stack.frames.size) :
    frame.caller = none ∨ ∃ reason, frame.caller = some (.stop reason)
  idle {level : Nat} {frame : KnownFrame w ε κ} (found : stack.frames[level]? = some frame) :
    frame.cache ≠ .computing
  counted : stack.computations = stack.readyCaches
  bounded : stack.computations ≤ stack.frames.size

theorem Intact.chained {stack : CallStack w ε κ τ} {walker : Walker w ε κ τ}
    (intact : stack.Intact walker) : stack.Chained where
  called := intact.called
  last {level frame} found last := by
    cases called : frame.caller with
    | none => exact .inl rfl
    | some caller =>
      cases caller with
      | stop reason => exact .inr ⟨reason, rfl⟩
      | level outer =>
        have further := intact.last found called
        omega
  idle {level frame} found := by
    obtain ⟨_, found', settled⟩ := intact.settled level (Array.getElem?_eq_some_iff.1 found).1
    cases found.symm.trans found'
    exact settled.idle
  counted := intact.counted
  bounded := Nat.le_trans (Nat.le_of_eq intact.counted) Array.countP_le_size

end CallStack

inductive FrameQuery.Basic : {α : Type} → FrameQuery w ε α → Prop where
  | innerKind : FrameQuery.Basic .askInnerKind
  | addressInBlock (pc : BitVec w) : FrameQuery.Basic (.askAddressInBlock pc)
  | functionEntry (pc : BitVec w) : FrameQuery.Basic (.askFunctionEntry pc)
  | register (number : Nat) : FrameQuery.Basic (.askRegister number)
  | address (number : Nat) : FrameQuery.Basic (.askAddress number)
  | memory (address : BitVec w) (length : Nat) : FrameQuery.Basic (.askMemory address length)

theorem FrameQuery.Basic.relays {query : FrameQuery w ε α} (basic : query.Basic)
    (allowed : Error ε → Prop) : query.Relays allowed := by
  cases basic with
  | innerKind => exact relays_askInnerKind
  | addressInBlock pc => exact relays_askAddressInBlock pc
  | functionEntry pc => exact relays_askFunctionEntry pc
  | register number => exact relays_askRegister number
  | address number => exact relays_askAddress number
  | memory address length => exact relays_askMemory address length

namespace Walker

/-- What can be relied on between two questions to a call stack. -/
structure Reliable (walker : Walker w ε κ τ) (stack : CallStack w ε κ τ) : Prop where
  chained : stack.Chained
  /-- A cache that is there stays as it is. -/
  lasting (later : List (StackCall w ε)) {level : Nat} {frame : KnownFrame w ε κ} {cache : κ}
    (found : stack.frames[level]? = some frame) (ready : frame.cache = .ready cache) :
    ∃ frame', (walker.after later stack).frames[level]? = some frame' ∧ frame'.cache = .ready cache
  call {call : StackCall w ε} {error : Error ε} {after : CallStack w ε κ τ}
    (named : ∀ level query, call ≠ .ask level query)
    (run : Attempt.run (walker.perform call) stack = (.error error, after)) :
    error.IsAccess ∨
      error = .internal "frame level out of range" ∧ stack.frames.size ≤ call.level
  ask {α : Type} {query : FrameQuery w ε α} {level : Nat} {error : Error ε}
    {after : CallStack w ε κ τ} (basic : query.Basic) (inside : level < stack.frames.size)
    (run : Attempt.run (walker.ask level query) stack = (.error error, after)) : error.IsAccess
  /-- A backtrace always comes about, and a failure in it is one of an access. -/
  backtrace (limit : Nat) : ∃ found after,
    Attempt.run (walker.backtrace limit) stack = (.ok found, after) ∧
      ∀ error, found.error = some error → error.IsAccess

end Walker

theorem CallStack.Intact.reliable {walker : Walker w ε κ τ}
    (tolerates : walker.Tolerates Error.IsAccess) {stack : CallStack w ε κ τ}
    (intact : stack.Intact walker) : walker.Reliable stack where
  chained := intact.chained
  lasting later {level frame cache} found ready := by
    obtain ⟨frame', found', keeps⟩ := (Walker.intact_after later intact).2 level frame found
    exact ⟨frame', found', keeps.cache ready⟩
  call {call error after} named run := by
    have answered : walker.Maintains _ (walker.perform call) stack _ :=
      Walker.maintains_any tolerates intact fun level query same => absurd same (named level query)
    obtain ⟨result, _, run', -, -, fails, -⟩ := answered
    cases run.symm.trans run'
    exact fails error rfl
  ask {α query level error after} basic inside run := by
    obtain ⟨result, _, run', -, -, fails, -⟩ :=
      Walker.learns_ask tolerates (intact.settled.mono inside) (basic.relays _)
    cases run.symm.trans run'
    exact fails error rfl
  backtrace limit := by
    obtain ⟨result, after, run, -, -, fails, holds⟩ :=
      Walker.maintains_backtraceFrom tolerates intact limit intact.started
    cases result with
    | error error => exact absurd rfl (fails error)
    | ok found => exact ⟨found, after, run, (holds found rfl).1⟩

namespace Amd64

/-- Whatever a program does to its memory, with the unwinders of a platform a call stack can be
relied on, from its start on and after any questions. -/
theorem Platform.reliable_after (platform : Platform) (target : Target 64 ε τ)
    (registers : RegisterCache registerFile) (memory : τ) :
    FailsOnly Error.IsAccess ((platform.walker target registers).start memory) ∧
      ∀ first, (platform.walker target registers).start memory = .ok first →
        ∀ history : List (StackCall 64 ε), (platform.walker target registers).Reliable
          ((platform.walker target registers).after history first) := by
  have tolerates := platform.tolerates target registers
  refine ⟨Walker.failsOnly_start tolerates memory, fun first started history => ?_⟩
  exact (Walker.intact_after history (Walker.intact_start started)).1.reliable tolerates

/-- A thread in code without symbols stays reliable after questions of which two fail. -/
theorem reliable_strayHistory :
    Walker.strayThread.start Walker.strayStack =
        .ok ⟨#[{ pc := 0x2000 }], 0, Walker.strayStack⟩ ∧
      Walker.strayThread.Reliable (Walker.strayThread.after Walker.strayHistory
        ⟨#[{ pc := 0x2000 }], 0, Walker.strayStack⟩) :=
  ⟨Walker.start_strayThread, (Linux.platform.reliable_after Walker.strayThread.target
    Walker.strayThread.registers Walker.strayStack).2 _ Walker.start_strayThread
      Walker.strayHistory⟩

end Amd64

end Inferior

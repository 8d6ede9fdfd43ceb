import Inferior.Proofs.Integrity
import Inferior.Proofs.StandardStack

/-! The order in which frames lie on the stack.

A frame gets a caller only after it has been found to lie further out than the next inner one. A signal
handler may run on a stack of its own, so only the frame that a trampoline interrupted may lie anywhere.
-/

set_option autoImplicit false

namespace Inferior

variable {w : Nat} {ε κ τ : Type}

namespace CallStack

def LiesInside (stack : CallStack w ε κ τ) (architecture : Architecture w) (inner outer : Nat) : Prop :=
  ∃ innerId outerId, stack.KnowsId inner (some innerId) ∧ stack.KnowsId outer (some outerId) ∧
    innerId.stack ≠ outerId.stack ∧ architecture.innerThan innerId.stack outerId.stack

variable {stack : CallStack w ε κ τ} {architecture : Architecture w}

theorem LiesInside.trans (orders : architecture.OrdersFrames) {first second third : Nat}
    (one : stack.LiesInside architecture first second)
    (two : stack.LiesInside architecture second third) :
    stack.LiesInside architecture first third := by
  obtain ⟨firstId, secondId, knows₁, knows₂, -, inside⟩ := one
  obtain ⟨secondId', thirdId, knows₂', knows₃, -, inside'⟩ := two
  cases knows₂.unique knows₂'
  have further := orders.trans inside inside'
  refine ⟨firstId, thirdId, knows₁, knows₃, fun same => ?_, further⟩
  rw [same, orders.irrefl] at further
  cases further

/-- A frame that called another and does not lie inside it lies outside it. -/
theorem Outward.liesInside (orders : architecture.OrdersFrames) {level : Nat}
    (outward : stack.Outward architecture level)
    (handled : ¬stack.KnowsKind level .signalTrampoline) :
    stack.LiesInside architecture level (level + 1) := by
  obtain ⟨kind, innerId, frameId, knows, inner, outer, different, further⟩ := outward
  have normal : kind ≠ .signalTrampoline := by
    rintro rfl
    exact handled knows
  exact ⟨innerId, frameId, inner, outer, different.symm,
    orders.total different.symm (further normal)⟩

variable {walker : Walker w ε κ τ}

/-- Between two frames without a trampoline on the way, each one lies inside the next. -/
theorem Intact.liesInside (intact : stack.Intact walker)
    (orders : walker.architecture.OrdersFrames) {inner outer : Nat} (further : inner < outer)
    (inside : outer + 1 < stack.frames.size)
    (handled : ∀ level, inner ≤ level → level < outer → ¬stack.KnowsKind level .signalTrampoline) :
    stack.LiesInside walker.architecture inner outer := by
  induction outer with
  | zero => exact absurd further (Nat.not_lt_zero inner)
  | succ outer ih =>
    have step := (intact.outward inside).liesInside orders
      (handled outer (Nat.lt_succ_iff.1 further) (Nat.lt_succ_self outer))
    rcases Nat.lt_succ_iff_lt_or_eq.1 further with before | same
    · have reached := ih before (by omega) fun level above below =>
        handled level above (Nat.lt_succ_of_lt below)
      exact reached.trans orders step
    · exact same ▸ step

end CallStack

namespace Walker

/-- A frame with a caller lies further out than the next inner one, unless that is a trampoline's, and
so do the frames of a backtrace. -/
structure MovesOutward (walker : Walker w ε κ τ) (stack : CallStack w ε κ τ) : Prop where
  pair {level : Nat} {frame : KnownFrame w ε κ} (found : stack.frames[level + 1]? = some frame)
    (called : frame.caller = some (.level (level + 2))) :
    ∃ kind innerId outerId, stack.KnowsKind level kind ∧ stack.KnowsId level (some innerId) ∧
      stack.KnowsId (level + 1) (some outerId) ∧ innerId.stack ≠ outerId.stack ∧
      (kind ≠ .signalTrampoline → walker.architecture.innerThan innerId.stack outerId.stack)
  /-- The last frame of a backtrace is left out. -/
  run (limit : Nat) : ∃ found after,
    Attempt.run (walker.backtrace limit) stack = (.ok found, after) ∧ found.Recorded 0 after ∧
      ∀ inner outer, inner < outer → outer + 1 < found.frames.length →
        (∀ level, inner ≤ level → level < outer → ¬after.KnowsKind level .signalTrampoline) →
          after.LiesInside walker.architecture inner outer

/-- On an architecture that orders its frames, they move outwards, whatever has been asked before and
whatever memory has held. -/
theorem movesOutward_after {walker : Walker w ε κ τ} (orders : walker.architecture.OrdersFrames)
    {memory : τ} {first : CallStack w ε κ τ} (started : walker.start memory = .ok first)
    (history : List (StackCall w ε)) : walker.MovesOutward (walker.after history first) := by
  have intact := (intact_after history (intact_start started)).1
  refine ⟨fun {level frame} found called => ?_, fun limit => ?_⟩
  · obtain ⟨kind, innerId, outerId, knows, inner, outer, different, further⟩ :=
      intact.outward (intact.last found called).2
    exact ⟨kind, innerId, outerId, knows, inner, outer, different.symm,
      fun normal => orders.total different.symm (further normal)⟩
  · have all : ∀ error : Error ε, True := fun _ => trivial
    obtain ⟨result, after, run, intact', -, fails, holds⟩ :=
      maintains_backtraceFrom (tolerates_of_all walker all) intact limit intact.started
    cases result with
    | error error => exact absurd rfl (fails error)
    | ok found =>
      have recorded := (holds found rfl).2
      refine ⟨found, after, run, recorded, fun inner outer further listed handled => ?_⟩
      -- The entry after the outer frame shows that it has a caller.
      obtain ⟨same, next⟩ := recorded (outer + 1) _ (List.getElem?_eq_getElem listed)
      obtain ⟨frame, found', -⟩ := next.pc
      have inside := (Array.getElem?_eq_some_iff.1 found').1
      exact intact'.liesInside orders further (by omega) handled

end Walker

namespace Amd64

theorem movesOutward_threeCalls :
    ((Linux.platform.walker (Memory.target 64 Empty) threeCallsRegisters).after [.backtrace 5]
        ⟨#[{ pc := threeCalls.pc 0 }], 0, threeCallsMemory⟩).frames.size = 3 ∧
      (Linux.platform.walker (Memory.target 64 Empty) threeCallsRegisters).MovesOutward
        ((Linux.platform.walker (Memory.target 64 Empty) threeCallsRegisters).after [.backtrace 5]
          ⟨#[{ pc := threeCalls.pc 0 }], 0, threeCallsMemory⟩) := by
  have read : threeCallsRegisters.read rip = .ok (Address.toBytes (threeCalls.pc 0)) :=
    RegisterCache.read_of_valid (by decide +kernel) (by decide +kernel)
  have started : (Linux.platform.walker (Memory.target 64 Empty) threeCallsRegisters).start
      threeCallsMemory = .ok ⟨#[{ pc := threeCalls.pc 0 }], 0, threeCallsMemory⟩ :=
    Walker.start_eq_ok read (Address.ofBytes?_toBytes _)
  exact ⟨by decide +kernel, Walker.movesOutward_after architecture_ordersFrames started _⟩

end Amd64

end Inferior

import Inferior.Proofs.FunctionFrame
import Inferior.Proofs.History

/-! Stacks of functions that have all set up a frame pointer. Their backtraces are exact: there is
one entry for each function that was called, and the walk ends at the frame whose frame pointer is
zero.
-/

set_option autoImplicit false

namespace Inferior.Amd64

variable {ε τ : Type}

structure CallChain where
  last : Nat
  /-- The entry address of the function. -/
  entry : Nat → BitVec 64
  /-- Where the function was left. -/
  pc : Nat → BitVec 64
  /-- The frame pointer of the function. -/
  base : Nat → BitVec 64

/-- The stack of a thread, as the calls on it have left it. Each frame pointer points to that of the
caller, next to which the return address lies. -/
structure StandardStack (platform : Platform) (registers : RegisterCache registerFile)
    (snapshot : Snapshot 64 ε) (chain : CallChain) : Prop where
  pcRegister : registers.read rip = .ok (Address.toBytes (chain.pc 0))
  pointerRegister : registers.read rbp = .ok (Address.toBytes (chain.base 0))
  known {level : Nat} (inside : level ≤ chain.last) : chain.entry level ≠ 0
  prologue {level : Nat} (inside : level ≤ chain.last) :
    snapshot.Holds (chain.entry level) Prologue.wholeCode
  past {level : Nat} (inside : level ≤ chain.last) :
    (chain.entry level).toNat + 4 ≤ (chain.pc level).toNat
  declined {level : Nat} (inside : level ≤ chain.last) (view : View 64 ε) :
    snapshot.answer view (platform.config.signals.claims (chain.pc level)) = .ok false
  innermost : snapshot.functionEntry (chain.pc 0) = some (chain.entry 0)
  /-- A return address may lie just past the end of its function. -/
  outer {level : Nat} (inside : level < chain.last) :
    snapshot.functionEntry (chain.pc (level + 1) - 1) = some (chain.entry (level + 1))
  returns {level : Nat} (inside : level < chain.last) : chain.pc (level + 1) ≠ 0
  pointer {level : Nat} (inside : level < chain.last) : chain.base level ≠ 0
  outermost : chain.base chain.last = 0
  rising {level : Nat} (inside : level + 1 < chain.last) : chain.base level < chain.base (level + 1)
  room {level : Nat} (inside : level < chain.last) :
    BitVec.uaddOverflow (chain.base level) 16 = false
  savedPointer {level : Nat} (inside : level < chain.last) :
    snapshot.Holds (chain.base level) (Address.toBytes (chain.base (level + 1)))
  savedPc {level : Nat} (inside : level < chain.last) :
    snapshot.Holds (chain.base level + 8) (Address.toBytes (chain.pc (level + 1)))

/-- The last frame is the only one without an id. -/
def CallChain.frameId (chain : CallChain) (level : Nat) : Option (FrameId 64) :=
  if level = chain.last then none else some ⟨chain.base level + 16, chain.entry level⟩

def CallChain.backtraceEntry (chain : CallChain) (level : Nat) : BacktraceEntry 64 where
  level := level
  pc := chain.pc level
  kind := some .normal
  frameId := chain.frameId level

namespace StandardStack

variable {platform : Platform} {registers : RegisterCache registerFile} {snapshot : Snapshot 64 ε}
  {chain : CallChain} (stack : StandardStack platform registers snapshot chain)
include stack

theorem view {level : Nat} (inside : level ≤ chain.last) :
    ∃ view, (platform.scene registers snapshot).view level = .ok view ∧
      view.pc = chain.pc level ∧
      FunctionFrame (platform.scene registers snapshot) view (chain.base level)
        (chain.entry level) := by
  -- From inside out: a frame that is seen as the calls have left it recovers the pc and the
  -- frame pointer of its caller, and these make the caller seen so.
  induction level with
  | zero =>
    exact ⟨_, view_zero stack.pcRegister, rfl, functionFrame_innermost stack.pointerRegister
      (stack.declined inside) stack.innermost (stack.known inside) (stack.prologue inside)
      (stack.past inside)⟩
  | succ level ih =>
    have inside' : level < chain.last := inside
    obtain ⟨inner, seen, samePc, frame⟩ := ih (Nat.le_of_succ_le inside)
    have pc := frame.callerPc (stack.savedPc inside')
    refine ⟨_, Scene.view_succ_eq_ok.2 ⟨inner, _, seen, pc, rfl⟩, rfl,
      unwinder_of_declined (stack.declined inside _),
      frame.callerRegister_rbp (stack.savedPointer inside'), ?_, stack.known inside,
      stack.prologue inside, stack.past inside⟩
    have innerKind : ((platform.scene registers snapshot).callerView inner
        (chain.pc (level + 1))).innerKind = .ok (some .normal) := by
      change (platform.scene registers snapshot).unwinder inner >>= _ = _
      rw [frame.claimed]
      rfl
    refine (Snapshot.answer_askFunctionEntry innerKind _).trans ?_
    exact congrArg Except.ok (stack.outer inside')

theorem frameId {level : Nat} (inside : level ≤ chain.last) {view : View 64 ε}
    (seen : (platform.scene registers snapshot).view level = .ok view) :
    (platform.scene registers snapshot).frameId view = .ok (chain.frameId level) := by
  obtain ⟨view', seen', _, frame⟩ := stack.view inside
  cases seen.symm.trans seen'
  unfold CallChain.frameId
  by_cases last : level = chain.last
  · rw [if_pos last]
    exact frame.frameId_zero (last ▸ stack.outermost)
  · rw [if_neg last]
    exact frame.frameId (stack.pointer (Nat.lt_of_le_of_ne inside last))

theorem callerLocation {level : Nat} (inside : level < chain.last) :
    (platform.scene registers snapshot).callerLocation level rip =
      .ok (.memory (chain.base level + 8)) := by
  obtain ⟨view, seen, _, frame⟩ := stack.view (Nat.le_of_lt inside)
  exact Scene.callerLocation_of_memory seen frame.cache FrameCache.previousRegister_rip

/-- The pc of a caller is found in another place than that of the frame which it called. -/
theorem repeatsSavedPc {level : Nat} (inside : level + 1 < chain.last) :
    (platform.scene registers snapshot).repeatsSavedPc .normal level = .ok false := by
  obtain ⟨outer, seen, _, frame⟩ := stack.view (Nat.le_of_lt inside)
  -- Frame pointers rise, so no two frames keep their return addresses in the same place.
  have apart : chain.base (level + 1) + 8 ≠ chain.base level + 8 := by
    intro same
    have rising := stack.rising inside
    rw [(BitVec.add_left_inj 8).1 same] at rising
    exact BitVec.lt_irrefl _ rising
  unfold Scene.repeatsSavedPc
  rw [if_neg (by simp), seen, ok_bind, frame.kind, ok_bind, if_neg (by simp)]
  change (platform.scene registers snapshot).callerLocation (level + 1) rip >>= _ = _
  rw [stack.callerLocation inside, ok_bind, if_neg (by simp)]
  change (platform.scene registers snapshot).callerLocation level rip >>= _ = _
  rw [stack.callerLocation (Nat.lt_of_succ_lt inside), ok_bind,
    decide_eq_false (fun same => apart (RegisterLocation.memory.inj same))]
  rfl

theorem rising_stack {level : Nat} (inside : level + 1 < chain.last) :
    chain.base level + 16 < chain.base (level + 1) + 16 := by
  have rising := stack.rising inside
  have room := stack.room (Nat.lt_of_succ_lt inside)
  have room' := stack.room inside
  have sixteen : (16 : BitVec 64).toNat = 16 := rfl
  simp only [BitVec.uaddOverflow, decide_eq_false_iff_not, ge_iff_le, Nat.not_le] at room room'
  rw [BitVec.lt_def] at rising ⊢
  rw [BitVec.toNat_add_of_lt room, BitVec.toNat_add_of_lt room']
  omega

theorem misplaced? {level : Nat} (inside : level + 1 < chain.last) :
    (platform.scene registers snapshot).misplaced?
      ⟨chain.base (level + 1) + 16, chain.entry (level + 1)⟩ level = .ok none := by
  have inside' : level < chain.last := Nat.lt_of_succ_lt inside
  obtain ⟨inner, seen, _, frame⟩ := stack.view (Nat.le_of_lt inside')
  have rising := stack.rising_stack inside
  refine Scene.misplaced?_eq_none seen frame.kind (frame.frameId (stack.pointer inside'))
    (fun _ => ?_) (fun same => ?_) (stack.repeatsSavedPc inside)
  · exact decide_eq_false fun inner => BitVec.lt_irrefl _ (BitVec.lt_trans rising inner)
  · change chain.base (level + 1) + 16 = chain.base level + 16 at same
    exact BitVec.lt_irrefl _ (same ▸ rising)

theorem stopAt? {level : Nat} (inside : level ≤ chain.last) :
    (platform.scene registers snapshot).stopAt? level =
      .ok (if level = chain.last then some .outermost else none) := by
  obtain ⟨view, seen, samePc, frame⟩ := stack.view inside
  have identified : (platform.scene registers snapshot).frameId view =
      .ok (chain.frameId level) := stack.frameId inside seen
  cases level with
  | zero =>
    rw [Scene.stopAt?_zero seen, identified, ok_bind, CallChain.frameId]
    split <;> rfl
  | succ level =>
    have nonzero : view.pc ≠ 0 := by
      rw [samePc]
      exact stack.returns inside
    rw [Scene.stopAt?_succ seen nonzero, identified, ok_bind, CallChain.frameId]
    by_cases last : level + 1 = chain.last
    · rw [if_pos last, if_pos last]
    · rw [if_neg last, if_neg last]
      exact stack.misplaced? (Nat.lt_of_le_of_ne inside last)

theorem caller {level : Nat} (inside : level ≤ chain.last) :
    (platform.scene registers snapshot).caller level =
      .ok (if level = chain.last then .stop .outermost else .level (level + 1)) := by
  have stop := stack.stopAt? inside
  by_cases last : level = chain.last
  · rw [if_pos last] at stop ⊢
    exact Scene.caller_of_stop stop
  · rw [if_neg last] at stop ⊢
    obtain ⟨view, seen, _⟩ := stack.view (show level + 1 ≤ chain.last by omega)
    rw [Scene.caller_of_no_stop stop, seen]
    rfl

theorem entry {level : Nat} (inside : level ≤ chain.last) {view : View 64 ε}
    (seen : (platform.scene registers snapshot).view level = .ok view) :
    (platform.scene registers snapshot).entry view = chain.backtraceEntry level := by
  obtain ⟨view', seen', samePc, frame⟩ := stack.view inside
  cases seen.symm.trans seen'
  unfold Scene.entry
  rw [Scene.level_of_view seen, samePc, frame.kind, stack.frameId inside seen]
  rfl

theorem backtraceFrom {level : Nat} (inside : level ≤ chain.last) {limit : Nat}
    (enough : chain.last < level + limit) :
    (platform.scene registers snapshot).backtraceFrom level limit =
      .ok ⟨(List.range' level (chain.last + 1 - level)).map chain.backtraceEntry, .outermost,
        none⟩ := by
  -- The limit covers the frames from this level on. It is used up no sooner than at the last
  -- frame, where the walk ends by itself.
  induction limit generalizing level with
  | zero => omega
  | succ limit ih =>
    obtain ⟨view, seen, _⟩ := stack.view inside
    have first : chain.last + 1 - level = chain.last - level + 1 := by omega
    unfold Scene.backtraceFrom
    rw [seen, ok_bind, stack.caller inside, stack.entry inside seen, first, List.range'_succ]
    by_cases last : level = chain.last
    · rw [if_pos last, ← last, Nat.sub_self]
      rfl
    · rw [if_neg last]
      simp only
      rw [ih (by omega) (by omega), Nat.add_sub_add_right]
      rfl

end StandardStack

/-- The backtrace of a standard stack has one entry for each call on it. -/
theorem backtrace_standardStack {platform : Platform} {registers : RegisterCache registerFile}
    {target : Target 64 ε τ} {snapshot : Snapshot 64 ε} {held : τ → Prop}
    (shows : target.Shows snapshot held) {memory : τ} (start : held memory) {chain : CallChain}
    (stack : StandardStack platform registers snapshot chain) {limit : Nat}
    (enough : chain.last + 1 ≤ limit) :
    ∃ calls, (platform.walker target registers).start memory = .ok calls ∧
      (Attempt.run ((platform.walker target registers).backtrace limit) calls).1 =
        .ok ⟨(List.range (chain.last + 1)).map chain.backtraceEntry, .outermost, none⟩ := by
  have started : (platform.walker target registers).start memory =
      .ok ⟨#[{ pc := chain.pc 0 }], 0, memory⟩ :=
    Walker.start_eq_ok stack.pcRegister (Address.ofBytes?_toBytes _)
  refine ⟨_, started, ?_⟩
  rw [Walker.run_backtrace shows start started, List.range_eq_range']
  exact stack.backtraceFrom (Nat.zero_le _) (by omega)

/-- Three calls, the second of which has been left just past the end of its function. -/
def threeCalls : CallChain where
  last := 2
  entry level := 0x1000 * BitVec.ofNat 64 (level + 1)
  pc level := 0x1000 * BitVec.ofNat 64 (level + 1) + if level = 1 then 0x100 else 0x10
  base level := if level < 2 then 0x7000 + 0x20 * BitVec.ofNat 64 level else 0

def threeCallsMemory : Memory 64 Empty :=
  let functions : Memory 64 Empty :=
    { functions := [⟨0x1000, 0x1100⟩, ⟨0x2000, 0x2100⟩, ⟨0x3000, 0x3100⟩] }
  let code := [0, 1, 2].foldl
    (fun memory level => memory.poke (threeCalls.entry level) Prologue.wholeCode) functions
  [0, 1].foldl
    (fun memory level => memory.poke (threeCalls.base level)
      (Address.toBytes (threeCalls.base (level + 1)) ++
        Address.toBytes (threeCalls.pc (level + 1))))
    code

def threeCallsRegisters : RegisterCache registerFile :=
  ((RegisterCache.empty registerFile).store rip 0 (Address.toBytes (threeCalls.pc 0)) .valid).store
    rbp 0 (Address.toBytes (threeCalls.base 0)) .valid

theorem standardStack_threeCalls :
    StandardStack Linux.platform threeCallsRegisters threeCallsMemory.snapshot threeCalls where
  pcRegister := RegisterCache.read_of_valid (by decide +kernel) (by decide +kernel)
  pointerRegister := RegisterCache.read_of_valid (by decide +kernel) (by decide +kernel)
  known := by decide +kernel
  prologue {level} inside := by
    have maps : ∀ level ≤ 2,
        threeCallsMemory.Maps (threeCalls.entry level) Prologue.wholeCode := by decide +kernel
    exact (maps level inside).holds
  past := by decide +kernel
  declined {level} inside view := by
    have unrecognized : ∀ level ≤ 2, Linux.platform.config.signals.recognizes
        threeCallsMemory.snapshot (threeCalls.pc level) = false := by decide +kernel
    rw [answer_claims, unrecognized level inside]
  innermost := by decide +kernel
  outer := by decide +kernel
  returns := by decide +kernel
  pointer := by decide +kernel
  outermost := by decide +kernel
  rising {level} inside := by
    have first : level = 0 := Nat.lt_one_iff.1 (Nat.lt_of_succ_lt_succ inside)
    subst first
    decide
  room := by decide +kernel
  savedPointer {level} inside := by
    have maps : ∀ level < 2, threeCallsMemory.Maps (threeCalls.base level)
        (Address.toBytes (threeCalls.base (level + 1))) := by decide +kernel
    exact (maps level inside).holds
  savedPc {level} inside := by
    have maps : ∀ level < 2, threeCallsMemory.Maps (threeCalls.base level + 8)
        (Address.toBytes (threeCalls.pc (level + 1))) := by decide +kernel
    exact (maps level inside).holds

theorem backtrace_threeCalls :
    ∃ calls, (Linux.platform.walker (Memory.target 64 Empty) threeCallsRegisters).start
        threeCallsMemory = .ok calls ∧
      (Attempt.run
          ((Linux.platform.walker (Memory.target 64 Empty) threeCallsRegisters).backtrace 5)
          calls).1 =
        .ok ⟨[⟨0, 0x1010, some .normal, some ⟨0x7010, 0x1000⟩⟩,
          ⟨1, 0x2100, some .normal, some ⟨0x7030, 0x2000⟩⟩, ⟨2, 0x3010, some .normal, none⟩],
          .outermost, none⟩ :=
  backtrace_standardStack threeCallsMemory.shows_snapshot rfl standardStack_threeCalls (by decide)

end Inferior.Amd64

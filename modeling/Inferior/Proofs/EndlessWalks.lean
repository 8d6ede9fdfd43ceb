import Mathlib.Data.FinEnum
import Mathlib.Data.Finite.Prod
import Mathlib.Order.Filter.AtTopBot.Basic
import Mathlib.Order.Filter.Finite
import Inferior.Proofs.BacktraceLimits
import Inferior.Proofs.SignalFrame

/-! Walks without an end.

Each frame is compared with the one that it called and with no other. From function to function the
stack addresses rise, which cannot go on for ever. Behind a signal trampoline, however, the stack may
be any other one, so a corrupt stack may lead back to where the walk has been. Then, and only then,
the frame of a trampoline comes back again and again.
-/

set_option autoImplicit false

namespace Inferior

variable {w : Nat} {ε κ τ : Type}

instance : Finite (FrameId w) :=
  Finite.of_injective (fun frameId => (frameId.stack, frameId.code)) fun
    | ⟨_, _⟩, ⟨_, _⟩, rfl => rfl

namespace Scene

variable {scene : Scene w ε κ} {level : Nat}

def Continues (scene : Scene w ε κ) (level : Nat) : Prop :=
  scene.caller level = .ok (.level (level + 1))

theorem continues_iff :
    scene.Continues level ↔
      scene.stopAt? level = .ok none ∧ ∃ view, scene.view (level + 1) = .ok view := by
  unfold Continues
  constructor
  · intro found
    cases stop : scene.stopAt? level with
    | error error => simp [caller_of_error stop] at found
    | ok stop? =>
      cases stop? with
      | some reason => simp [caller_of_stop stop] at found
      | none => exact ⟨rfl, (view_of_caller found).2⟩
  · rintro ⟨goesOn, view, seen⟩
    rw [caller_of_no_stop goesOn, seen]
    rfl

/-- Whether every frame on the way from one level to another has a caller. -/
def Reaches (scene : Scene w ε κ) (level outer : Nat) : Prop :=
  level ≤ outer ∧ ∀ inner, level ≤ inner → inner < outer → scene.Continues inner

theorem reaches_self (scene : Scene w ε κ) (level : Nat) : scene.Reaches level level :=
  ⟨Nat.le_refl level, fun _ after before => absurd before (Nat.not_lt.2 after)⟩

theorem reaches_iff {outer : Nat} :
    scene.Reaches level outer ↔
      outer = level ∨ scene.Continues level ∧ scene.Reaches (level + 1) outer := by
  constructor
  · rintro ⟨le, all⟩
    rcases Nat.eq_or_lt_of_le le with same | further
    · exact .inl same.symm
    · exact .inr ⟨all level (Nat.le_refl level) further, further, fun inner after =>
        all inner (Nat.le_of_succ_le after)⟩
  · rintro (rfl | ⟨goesOn, le, all⟩)
    · exact scene.reaches_self _
    · refine ⟨Nat.le_of_succ_le le, fun inner after before => ?_⟩
      rcases Nat.eq_or_lt_of_le after with rfl | further
      · exact goesOn
      · exact all inner further before

structure Passes (scene : Scene w ε κ) (level : Nat) (view : View w ε) (kind : FrameKind)
    (frameId : FrameId w) : Prop where
  seen : scene.view level = .ok view
  kind : scene.kind view = .ok kind
  frameId : scene.frameId view = .ok (some frameId)

theorem kind_of_frameId {view : View w ε} {frameId : Option (FrameId w)}
    (identified : scene.frameId view = .ok frameId) : ∃ kind, scene.kind view = .ok kind := by
  obtain ⟨_, computed, -⟩ := bind_eq_ok.1 identified
  obtain ⟨unwinder, claimed, -⟩ := bind_eq_ok.1 computed
  refine ⟨unwinder.kind, ?_⟩
  unfold kind
  rw [claimed]
  rfl

theorem passes_of_stopAt? (goesOn : scene.stopAt? level = .ok none) :
    ∃ view kind frameId, scene.Passes level view kind frameId := by
  obtain ⟨view, seen, rest⟩ := bind_eq_ok.1 goesOn
  split at rest
  · cases rest
  obtain ⟨frameId?, identified, rest⟩ := bind_eq_ok.1 rest
  cases frameId? with
  | none => cases rest
  | some frameId =>
    obtain ⟨kind, known⟩ := kind_of_frameId identified
    exact ⟨view, kind, frameId, seen, known, identified⟩

theorem further_of_misplaced? {frameId innerId : FrameId w} {view : View w ε} {kind : FrameKind}
    (inner : scene.Passes level view kind innerId)
    (goesOn : scene.misplaced? frameId level = .ok none) :
    frameId.stack ≠ innerId.stack ∧ (kind ≠ .signalTrampoline →
      scene.architecture.innerThan frameId.stack innerId.stack = false) := by
  unfold misplaced? at goesOn
  rw [inner.seen, ok_bind, inner.kind, ok_bind, ok_bind, inner.frameId, ok_bind] at goesOn
  dsimp only at goesOn
  split at goesOn
  · cases goesOn
  · rename_i notInner
    split at goesOn
    · cases goesOn
    · rename_i different
      refine ⟨fun same => different (beq_iff_eq.2 same), fun called => ?_⟩
      exact Bool.eq_false_iff.2 fun inside => notInner ⟨called, inside⟩

/-- A walk that goes on from a frame has found it in another place than the frame which it called,
and further out unless that is a trampoline. -/
theorem further_of_stopAt? {view view' : View w ε} {kind kind' : FrameKind}
    {innerId frameId : FrameId w} (inner : scene.Passes level view kind innerId)
    (outer : scene.Passes (level + 1) view' kind' frameId)
    (goesOn : scene.stopAt? (level + 1) = .ok none) :
    frameId.stack ≠ innerId.stack ∧ (kind ≠ .signalTrampoline →
      scene.architecture.innerThan frameId.stack innerId.stack = false) := by
  have nonzero : view'.pc ≠ 0 := by
    intro zero
    unfold stopAt? at goesOn
    rw [outer.seen, ok_bind, if_pos ⟨Nat.succ_pos level, zero⟩] at goesOn
    cases goesOn
  rw [stopAt?_succ outer.seen nonzero, outer.frameId] at goesOn
  exact further_of_misplaced? inner goesOn

/-- Only a limit makes a walk report one. -/
theorem stop_of_caller {reason : UnwindStop} (called : scene.caller level = .ok (.stop reason)) :
    reason ≠ .limit := by
  rintro rfl
  cases endsStack_of_caller called

section Backtrace

variable {limit : Nat} {found : Backtrace w ε}

theorem backtraceFrom_succ (traced : scene.backtraceFrom level (limit + 1) = .ok found) :
    ∃ view, scene.view level = .ok view ∧
      ((scene.Continues level ∧ ∃ rest, scene.backtraceFrom (level + 1) limit = .ok rest ∧
          found = rest.push (scene.entry view)) ∨
        (¬scene.Continues level ∧ found.frames = [scene.entry view] ∧ found.stop ≠ .limit)) := by
  unfold backtraceFrom at traced
  obtain ⟨view, seen, traced⟩ := bind_eq_ok.1 traced
  refine ⟨view, seen, ?_⟩
  unfold Continues
  cases called : scene.caller level with
  | error error =>
    rw [called] at traced
    cases traced
    exact .inr ⟨by simp, rfl, (Backtrace.final_failed (w := w) error).unlimited⟩
  | ok caller =>
    cases caller with
    | stop reason =>
      rw [called] at traced
      cases traced
      exact .inr ⟨by simp, rfl, stop_of_caller called⟩
    | level outer =>
      rw [called] at traced
      obtain ⟨rest, traced', same⟩ := bind_eq_ok.1 traced
      cases (view_of_caller called).1
      cases same
      exact .inl ⟨rfl, rest, traced', rfl⟩

/-- The limit ends a backtrace if every frame within it has a caller. -/
theorem stop_eq_limit_iff (traced : scene.backtraceFrom level limit = .ok found) :
    found.stop = .limit ↔ scene.Reaches level (level + limit) := by
  induction limit generalizing level found with
  | zero =>
    cases traced
    exact ⟨fun _ => scene.reaches_self level, fun _ => rfl⟩
  | succ limit ih =>
    have more : level + (limit + 1) ≠ level := by omega
    have shift : level + (limit + 1) = level + 1 + limit := by omega
    rw [reaches_iff, or_iff_right more, shift]
    obtain ⟨view, seen, ⟨goesOn, rest, traced', rfl⟩ | ⟨ends, -, stop⟩⟩ := backtraceFrom_succ traced
    · exact (ih traced').trans (and_iff_right goesOn).symm
    · exact ⟨fun same => absurd same stop, fun both => absurd both.1 ends⟩

/-- A backtrace lists the frames within its limit, up to the first one without a caller. -/
theorem mem_frames_iff (traced : scene.backtraceFrom level limit = .ok found)
    {entry : BacktraceEntry w} :
    entry ∈ found.frames ↔ ∃ outer view, outer < level + limit ∧ scene.Reaches level outer ∧
      scene.view outer = .ok view ∧ entry = scene.entry view := by
  induction limit generalizing level found with
  | zero =>
    cases traced
    refine ⟨nofun, ?_⟩
    rintro ⟨outer, _, before, reached, -⟩
    exact absurd before (Nat.not_lt.2 reached.1)
  | succ limit ih =>
    obtain ⟨view, seen, ⟨goesOn, rest, traced', rfl⟩ | ⟨ends, frames, -⟩⟩ :=
      backtraceFrom_succ traced
    · refine List.mem_cons.trans ⟨?_, ?_⟩
      · rintro (rfl | further)
        · exact ⟨level, view, by omega, scene.reaches_self level, seen, rfl⟩
        · obtain ⟨outer, view', before, reached, seen', rfl⟩ := (ih traced').1 further
          exact ⟨outer, view', by omega, reaches_iff.2 (.inr ⟨goesOn, reached⟩), seen', rfl⟩
      · rintro ⟨outer, view', before, reached, seen', rfl⟩
        rcases reaches_iff.1 reached with rfl | ⟨-, further⟩
        · cases seen.symm.trans seen'
          exact .inl rfl
        · exact .inr ((ih traced').2 ⟨outer, view', by omega, further, seen', rfl⟩)
    · rw [frames, List.mem_singleton]
      constructor
      · rintro rfl
        exact ⟨level, view, by omega, scene.reaches_self level, seen, rfl⟩
      · rintro ⟨outer, view', -, reached, seen', rfl⟩
        rcases reaches_iff.1 reached with rfl | ⟨goesOn, -⟩
        · cases seen.symm.trans seen'
          rfl
        · exact absurd goesOn ends

end Backtrace

section Endless

variable (endless : ∀ level, scene.Continues level)
include endless

theorem exists_passes (level : Nat) : ∃ view kind frameId, scene.Passes level view kind frameId :=
  passes_of_stopAt? (continues_iff.1 (endless level)).1

/-- The frames of functions alone do not make an endless walk, since there are only so many stack
addresses to go through. -/
theorem exists_trampoline (ordered : scene.architecture.OrdersFrames) (bound : Nat) :
    ∃ level view frameId, bound ≤ level ∧ scene.Passes level view .signalTrampoline frameId := by
  by_contra none
  choose view kind frameId passes using exists_passes endless
  have called (level : Nat) (beyond : bound ≤ level) : kind level ≠ .signalTrampoline :=
    fun same => none ⟨level, view level, frameId level, beyond, same ▸ passes level⟩
  -- Without trampolines, each frame lies further out than the one before.
  have rises (level : Nat) (beyond : bound ≤ level) :
      scene.architecture.innerThan (frameId level).stack (frameId (level + 1)).stack := by
    obtain ⟨different, further⟩ := further_of_stopAt? (passes level) (passes (level + 1))
      (continues_iff.1 (endless (level + 1))).1
    exact ordered.total different.symm (further (called level beyond))
  have inner {first second : Nat} (beyond : bound ≤ first) (before : first < second) :
      scene.architecture.innerThan (frameId first).stack (frameId second).stack := by
    induction second, before using Nat.le_induction with
    | base => exact rises first beyond
    | succ second before ih => exact ordered.trans ih (rises second (by omega))
  have apart {first second : Nat} (beyond : bound ≤ first) (before : first < second) :
      (frameId first).stack ≠ (frameId second).stack := by
    intro same
    have inside := inner beyond before
    rw [same, ordered.irrefl] at inside
    cases inside
  -- So no stack address comes twice, although there are only so many.
  have injective : Function.Injective fun distance => (frameId (bound + distance)).stack := by
    intro first second same
    rcases Nat.lt_trichotomy first second with before | here | after
    · exact absurd same (apart (by omega) (by omega))
    · exact here
    · exact absurd same.symm (apart (by omega) (by omega))
  exact not_injective_infinite_finite _ injective

/-- Among finitely many frames of trampolines, one comes back again and again. -/
theorem exists_recurring (ordered : scene.architecture.OrdersFrames) :
    ∃ pc frameId, ∀ bound, ∃ level view, bound ≤ level ∧ view.pc = pc ∧
      scene.Passes level view .signalTrampoline frameId := by
  have often : ∃ᶠ level in Filter.atTop, ∃ place : BitVec w × FrameId w, ∃ view,
      view.pc = place.1 ∧ scene.Passes level view .signalTrampoline place.2 :=
    Filter.frequently_atTop.2 fun bound => by
      obtain ⟨level, view, frameId, beyond, passes⟩ := exists_trampoline endless ordered bound
      exact ⟨level, beyond, (view.pc, frameId), view, rfl, passes⟩
  obtain ⟨⟨pc, frameId⟩, recurs⟩ := Filter.frequently_exists.1 often
  refine ⟨pc, frameId, fun bound => ?_⟩
  obtain ⟨level, beyond, view, same, passes⟩ := Filter.frequently_atTop.1 recurs bound
  exact ⟨level, view, beyond, same, passes⟩

end Endless

/-- Whether the frame of a trampoline, with one pc and one id, is found over and over, however far
out. -/
def Recurs (scene : Scene w ε κ) (pc : BitVec w) (frameId : FrameId w) : Prop :=
  ∀ bound, ∃ level limit found, bound ≤ level ∧ scene.backtrace limit = .ok found ∧
    ⟨level, pc, some .signalTrampoline, some frameId⟩ ∈ found.frames

theorem ends_iff (ordered : scene.architecture.OrdersFrames) {view : View w ε}
    (seen : scene.view 0 = .ok view) :
    (∃ limit found, scene.backtrace limit = .ok found ∧ found.stop ≠ .limit) ↔
      ¬∃ pc frameId, scene.Recurs pc frameId := by
  constructor
  · rintro ⟨limit, found, traced, ends⟩ ⟨pc, frameId, recurs⟩
    -- A frame is listed beyond the limit, so all frames within it have callers.
    refine ends ((stop_eq_limit_iff traced).2 ⟨Nat.zero_le _, fun inner _ before => ?_⟩)
    obtain ⟨level, limit', found', beyond, traced', listed⟩ := recurs limit
    obtain ⟨outer, view', -, reached, seen', same⟩ := (mem_frames_iff traced').1 listed
    have here : level = view'.level := congrArg BacktraceEntry.level same
    rw [level_of_view seen'] at here
    exact reached.2 inner (Nat.zero_le _) (by omega)
  · intro none
    by_contra all
    -- If every backtrace is cut off by its limit, then every frame has a caller.
    have traced (limit : Nat) : ∃ found, scene.backtrace limit = .ok found ∧
        scene.Reaches 0 (0 + limit) := by
      obtain ⟨found, traced⟩ := backtraceFrom_of_view seen limit
      refine ⟨found, traced, (stop_eq_limit_iff traced).1 ?_⟩
      by_contra ends
      exact all ⟨limit, found, traced, ends⟩
    have endless (level : Nat) : scene.Continues level := by
      obtain ⟨-, -, reached⟩ := traced (level + 1)
      exact reached.2 level (Nat.zero_le _) (by omega)
    obtain ⟨pc, frameId, recurs⟩ := exists_recurring endless ordered
    refine none ⟨pc, frameId, fun bound => ?_⟩
    obtain ⟨level, view', beyond, rfl, passes⟩ := recurs bound
    obtain ⟨found, traced, -⟩ := traced (level + 1)
    refine ⟨level, level + 1, found, beyond, traced, (mem_frames_iff traced).2 ?_⟩
    refine ⟨level, view', by omega, ⟨Nat.zero_le _, fun inner _ _ => endless inner⟩,
      passes.seen, ?_⟩
    rw [entry, level_of_view passes.seen, passes.kind, passes.frameId]
    rfl

end Scene

namespace Amd64

/-- A walk through a program that stays as it is ends, unless the frame of a signal trampoline comes
back for ever. -/
theorem backtrace_ends_iff {platform : Platform} {target : Target 64 ε τ} {snapshot : Snapshot 64 ε}
    {held : τ → Prop} (shows : target.Shows snapshot held) {memory : τ} (start : held memory)
    {registers : RegisterCache registerFile} (valid : registers.statuses[rip]? = some .valid) :
    ∃ calls, (platform.walker target registers).start memory = .ok calls ∧
      ((∃ limit found,
          (Attempt.run ((platform.walker target registers).backtrace limit) calls).1 = .ok found ∧
          found.stop ≠ .limit) ↔
        ¬∃ pc frameId, ∀ bound, ∃ level limit found, bound ≤ level ∧
          (Attempt.run ((platform.walker target registers).backtrace limit) calls).1 = .ok found ∧
          ⟨level, pc, some .signalTrampoline, some frameId⟩ ∈ found.frames) := by
  have read : registers.read rip = .ok (registers.bytes rip) := RegisterCache.read_of_valid valid rfl
  have started : (platform.walker target registers).start memory = .ok ⟨#[{ pc := _ }], 0, memory⟩ :=
    Walker.start_eq_ok read (Address.ofBytes?_eq_some _)
  refine ⟨_, started, ?_⟩
  simp only [Walker.run_backtrace shows start started]
  obtain ⟨pc, address⟩ := Walker.addressOf_eq_ok (w := 64) (ε := ε) (registers.bytes rip)
  exact Scene.ends_iff architecture_ordersFrames (Scene.view_zero_eq_ok.2 ⟨_, pc, read, address, rfl⟩)

/-- A thread in a trampoline whose signal context leads to the same trampoline on another stack, and
so on. -/
structure TrampolineChain (registers : RegisterCache registerFile) (snapshot : Snapshot 64 ε)
    (trampoline : BitVec 64) (sp : Nat → BitVec 64) : Prop where
  pcRegister : registers.read rip = .ok (Address.toBytes trampoline)
  spRegister : registers.read rsp = .ok (Address.toBytes (sp 0))
  known : trampoline ≠ 0
  code : snapshot.Holds trampoline Linux.trampoline.code
  apart (level : Nat) : sp (level + 1) ≠ sp level
  savedSp (level : Nat) : snapshot.Holds (sp level + BitVec.ofNat 64 Linux.contextOffset + 120)
    (Address.toBytes (sp (level + 1)))
  savedPc (level : Nat) : snapshot.Holds (sp level + BitVec.ofNat 64 Linux.contextOffset + 128)
    (Address.toBytes trampoline)

namespace TrampolineChain

variable {registers : RegisterCache registerFile} {snapshot : Snapshot 64 ε}
  {trampoline : BitVec 64} {sp : Nat → BitVec 64}
  (chain : TrampolineChain registers snapshot trampoline sp)
include chain

theorem view (level : Nat) : ∃ view, (Linux.platform.scene registers snapshot).view level = .ok view ∧
    view.pc = trampoline ∧ TrampolineFrame snapshot view (sp level) := by
  induction level with
  | zero =>
    refine ⟨_, view_zero chain.pcRegister, rfl, ?_, chain.code⟩
    change (registers.read rsp).mapError Error.register = _
    rw [chain.spRegister]
    rfl
  | succ level ih =>
    obtain ⟨inner, seen, samePc, frame⟩ := ih
    have pc : (Linux.platform.scene registers snapshot).callerRegister inner rip =
        .ok (Address.toBytes trampoline) := frame.callerRegister_saved rfl rfl (chain.savedPc level)
    have recovered : (Linux.platform.scene registers snapshot).callerPc inner = .ok trampoline := by
      change (Linux.platform.scene registers snapshot).callerRegister inner rip >>= _ = _
      rw [pc, ok_bind, Walker.addressOf_toBytes]
    exact ⟨_, Scene.view_succ_eq_ok.2 ⟨inner, trampoline, seen, recovered, rfl⟩, rfl,
      frame.callerRegister_saved rfl rfl (chain.savedSp level), chain.code⟩

theorem stopAt? (level : Nat) : (Linux.platform.scene registers snapshot).stopAt? level = .ok none := by
  obtain ⟨view, seen, samePc, frame⟩ := chain.view level
  cases level with
  | zero =>
    rw [Scene.stopAt?_zero seen, frame.frameId]
    rfl
  | succ level =>
    obtain ⟨inner, seen', -, frame'⟩ := chain.view level
    rw [Scene.stopAt?_succ seen (samePc ▸ chain.known), frame.frameId, ok_bind]
    -- Behind a trampoline a frame may lie anywhere but where the trampoline's own frame lies.
    refine Scene.misplaced?_eq_none seen' frame'.kind frame'.frameId (fun called => absurd rfl called)
      (fun same => chain.apart level ((BitVec.add_left_inj 8).1 same)) ?_
    unfold Scene.repeatsSavedPc
    rw [if_pos (by simp)]
    rfl

theorem stop_backtrace {target : Target 64 ε τ} {held : τ → Prop}
    (shows : target.Shows snapshot held) {memory : τ} (start : held memory)
    {calls : CallStack 64 ε FrameCache τ}
    (started : (Linux.platform.walker target registers).start memory = .ok calls) {limit : Nat}
    {found : Backtrace 64 ε}
    (traced : (Attempt.run ((Linux.platform.walker target registers).backtrace limit) calls).1 =
      .ok found) :
    found.stop = .limit := by
  rw [Walker.run_backtrace shows start started] at traced
  refine (Scene.stop_eq_limit_iff traced).2 ⟨Nat.zero_le _, fun level _ _ => ?_⟩
  obtain ⟨view, seen, -⟩ := chain.view (level + 1)
  exact Scene.continues_iff.2 ⟨chain.stopAt? level, view, seen⟩

end TrampolineChain

def switchingSp (level : Nat) : BitVec 64 := if level % 2 = 0 then 0x1000 else 0x2000

def switchingMemory : Memory 64 Empty :=
  (List.range 2).foldl
    (fun memory level => memory.poke
      (switchingSp level + BitVec.ofNat 64 Linux.contextOffset + 120)
      (Address.toBytes (switchingSp (level + 1)) ++ Address.toBytes (0x9000 : BitVec 64)))
    (Memory.poke {} 0x9000 Linux.trampoline.code)

def switchingRegisters : RegisterCache registerFile :=
  ((RegisterCache.empty registerFile).store rip 0 (Address.toBytes (0x9000 : BitVec 64)) .valid).store
    rsp 0 (Address.toBytes (switchingSp 0)) .valid

theorem switchingSp_mod (level : Nat) : switchingSp (level % 2) = switchingSp level := by
  unfold switchingSp
  rw [Nat.mod_mod]

theorem switchingMemory_holds (level : Nat) :
    switchingMemory.snapshot.Holds (switchingSp level + BitVec.ofNat 64 Linux.contextOffset + 120)
      (Address.toBytes (switchingSp (level + 1)) ++ Address.toBytes (0x9000 : BitVec 64)) := by
  have maps : ∀ level < 2, switchingMemory.Maps
      (switchingSp level + BitVec.ofNat 64 Linux.contextOffset + 120)
      (Address.toBytes (switchingSp (level + 1)) ++ Address.toBytes (0x9000 : BitVec 64)) := by
    decide +kernel
  have here := (maps (level % 2) (Nat.mod_lt level Nat.two_pos)).holds
  rwa [switchingSp_mod, ← switchingSp_mod (level % 2 + 1), Nat.mod_add_mod, switchingSp_mod] at here

theorem trampolineChain_switching :
    TrampolineChain switchingRegisters switchingMemory.snapshot 0x9000 switchingSp where
  pcRegister := RegisterCache.read_of_valid (by decide +kernel) (by decide +kernel)
  spRegister := RegisterCache.read_of_valid (by decide +kernel) (by decide +kernel)
  known := by decide
  code := by
    have maps : switchingMemory.Maps 0x9000 Linux.trampoline.code := by decide +kernel
    exact maps.holds
  apart level := by
    unfold switchingSp
    rcases Nat.mod_two_eq_zero_or_one level with even | odd
    · rw [if_pos even, if_neg (by omega)]
      decide
    · rw [if_neg (by omega : ¬ level % 2 = 0), if_pos (by omega)]
      decide
  savedSp level := (switchingMemory_holds level).left
  savedPc level := by
    have place : switchingSp level + BitVec.ofNat 64 Linux.contextOffset + 128 =
        switchingSp level + BitVec.ofNat 64 Linux.contextOffset + 120 + 8 := by
      rw [BitVec.add_assoc _ 120]
      rfl
    rw [place]
    exact (switchingMemory_holds level).right

/-- Not every walk ends. -/
theorem not_all_backtraces_end : ¬∀ (platform : Platform) (registers : RegisterCache registerFile)
    (memory : Memory 64 Empty), registers.statuses[rip]? = some .valid →
      ∃ calls limit found,
        (platform.walker (Memory.target 64 Empty) registers).start memory = .ok calls ∧
        (Attempt.run ((platform.walker (Memory.target 64 Empty) registers).backtrace limit)
          calls).1 = .ok found ∧
        found.stop ≠ .limit := by
  intro all
  obtain ⟨calls, limit, found, started, traced, ends⟩ :=
    all Linux.platform switchingRegisters switchingMemory (by decide +kernel)
  exact ends (trampolineChain_switching.stop_backtrace switchingMemory.shows_snapshot rfl started
    traced)

theorem backtrace_ends_switching :
    ∃ calls, (Linux.platform.walker (Memory.target 64 Empty) switchingRegisters).start
        switchingMemory = .ok calls ∧
      ∃ pc frameId, ∀ bound, ∃ level limit found, bound ≤ level ∧
        (Attempt.run ((Linux.platform.walker (Memory.target 64 Empty) switchingRegisters).backtrace
          limit) calls).1 = .ok found ∧
        ⟨level, pc, some .signalTrampoline, some frameId⟩ ∈ found.frames := by
  obtain ⟨calls, started, ends⟩ := backtrace_ends_iff switchingMemory.shows_snapshot rfl
    (show switchingRegisters.statuses[rip]? = some .valid by decide +kernel)
  refine ⟨calls, started, ?_⟩
  by_contra none
  obtain ⟨limit, found, traced, stop⟩ := ends.2 none
  exact stop (trampolineChain_switching.stop_backtrace switchingMemory.shows_snapshot rfl started
    traced)

end Amd64

end Inferior

import Inferior.Proofs.FunctionFrame

/-! Two threads in front of the same memory. From where on a frame of the one looks like a frame of
the other, so do their callers, and backtraces from there on differ in their levels only.
-/

set_option autoImplicit false

namespace Inferior

variable {w : Nat} {ε : Type}

/-- Two frames that look the same from inside to an unwinder that wants to know of the next inner
frame no more than whether it made a call. -/
structure View.Alike (first second : View w ε) : Prop where
  pc : first.pc = second.pc
  register (number : Nat) : first.register number = second.register number
  inner : first.innerKind.map (decide <| · = some .normal) =
    second.innerKind.map (decide <| · = some .normal)

namespace Snapshot

variable {snapshot : Snapshot w ε} {first second : View w ε}

theorem answer_bind_congr {α β : Type} {query : FrameQuery w ε α} {next : α → FrameQuery w ε β}
    (same : snapshot.answer first query = snapshot.answer second query)
    (further : ∀ value, snapshot.answer first (next value) = snapshot.answer second (next value)) :
    snapshot.answer first (query >>= next) = snapshot.answer second (query >>= next) := by
  rw [answer_bind, answer_bind, same]
  exact congrArg _ (funext further)

theorem answer_askAddress_congr (alike : first.Alike second) (number : Nat) :
    snapshot.answer first (.askAddress number) = snapshot.answer second (.askAddress number) := by
  rw [answer_askAddress, answer_askAddress, alike.register]

theorem answer_askAddressInBlock (view : View w ε) (pc : BitVec w) :
    snapshot.answer view (.askAddressInBlock pc) =
      (view.innerKind.map (decide <| · = some .normal)).map fun called =>
        if called then pc - 1 else pc := by
  have asked : snapshot.answer view .askInnerKind = view.innerKind := rfl
  unfold FrameQuery.askAddressInBlock
  rw [answer_bind, asked]
  cases view.innerKind with
  | error error => rfl
  | ok kind =>
    by_cases called : kind = some .normal
    · simp only [called]
      rfl
    · simp only [ok_bind, if_neg called, Except.map, decide_eq_false called]
      rfl

theorem answer_askFunctionEntry_congr (alike : first.Alike second) (pc : BitVec w) :
    snapshot.answer first (.askFunctionEntry pc) =
      snapshot.answer second (.askFunctionEntry pc) := by
  refine answer_bind_congr ?_ fun _ => rfl
  rw [answer_askAddressInBlock, answer_askAddressInBlock, alike.inner]

end Snapshot

namespace Amd64

section Answers

variable {snapshot : Snapshot 64 ε} (first second : View 64 ε)

/-- The code of a function says the same about every frame. -/
theorem answer_analyze_congr (start current : BitVec 64) (prologue : Prologue) :
    snapshot.answer first (prologue.analyze .tryMemory start current) =
      snapshot.answer second (prologue.analyze .tryMemory start current) := by
  unfold Prologue.analyze
  split
  · rfl
  · refine Snapshot.answer_bind_congr rfl fun block => ?_
    cases block with
    | error error => rfl
    | ok block =>
      dsimp only
      split
      · rfl
      · split
        · rfl
        · refine Snapshot.answer_bind_congr rfl fun block' => ?_
          cases block' with
          | error error => rfl
          | ok block' =>
            dsimp only
            split <;> rfl

theorem answer_prologueAt_congr (function pc : BitVec 64) :
    snapshot.answer first (FrameCache.prologueAt function pc) =
      snapshot.answer second (FrameCache.prologueAt function pc) := by
  unfold FrameCache.prologueAt
  split
  · rfl
  · apply Snapshot.answer_bind_congr (answer_analyze_congr _ _ _ _ _)
    intro ⟨stop, prologue⟩
    cases stop <;> rfl

variable {first second} (alike : first.Alike second)
include alike

theorem answer_baseAfter_congr (prologue : Prologue) :
    snapshot.answer first (FrameCache.baseAfter prologue) =
      snapshot.answer second (FrameCache.baseAfter prologue) := by
  unfold FrameCache.baseAfter
  split
  · exact Snapshot.answer_bind_congr (Snapshot.answer_askAddress_congr alike _) fun _ => rfl
  · exact Snapshot.answer_askAddress_congr alike _

theorem answer_ofFunction_congr (pc : BitVec 64) :
    snapshot.answer first (FrameCache.ofFunction pc) =
      snapshot.answer second (FrameCache.ofFunction pc) := by
  apply Snapshot.answer_bind_congr (Snapshot.answer_askFunctionEntry_congr alike _)
  intro _
  apply Snapshot.answer_bind_congr (answer_prologueAt_congr _ _ _ _)
  intro _
  exact Snapshot.answer_bind_congr (answer_baseAfter_congr alike _) fun _ => rfl

theorem answer_frameCache_congr (layout : SignalLayout) :
    snapshot.answer first layout.frameCache = snapshot.answer second layout.frameCache := by
  unfold SignalLayout.frameCache
  cases layout.context with
  | none => rfl
  | some locator =>
    apply Snapshot.answer_bind_congr (Snapshot.answer_askAddress_congr alike _)
    intro _
    refine Snapshot.answer_bind_congr ?_ fun _ => rfl
    cases locator with
    | stack offset =>
      exact Snapshot.answer_bind_congr (Snapshot.answer_askAddress_congr alike _) fun _ => rfl
    | register number offset =>
      exact Snapshot.answer_bind_congr (Snapshot.answer_askAddress_congr alike _) fun _ => rfl

end Answers

section Frames

variable {platform : Platform} {one other : RegisterCache registerFile} {snapshot : Snapshot 64 ε}
  {first second : View 64 ε} (alike : first.Alike second)
include alike

theorem unwinder_congr :
    (platform.scene one snapshot).unwinder first =
      (platform.scene other snapshot).unwinder second := by
  rw [unwinder_eq, unwinder_eq, alike.pc]

theorem kind_congr :
    (platform.scene one snapshot).kind first = (platform.scene other snapshot).kind second := by
  unfold Scene.kind
  rw [unwinder_congr alike]

theorem cache_congr :
    (platform.scene one snapshot).cache first = (platform.scene other snapshot).cache second := by
  rw [Scene.cache_of_unwinder (unwinder_eq _), Scene.cache_of_unwinder (unwinder_eq _), alike.pc]
  cases platform.config.signals.recognizes snapshot second.pc with
  | true => exact congrArg _ (answer_frameCache_congr alike _)
  | false => exact congrArg _ (answer_ofFunction_congr alike _)

theorem frameId_congr :
    (platform.scene one snapshot).frameId first =
      (platform.scene other snapshot).frameId second := by
  unfold Scene.frameId
  rw [cache_congr alike, alike.pc]

theorem callerRegister_congr (number : Nat) :
    (platform.scene one snapshot).callerRegister first number =
      (platform.scene other snapshot).callerRegister second number := by
  unfold Scene.callerRegister
  rw [cache_congr alike]
  simp only [alike.register]
  rfl

theorem callerPc_congr :
    (platform.scene one snapshot).callerPc first =
      (platform.scene other snapshot).callerPc second := by
  unfold Scene.callerPc
  rw [callerRegister_congr alike]
  rfl

theorem callerView_congr (pc : BitVec 64) :
    ((platform.scene one snapshot).callerView first pc).Alike
      ((platform.scene other snapshot).callerView second pc) where
  pc := rfl
  register := callerRegister_congr alike
  inner := by
    unfold Scene.callerView
    rw [unwinder_congr alike]

end Frames

section Located

variable {platform : Platform} {registers : RegisterCache registerFile} {snapshot : Snapshot 64 ε}
  {view : View 64 ε}

theorem savedPc_ofFunction {pc : BitVec 64} {cache : FrameCache}
    (computed : snapshot.answer view (FrameCache.ofFunction pc) = .ok cache) :
    ∃ address, cache.saved.get? rip = some address := by
  unfold FrameCache.ofFunction at computed
  rw [Snapshot.answer_bind] at computed
  obtain ⟨function, _, computed⟩ := bind_eq_ok.1 computed
  rw [Snapshot.answer_bind] at computed
  obtain ⟨prologue, _, computed⟩ := bind_eq_ok.1 computed
  rw [Snapshot.answer_bind] at computed
  obtain ⟨base, _, computed⟩ := bind_eq_ok.1 computed
  cases computed
  refine ⟨base + 8, ?_⟩
  unfold SavedRegisters.toAddresses
  rw [SavedRegisters.get?_map, SavedRegisters.get?_set, if_pos ⟨rfl, by decide⟩]
  rfl

theorem savedPc_frameCache {layout : SignalLayout} {offset : BitVec 64}
    (listed : (SavedRegisters.ofTable layout.offsets).get? rip = some offset) {cache : FrameCache}
    (computed : snapshot.answer view layout.frameCache = .ok cache) :
    ∃ address, cache.saved.get? rip = some address := by
  unfold SignalLayout.frameCache at computed
  cases located : layout.context with
  | none => simp [located, FrameQuery.fail, Snapshot.answer] at computed
  | some locator =>
    simp only [located] at computed
    rw [Snapshot.answer_bind] at computed
    obtain ⟨sp, _, computed⟩ := bind_eq_ok.1 computed
    rw [Snapshot.answer_bind] at computed
    obtain ⟨context, _, computed⟩ := bind_eq_ok.1 computed
    cases computed
    refine ⟨context + offset, ?_⟩
    rw [SavedRegisters.get?_map, listed]
    rfl

/-- If signal frames save the pc, then every frame finds that of its caller in memory. -/
theorem pcInMemory {offset : BitVec 64}
    (listed : (SavedRegisters.ofTable platform.config.signals.offsets).get? rip = some offset)
    {unwinder : Unwinder 64 ε FrameCache} {cache : FrameCache}
    (computed : (platform.scene registers snapshot).cache view = .ok (unwinder, cache)) :
    ∃ address, unwinder.previousRegister cache rip = .memory address := by
  obtain ⟨claimant, claimed, computed⟩ := bind_eq_ok.1 computed
  obtain ⟨cache', answered, same⟩ := bind_eq_ok.1 computed
  cases same
  -- Both unwinders look registers up in the same way, and both caches place the pc.
  have saved : unwinder.previousRegister = FrameCache.previousRegister ∧
      ∃ address, cache.saved.get? rip = some address := by
    rw [unwinder_eq] at claimed
    cases recognized : platform.config.signals.recognizes snapshot view.pc with
    | true =>
      rw [recognized] at claimed
      cases claimed
      exact ⟨rfl, savedPc_frameCache listed answered⟩
    | false =>
      rw [recognized] at claimed
      cases claimed
      exact ⟨rfl, savedPc_ofFunction answered⟩
  obtain ⟨usual, address, saved⟩ := saved
  rw [usual]
  exact ⟨address, FrameCache.previousRegister_of_saved (fun same => absurd same (by decide)) saved⟩

end Located

/-- Two frames that look the same, or cannot be found for the same reason. -/
inductive SameView : Except (Error ε) (View 64 ε) → Except (Error ε) (View 64 ε) → Prop where
  | found {first second : View 64 ε} (alike : first.Alike second) :
      SameView (.ok first) (.ok second)
  | lost (error : Error ε) : SameView (.error error) (.error error)

section Same

variable {one other : Except (Error ε) (View 64 ε)} (same : SameView one other)
include same

theorem SameView.bind_congr {α : Type} {next next' : View 64 ε → Except (Error ε) α}
    (further : ∀ {first second}, first.Alike second → next first = next' second) :
    one >>= next = other >>= next' := by
  cases same with
  | found alike => exact further alike
  | lost error => rfl

theorem SameView.bind {next next' : View 64 ε → Except (Error ε) (View 64 ε)}
    (further : ∀ {first second}, first.Alike second → SameView (next first) (next' second)) :
    SameView (one >>= next) (other >>= next') := by
  cases same with
  | found alike => exact further alike
  | lost error => exact .lost error

theorem SameView.found_or_lost :
    (∃ first second, one = .ok first ∧ other = .ok second ∧ first.Alike second) ∨
      ∃ error, one = .error error ∧ other = .error error := by
  cases same with
  | found alike => exact .inl ⟨_, _, rfl, rfl, alike⟩
  | lost error => exact .inr ⟨error, rfl, rfl⟩

end Same

end Amd64

def Caller.outward (distance : Nat) : Caller → Caller
  | .level outer => .level (distance + outer)
  | .stop reason => .stop reason

def BacktraceEntry.outward (distance : Nat) (entry : BacktraceEntry w) : BacktraceEntry w :=
  { entry with level := distance + entry.level }

def Backtrace.outward (distance : Nat) (backtrace : Backtrace w ε) : Backtrace w ε :=
  { backtrace with frames := backtrace.frames.map (·.outward distance) }

namespace Amd64

section Levels

variable {platform : Platform} {one other : RegisterCache registerFile} {snapshot : Snapshot 64 ε}

/-- Where the pc of a caller is saved depends on the frame alone. -/
theorem callerLocation_rip {registers : RegisterCache registerFile} {offset : BitVec 64}
    (listed : (SavedRegisters.ofTable platform.config.signals.offsets).get? rip = some offset)
    (level : Nat) :
    (platform.scene registers snapshot).callerLocation level rip =
      (platform.scene registers snapshot).view level >>= fun view =>
        (platform.scene registers snapshot).cache view >>= fun (unwinder, cache) =>
          match unwinder.previousRegister cache rip with
          | .memory address => .ok (.memory address)
          | _ => .ok .nowhere := by
  cases seen : (platform.scene registers snapshot).view level with
  | error error => cases level <;> rw [Scene.callerLocation, seen] <;> rfl
  | ok view =>
    rw [ok_bind]
    cases computed : (platform.scene registers snapshot).cache view with
    | error error => cases level <;> rw [Scene.callerLocation, seen, ok_bind, computed] <;> rfl
    | ok pair =>
      obtain ⟨unwinder, cache⟩ := pair
      obtain ⟨address, located⟩ := pcInMemory listed computed
      rw [Scene.callerLocation_of_memory seen computed located, ok_bind]
      simp only [located]

variable {distance : Nat}
  (start : SameView ((platform.scene one snapshot).view distance)
    ((platform.scene other snapshot).view 0))
include start

theorem sameView (level : Nat) :
    SameView ((platform.scene one snapshot).view (distance + level))
      ((platform.scene other snapshot).view level) := by
  -- A frame is found through its callee, which looks the same by induction.
  induction level with
  | zero => exact start
  | succ level ih =>
    apply ih.bind
    intro first second alike
    rw [callerPc_congr alike]
    cases (platform.scene other snapshot).callerPc second with
    | error error => exact .lost error
    | ok pc => exact .found (callerView_congr alike pc)

variable {offset : BitVec 64}
  (listed : (SavedRegisters.ofTable platform.config.signals.offsets).get? rip = some offset)
include listed

theorem callerLocation_congr (level : Nat) :
    (platform.scene one snapshot).callerLocation (distance + level) rip =
      (platform.scene other snapshot).callerLocation level rip := by
  rw [callerLocation_rip listed, callerLocation_rip listed]
  refine (sameView start level).bind_congr fun alike => ?_
  rw [cache_congr alike]

theorem repeatsSavedPc_congr (innerKind : FrameKind) (level : Nat) :
    (platform.scene one snapshot).repeatsSavedPc innerKind (distance + level) =
      (platform.scene other snapshot).repeatsSavedPc innerKind level := by
  unfold Scene.repeatsSavedPc
  split
  · rfl
  · refine (sameView start (level + 1)).bind_congr fun alike => ?_
    rw [kind_congr alike]
    apply congrArg
    funext kind
    split
    · rfl
    · change (platform.scene one snapshot).callerLocation (distance + (level + 1)) rip >>= _ =
        (platform.scene other snapshot).callerLocation (level + 1) rip >>= _
      rw [callerLocation_congr start listed]
      apply congrArg
      funext location
      split
      · rfl
      · change (platform.scene one snapshot).callerLocation (distance + level) rip >>= _ =
          (platform.scene other snapshot).callerLocation level rip >>= _
        rw [callerLocation_congr start listed]

theorem misplaced?_congr (frameId : FrameId 64) (level : Nat) :
    (platform.scene one snapshot).misplaced? frameId (distance + level) =
      (platform.scene other snapshot).misplaced? frameId level := by
  unfold Scene.misplaced?
  refine (sameView start level).bind_congr fun alike => ?_
  rw [kind_congr alike]
  apply congrArg
  funext kind
  refine (sameView start level).bind_congr fun alike => ?_
  rw [frameId_congr alike]
  simp only [repeatsSavedPc_congr start listed]
  rfl

theorem stopAt?_congr (level : Nat) :
    (platform.scene one snapshot).stopAt? (distance + (level + 1)) =
      (platform.scene other snapshot).stopAt? (level + 1) := by
  unfold Scene.stopAt?
  apply (sameView start (level + 1)).bind_congr
  intro first second alike
  have sameId : (platform.scene one snapshot).frameId first =
      (platform.scene other snapshot).frameId second := frameId_congr alike
  rw [alike.pc, sameId]
  by_cases zero : second.pc = 0
  · rw [if_pos ⟨Nat.zero_lt_succ _, zero⟩, if_pos ⟨Nat.zero_lt_succ _, zero⟩]
  · rw [if_neg (zero ·.2), if_neg (zero ·.2)]
    apply congrArg
    funext frameId
    cases frameId with
    | none => rfl
    | some frameId => exact misplaced?_congr start listed frameId level

variable (stop : (platform.scene one snapshot).stopAt? distance =
  (platform.scene other snapshot).stopAt? 0)
include stop

theorem caller_congr (level : Nat) :
    (platform.scene one snapshot).caller (distance + level) =
      ((platform.scene other snapshot).caller level).map (·.outward distance) := by
  -- Where the frames start to look the same, the one is innermost and the other need not be. So
  -- what makes the walk stop there is assumed to be the same.
  have stop' : (platform.scene one snapshot).stopAt? (distance + level) =
      (platform.scene other snapshot).stopAt? level := by
    cases level with
    | zero => exact stop
    | succ level => exact stopAt?_congr start listed level
  cases stops : (platform.scene other snapshot).stopAt? level with
  | error error =>
    rw [Scene.caller_of_error (stop'.trans stops), Scene.caller_of_error stops]
    rfl
  | ok reason =>
    cases reason with
    | some reason =>
      rw [Scene.caller_of_stop (stop'.trans stops), Scene.caller_of_stop stops]
      rfl
    | none =>
      rw [Scene.caller_of_no_stop (stop'.trans stops), Scene.caller_of_no_stop stops]
      obtain ⟨_, _, seen, seen', _⟩ | ⟨error, lost, lost'⟩ :=
        (sameView start (level + 1)).found_or_lost
      · rw [Nat.add_assoc, seen, seen']
        rfl
      · rw [Nat.add_assoc, lost, lost']
        rfl

omit start stop listed in
theorem entry_congr {level : Nat} {first second : View 64 ε} (alike : first.Alike second)
    (seen : (platform.scene one snapshot).view (distance + level) = .ok first)
    (seen' : (platform.scene other snapshot).view level = .ok second) :
    (platform.scene one snapshot).entry first =
      ((platform.scene other snapshot).entry second).outward distance := by
  have sameKind : (platform.scene one snapshot).kind first =
      (platform.scene other snapshot).kind second := kind_congr alike
  have sameId : (platform.scene one snapshot).frameId first =
      (platform.scene other snapshot).frameId second := frameId_congr alike
  unfold Scene.entry
  rw [Scene.level_of_view seen, Scene.level_of_view seen', alike.pc, sameKind, sameId]
  rfl

theorem backtraceFrom_congr (level limit : Nat) :
    (platform.scene one snapshot).backtraceFrom (distance + level) limit =
      ((platform.scene other snapshot).backtraceFrom level limit).map (·.outward distance) := by
  -- The entry, the caller and the rest of the walk are the same one by one.
  induction limit generalizing level with
  | zero => rfl
  | succ limit ih =>
    unfold Scene.backtraceFrom
    rw [caller_congr start listed stop]
    obtain ⟨first, second, seen, seen', alike⟩ | ⟨error, lost, lost'⟩ :=
      (sameView start level).found_or_lost
    · rw [seen, seen', ok_bind, ok_bind, entry_congr alike seen seen']
      cases (platform.scene other snapshot).caller level with
      | error error => rfl
      | ok caller =>
        cases caller with
        | stop reason => rfl
        | level outer =>
          simp only [Except.map, Caller.outward]
          rw [ih]
          cases (platform.scene other snapshot).backtraceFrom outer limit <;> rfl
    · rw [lost, lost']
      rfl

end Levels

end Amd64

end Inferior

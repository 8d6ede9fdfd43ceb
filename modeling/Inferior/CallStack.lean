import Inferior.Frame.Query

/-! The call stack of a stopped program: its frames, from the innermost one outwards.

Frames are found one by one, and what has been found out about a frame is kept: its unwinder,
its cache, its id and its caller. A computation that fails leaves nothing behind and is tried
again when it is next asked for. The registers of a frame are those that the next inner frame
recovers, and the registers of the innermost frame are those of the thread.
-/

set_option autoImplicit false

namespace Inferior

structure KnownFrame (w : Nat) (ε κ : Type) where
  pc : BitVec w
  unwinder : Option (Unwinder w ε κ) := none
  cache : CacheStage κ := .uncomputed
  frameId : Option (Option (FrameId w)) := none
  caller : Option Caller := none

/-- The frames found so far, how many of their caches have been computed, and the state of the
target. -/
structure CallStack (w : Nat) (ε κ τ : Type) where
  frames : Array (KnownFrame w ε κ)
  computations : Nat
  memory : τ

/-- What a call stack is walked with: the unwinders are tried in order. -/
structure Walker (w : Nat) (ε κ τ : Type) where
  architecture : Architecture w
  target : Target w ε τ
  registers : RegisterCache architecture.file
  unwinders : List (Unwinder w ε κ)

namespace Walker

variable {w : Nat} {ε κ τ α β : Type}

abbrev Walk (w : Nat) (ε κ τ α : Type) := Attempt (CallStack w ε κ τ) (Error ε) α

def addressOf (bytes : Bytes) : Except (Error ε) (BitVec w) :=
  match Address.ofBytes? bytes with
  | some address => pure address
  | none => throw (.internal "register value does not fit in an address")

theorem addressOf_eq_ok (bytes : Bytes) :
    ∃ address : BitVec w, (addressOf bytes : Except (Error ε) _) = .ok address := by
  unfold addressOf
  rw [Address.ofBytes?_eq_some]
  exact ⟨_, rfl⟩

/-- The call stack of which only the innermost frame is known. -/
def start (walker : Walker w ε κ τ) (memory : τ) : Except (Error ε) (CallStack w ε κ τ) := do
  let bytes ← (walker.registers.read walker.architecture.programCounter).mapError .register
  let pc ← addressOf bytes
  return { frames := #[{ pc }], computations := 0, memory }

def onTarget {ε' : Type} (wrap : ε' → Error ε) (access : Attempt τ ε' α) : Walk w ε κ τ α :=
  (access.mapError wrap).zoom CallStack.memory fun memory stack => { stack with memory }

def known (level : Nat) : Walk w ε κ τ (KnownFrame w ε κ) := do
  match (← get).frames[level]? with
  | some frame => pure frame
  | none => throw (.internal "frame level out of range")

def updateFrame (level : Nat) (change : KnownFrame w ε κ → KnownFrame w ε κ) : Walk w ε κ τ Unit :=
  modify fun stack => { stack with frames := stack.frames.modify level change }

/-- What a frame gets to know from the next inner one. -/
structure Inner (w : Nat) (ε κ τ : Type) where
  kind : Walk w ε κ τ (Option FrameKind)
  register : Nat → Walk w ε κ τ Bytes

def answer (walker : Walker w ε κ τ) (inner : Inner w ε κ τ) :
    FrameQuery w ε α → Walk w ε κ τ α
  | .done result => Attempt.ofExcept result
  | .innerKind resume => do
    walker.answer inner (resume (← inner.kind.result))
  | .register number resume => do
    walker.answer inner (resume (← (inner.register number).result))
  | .memory address length resume => do
    walker.answer inner (resume (← (onTarget .target (walker.target.read address length)).result))
  | .functionEntry address resume => do
    walker.answer inner (resume (← onTarget id (walker.target.functionEntry address)))

/-- To answer a series of questions is to answer its parts one after the other. -/
theorem answer_bind (walker : Walker w ε κ τ) (inner : Inner w ε κ τ) (query : FrameQuery w ε α)
    (next : α → FrameQuery w ε β) :
    walker.answer inner (query >>= next) =
      walker.answer inner query >>= fun value => walker.answer inner (next value) := by
  change walker.answer inner (query.bind next) = _
  induction query with
  | done result => cases result <;> rfl
  | _ => simp_all [FrameQuery.bind, answer]

def claimant (walker : Walker w ε κ τ) (inner : Inner w ε κ τ) (level : Nat) (pc : BitVec w) :
    List (Unwinder w ε κ) → Walk w ε κ τ (Unwinder w ε κ)
  | [] => throw (.noUnwinder level)
  | unwinder :: rest => do
    if ← walker.answer inner (unwinder.claims pc) then pure unwinder
    else walker.claimant inner level pc rest

def unwinderAt (walker : Walker w ε κ τ) (inner : Inner w ε κ τ) (level : Nat) :
    Walk w ε κ τ (Unwinder w ε κ) := do
  let frame ← known level
  match frame.unwinder with
  | some unwinder => pure unwinder
  | none =>
    let unwinder ← walker.claimant inner level frame.pc walker.unwinders
    updateFrame level ({ · with unwinder := some unwinder })
    return unwinder

/-- Compute the cache of a frame, which counts as being computed until it is there. -/
def computeCache (walker : Walker w ε κ τ) (inner : Inner w ε κ τ) (level : Nat) :
    Walk w ε κ τ Unit := do
  let unwinder ← walker.unwinderAt inner level
  updateFrame level ({ · with cache := .computing })
  match ← (walker.answer inner (unwinder.cache (← known level).pc)).result with
  | .ok cache =>
    modify fun stack => { stack with computations := stack.computations + 1 }
    updateFrame level ({ · with cache := .ready cache })
  | .error error =>
    updateFrame level ({ · with cache := .uncomputed })
    throw error

def cacheAt (walker : Walker w ε κ τ) (inner : Inner w ε κ τ) (level : Nat) :
    Walk w ε κ τ (Unwinder w ε κ × κ) := do
  match (← known level).cache with
  | .ready _ => pure ()
  | .computing => throw (.cacheRecursion level)
  | .uncomputed => walker.computeCache inner level
  let frame ← known level
  match frame.unwinder, frame.cache with
  | some unwinder, .ready cache => pure (unwinder, cache)
  | _, _ => throw (.internal "frame cache missing after computation")

/-- The caller's value of a register. A computed value is an address, of which a shorter
register keeps the low bytes. -/
def unwindFrom (walker : Walker w ε κ τ) (inner : Inner w ε κ τ) (level number : Nat) :
    Walk w ε κ τ Bytes := do
  let size ← Attempt.ofExcept ((walker.registers.size number).mapError .register)
  let (unwinder, cache) ← walker.cacheAt inner level
  match unwinder.previousRegister cache number with
  | .constant value =>
    let room := Bytes.zeros (max size (Address.width w))
    match LittleEndian.write? (Address.width w) value.toNat room with
    | some bytes => pure (bytes.take size)
    | none => throw (.internal "address does not fit in buffer")
  | .memory address => do
    let block ← onTarget .target (walker.target.read address size)
    return block.val
  | .register other => inner.register other

/-- What the frame at a level gets to know from the next inner one, which is not looked at before
something is asked. -/
def inner (walker : Walker w ε κ τ) : (level : Nat) → Inner w ε κ τ
  | 0 => {
    kind := pure none
    register number := Attempt.ofExcept ((walker.registers.read number).mapError .register) }
  | level + 1 => {
    kind := do
      let _ ← known level
      return some (← walker.unwinderAt (walker.inner level) level).kind
    register number := walker.unwindFrom (walker.inner level) level number }

def ask (walker : Walker w ε κ τ) (level : Nat) (query : FrameQuery w ε α) : Walk w ε κ τ α :=
  walker.answer (walker.inner level) query

def pcAt (level : Nat) : Walk w ε κ τ (BitVec w) := do
  return (← known level).pc

def kindAt (walker : Walker w ε κ τ) (level : Nat) : Walk w ε κ τ FrameKind := do
  return (← walker.unwinderAt (walker.inner level) level).kind

def idAt (walker : Walker w ε κ τ) (level : Nat) : Walk w ε κ τ (Option (FrameId w)) := do
  let frame ← known level
  match frame.frameId with
  | some frameId => pure frameId
  | none =>
    let (unwinder, cache) ← walker.cacheAt (walker.inner level) level
    let frameId := unwinder.frameId cache frame.pc
    updateFrame level ({ · with frameId := some frameId })
    return frameId

def baseAt (walker : Walker w ε κ τ) (level : Nat) : Walk w ε κ τ (BitVec w) := do
  let (unwinder, cache) ← walker.cacheAt (walker.inner level) level
  return unwinder.base cache

def registerAt (walker : Walker w ε κ τ) (level number : Nat) : Walk w ε κ τ Bytes := do
  let _ ← known level
  (walker.inner level).register number

def addressAt (walker : Walker w ε κ τ) (level number : Nat) : Walk w ε κ τ (BitVec w) := do
  Attempt.ofExcept (addressOf (← walker.registerAt level number))

def callerRegister (walker : Walker w ε κ τ) (level number : Nat) : Walk w ε κ τ Bytes :=
  walker.unwindFrom (walker.inner level) level number

end Walker

end Inferior

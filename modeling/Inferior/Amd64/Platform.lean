import Inferior.Amd64.Arguments
import Inferior.Amd64.Fxsave
import Inferior.Amd64.Trampoline

/-! What depends on the operating system: signal frames, the register sets of core files and the
buffers of long jumps. A configuration is checked as a whole, and a platform is one that has
passed.
-/

set_option autoImplicit false

namespace Inferior.Amd64

/-- What becomes of a sum of lengths that does not fit into 64 bits. -/
inductive Overflow where
  /-- Sums are checked, and the program stops. -/
  | stops
  | wraps
  deriving DecidableEq, Repr

def Overflow.add (overflow : Overflow) (first second : Nat) : Option Nat :=
  if first + second < 1 <<< 64 then some (first + second)
  else match overflow with
    | .stops => none
    | .wraps => some ((first + second) % (1 <<< 64))

theorem Overflow.add_eq_iff {overflow : Overflow} {first second : Nat} :
    overflow.add first second = some (first + second) ↔ first + second < 1 <<< 64 := by
  unfold Overflow.add
  by_cases small : first + second < 1 <<< 64
  · rw [if_pos small]
    exact iff_of_true rfl small
  · rw [if_neg small]
    cases overflow with
    | stops => exact iff_of_false nofun small
    | wraps =>
      have wrapped := Nat.mod_lt (first + second) (by decide : 0 < 1 <<< 64)
      exact iff_of_false (fun same => small (Option.some.inj same ▸ wrapped)) small

/-- How the sections of core files with the general registers are laid out. -/
structure GeneralSet where
  table : OffsetTable
  size : Nat
  deriving DecidableEq, Repr

/-- A configuration of a platform. The default supports nothing. -/
structure Config where
  signals : SignalLayout := {}
  general : Option GeneralSet := none
  floatSize : Nat := Fxsave.areaSize
  jumpPcOffset : Option (BitVec 64) := none
  deriving DecidableEq, Repr

inductive ConfigError where
  | registerTable (error : RegisterFile.TableError)
  | tableTooLong (table : String) (length limit : Nat)
  | generalSetTooSmall (needed size : Nat)
  /-- Only one of a signal context and a table of the registers in it is given. -/
  | incompleteContext
  | emptyTrampolineRange
  | badTrampolineCode
  deriving DecidableEq, Repr

def ConfigError.message : ConfigError → String
  | .registerTable error => error.message
  | .tableTooLong table length limit =>
    s!"register table `{table}` has {length} entries, but at most {limit} are allowed"
  | .generalSetTooSmall needed size =>
    s!"gregset offsets need {needed} bytes, but the gregset is only {size} bytes long"
  | .incompleteContext =>
    "a sigcontext locator and a sigcontext register offset table must be configured together"
  | .emptyTrampolineRange => "signal trampoline range is empty"
  | .badTrampolineCode => "signal trampoline entry offsets must lie within the trampoline code"

namespace Config

/-- Tables cover at most the general registers. -/
def checkLength (table : String) (length : Nat) : Except ConfigError Unit :=
  if length > generalCount then throw (.tableTooLong table length generalCount) else pure ()

def checkLocator : ContextLocator → Except ConfigError Unit
  | .stack _ => pure ()
  | .register number _ => (registerFile.checkTable "sigcontext" [number]).mapError .registerTable

def checkCode (trampoline : TrampolineCode) : Except ConfigError Unit :=
  if trampoline.entries.isEmpty || trampoline.entries.any (trampoline.code.length ≤ ·) then
    throw .badTrampolineCode
  else pure ()

def checkSignals (layout : SignalLayout) : Except ConfigError Unit := do
  if layout.context.isSome = layout.offsets.isEmpty then throw .incompleteContext
  checkLength "sc_reg_offset" layout.offsets.length
  layout.context.forM checkLocator
  if layout.range.any fun range => range.stop ≤ range.start then throw .emptyTrampolineRange
  layout.code.forM checkCode

/-- The end of a register's slot. If it does not fit into 64 bits, the program stops, and there is no
more of a platform than if the set is too small. -/
def slotEnd (general : GeneralSet) (number offset : Nat) : Except ConfigError Nat :=
  match registerFile.size? number with
  | none => throw (.registerTable ⟨"gregset_reg_offset", number, number⟩)
  | some size =>
    match Overflow.stops.add offset size with
    | some stop => pure stop
    | none => throw (.generalSetTooSmall (offset + size) general.size)

def lengthNeeded (general : GeneralSet) : Except ConfigError Nat :=
  (general.table.selected .all).foldlM (fun needed (number, offset) => do
    return max needed (← slotEnd general number offset)) 0

def checkGeneral (general : GeneralSet) : Except ConfigError Unit := do
  checkLength "gregset_reg_offset" general.table.length
  let needed ← lengthNeeded general
  if needed > general.size then throw (.generalSetTooSmall needed general.size)

def check (config : Config) : Except ConfigError Unit := do
  checkSignals config.signals
  config.general.forM checkGeneral

def generalSize (config : Config) : Nat := (config.general.map GeneralSet.size).getD 0

end Config

structure Platform where
  config : Config
  checked : config.check = .ok ()

namespace Platform

def ofConfig (config : Config) : Except ConfigError Platform :=
  match checked : config.check with
  | .ok () => pure ⟨config, checked⟩
  | .error error => throw error

/-- The unwinders of a platform: signal trampolines come first, since the unwinder for functions
claims every frame. -/
def unwinders (ε : Type) (platform : Platform) : List (Unwinder 64 ε FrameCache) :=
  [platform.config.signals.unwinder ε, functionUnwinder ε]

def generalSection : String := ".reg"

def floatSection : String := ".reg2"

/-- The register sets of core files; a platform without a layout of the general registers has
none. -/
def registerSets (platform : Platform) : List (RegisterSet registerFile) :=
  match platform.config.general with
  | none => []
  | some general => [⟨generalSection, .exactly general.size, general.table.codec⟩,
      ⟨floatSection, .exactly platform.config.floatSize, Fxsave.codec⟩]

def registerSet? (platform : Platform) (name : String) (length : Nat) :
    Option (RegisterSet registerFile) :=
  RegisterSet.select? platform.registerSets name length

/-- Where a long jump that is about to be made will land: the buffer is the one that `rdi` points
to. There is no answer if the layout of the buffer is unknown or the buffer cannot be read. -/
def jumpTarget {ε τ : Type} (platform : Platform) (target : Target 64 ε τ)
    (registers : RegisterCache registerFile) : StateM τ (Option (BitVec 64)) := do
  let some offset := platform.config.jumpPcOffset | return none
  let .ok buffer := registers.readUnsigned rdi | return none
  match ← (target.read (BitVec.ofNat 64 buffer + offset) 8).run with
  | .ok block => return some (BitVec.ofNat 64 (LittleEndian.value block.val))
  | .error _ => return none

end Platform

end Inferior.Amd64

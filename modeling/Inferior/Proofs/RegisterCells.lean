import Mathlib.Algebra.Ring.Nat
import Mathlib.Logic.Function.Basic
import Inferior.Attempt
import Inferior.RegisterCache

/-! A register cache as a map of cells that have nothing to do with each other.

The registers of a cache share one image. Here each of them is a cell of its own, and a second account
of the operations is given in which an operation sees the cell of its register and no other. A cache
that starts out empty cannot be told from such a map.
-/

set_option autoImplicit false

namespace Inferior

theorem Bytes.overwrite_eq {bytes patch : Bytes} {offset : Nat}
    (fits : offset + patch.length ≤ bytes.length) :
    bytes.overwrite offset patch =
      bytes.take offset ++ patch ++ bytes.drop (offset + patch.length) := by
  have inside : (bytes.take offset ++ patch).length ≤ bytes.length := by
    rw [List.length_append, List.length_take]
    omega
  rw [overwrite, List.take_of_length_le inside]

theorem Bytes.overwrite_zero (bytes patch : Bytes) :
    bytes.overwrite 0 patch = patch.take bytes.length ++ bytes.drop patch.length := by
  simp [overwrite]

namespace LittleEndian

def twosComplement (width number : Nat) : Int :=
  if 2 * number < 256 ^ width then number else (number : Int) - (256 ^ width : Nat)

def signedValue (bytes : Bytes) : Int := twosComplement bytes.length (value bytes)

theorem capacity_eq_pow (width : Nat) : capacity width = 256 ^ width := by
  induction width with
  | zero => rfl
  | succ width ih => rw [capacity, ih, pow_succ, Nat.mul_comm]

theorem capacity_eq_shiftLeft (width : Nat) : capacity width = 1 <<< (8 * width) := by
  induction width with
  | zero => rfl
  | succ width ih => rw [capacity, ih, Nat.mul_succ, Nat.shiftLeft_add, Nat.shiftLeft_eq _ 8,
      Nat.mul_comm]

theorem toInt_value (bytes : Bytes) :
    (BitVec.ofNat (8 * bytes.length) (value bytes)).toInt = signedValue bytes := by
  have small := value_lt bytes
  rw [signedValue, twosComplement, ← capacity_eq_pow, capacity_eq_shiftLeft, Nat.shiftLeft_eq,
    Nat.one_mul]
  rw [capacity_eq_shiftLeft, Nat.shiftLeft_eq, Nat.one_mul] at small
  rw [BitVec.toInt_eq_toNat_cond, BitVec.toNat_ofNat, Nat.mod_eq_of_lt small]

end LittleEndian

/-- A register apart from all others. -/
structure RegisterCell where
  status : RegisterStatus
  bytes : Bytes
  deriving DecidableEq, Repr

inductive RegisterOperation where
  | size
  | status
  | supply (value : Option Bytes)
  | collect (buffer : Bytes)
  | read (buffer : Bytes)
  | write (value : Bytes)
  | readPart (offset length : Nat)
  | writePart (offset : Nat) (value : Bytes)
  | readUnsigned
  | readSigned
  | writeUnsigned (value : Nat)
  | forget

inductive RegisterAnswer where
  | done
  | size (size : Nat)
  | status (status : RegisterStatus)
  | bytes (bytes : Bytes)
  /-- The size of a register, and a buffer into which it has been read. -/
  | filled (size : Nat) (buffer : Bytes)
  | unsigned (value : Nat)
  | signed (value : Int)
  deriving DecidableEq, Repr

structure RegisterCall where
  number : Nat
  operation : RegisterOperation

namespace RegisterCache

variable {file : RegisterFile}

def look (question : RegisterCache file → Except RegisterError RegisterAnswer) :
    Attempt (RegisterCache file) RegisterError RegisterAnswer := do
  Attempt.ofExcept (question (← get))

def change (operation : RegisterCache file → Except RegisterError (RegisterCache file)) :
    Attempt (RegisterCache file) RegisterError RegisterAnswer := do
  set (← Attempt.ofExcept (operation (← get)))
  return .done

def perform (number : Nat) :
    RegisterOperation → Attempt (RegisterCache file) RegisterError RegisterAnswer
  | .size => look fun cache => (cache.size number).map .size
  | .status => look fun cache => (cache.status number).map .status
  | .collect buffer => look fun cache => (cache.collect number buffer).map .bytes
  | .read buffer => look fun cache =>
    (cache.readInto number buffer).map fun (size, filled) => .filled size filled
  | .readPart offset length => look fun cache => (cache.readPart number offset length).map .bytes
  | .readUnsigned => look fun cache => (cache.readUnsigned number).map .unsigned
  | .readSigned => look fun cache => (cache.readSigned number).map .signed
  | .supply value => change (·.supply number value)
  | .write value => change (·.write number value)
  | .writePart offset value => change (·.writePart number offset value)
  | .writeUnsigned value => change (·.writeUnsigned number value)
  | .forget => change (·.forget number)

def step (cache : RegisterCache file) (call : RegisterCall) :
    Except RegisterError RegisterAnswer × RegisterCache file :=
  Attempt.run (perform call.number call.operation) cache

/-- A cache after a series of operations, some of which may have failed. -/
def after (history : List RegisterCall) (cache : RegisterCache file) : RegisterCache file :=
  history.foldl (fun cache call => (cache.step call).2) cache

end RegisterCache

namespace RegisterCell

def blank (size : Nat) (status : RegisterStatus) : RegisterCell := ⟨status, Bytes.zeros size⟩

def part (cell : RegisterCell) (number offset length : Nat) : Except RegisterError Bytes :=
  if cell.bytes.length < offset + length then .error (.outOfBounds number offset length)
  else if cell.status ≠ .valid then .error (.unavailable number)
  else .ok ((cell.bytes.drop offset).take length)

def low (cell : RegisterCell) (number : Nat) : Except RegisterError Bytes :=
  cell.part number 0 (min cell.bytes.length 8)

def patched (cell : RegisterCell) (number offset : Nat) (value : Bytes) :
    Except RegisterError RegisterCell :=
  if cell.bytes.length < offset + value.length then .error (.outOfBounds number offset value.length)
  else .ok ⟨.valid, cell.bytes.take offset ++ value ++ cell.bytes.drop (offset + value.length)⟩

def supplied (cell : RegisterCell) : Option Bytes → RegisterCell
  | some value => ⟨.valid, value.resize cell.bytes.length⟩
  | none => blank cell.bytes.length .unavailable

def written (cell : RegisterCell) (number : Nat) (value : Bytes) : Except RegisterError RegisterCell :=
  if value.length = cell.bytes.length then .ok ⟨.valid, value⟩
  else .error (.outOfBounds number 0 value.length)

def perform (cell : RegisterCell) (number : Nat) :
    RegisterOperation → Except RegisterError (RegisterAnswer × RegisterCell)
  | .size => .ok (.size cell.bytes.length, cell)
  | .status => .ok (.status cell.status, cell)
  | .collect buffer =>
    .ok (.bytes (cell.bytes.take buffer.length ++ buffer.drop cell.bytes.length), cell)
  | .read buffer =>
    (cell.part number 0 (min cell.bytes.length buffer.length)).map fun value =>
      (.filled cell.bytes.length (value ++ buffer.drop value.length), cell)
  | .readPart offset length =>
    (cell.part number offset length).map fun bytes => (.bytes bytes, cell)
  | .readUnsigned =>
    (cell.low number).map fun bytes => (.unsigned (LittleEndian.value bytes), cell)
  | .readSigned =>
    (cell.low number).map fun bytes => (.signed (LittleEndian.signedValue bytes), cell)
  | .supply value => .ok (.done, cell.supplied value)
  | .write value => (cell.written number value).map fun next => (.done, next)
  | .writePart offset value => (cell.patched number offset value).map fun next => (.done, next)
  | .writeUnsigned value =>
    .ok (.done, ⟨.valid, (LittleEndian.digits 8 value).resize cell.bytes.length⟩)
  | .forget => .ok (.done, blank cell.bytes.length .unknown)

theorem length_of_part {cell : RegisterCell} {number offset length : Nat} {bytes : Bytes}
    (found : cell.part number offset length = .ok bytes) : bytes.length = length := by
  unfold part at found
  split at found
  · cases found
  · split at found
    · cases found
    · cases found
      rw [List.length_take, List.length_drop]
      omega

theorem length_of_low {cell : RegisterCell} {number : Nat} {bytes : Bytes}
    (found : cell.low number = .ok bytes) : bytes.length = min cell.bytes.length 8 :=
  length_of_part found

end RegisterCell

abbrev RegisterCells := Nat → Option RegisterCell

namespace RegisterCells

def initial (file : RegisterFile) : RegisterCells := fun number =>
  if number < file.count then some (.blank (file.width number) .unknown) else none

/-- Put a cell back after an operation that has not failed. -/
def settle (cells : RegisterCells) (number : Nat) :
    Except RegisterError (RegisterAnswer × RegisterCell) →
      Except RegisterError RegisterAnswer × RegisterCells
  | .error error => (.error error, cells)
  | .ok (answer, next) => (.ok answer, Function.update cells number (some next))

/-- An operation sees the cell of its register and nothing else. -/
def step (cells : RegisterCells) (call : RegisterCall) :
    Except RegisterError RegisterAnswer × RegisterCells :=
  match cells call.number with
  | none => (.error (.invalidRegister call.number), cells)
  | some cell => cells.settle call.number (cell.perform call.number call.operation)

def after (history : List RegisterCall) (cells : RegisterCells) : RegisterCells :=
  history.foldl (fun cells call => (cells.step call).2) cells

end RegisterCells

namespace RegisterCache

variable {file : RegisterFile}

theorem run_look (question : RegisterCache file → Except RegisterError RegisterAnswer)
    (cache : RegisterCache file) : Attempt.run (look question) cache = (question cache, cache) := rfl

theorem run_change (operation : RegisterCache file → Except RegisterError (RegisterCache file))
    (cache : RegisterCache file) :
    Attempt.run (change operation) cache =
      match operation cache with
      | .ok next => (.ok .done, next)
      | .error error => (.error error, cache) := by
  simp only [change, Attempt.run_bind, Attempt.run_get, Attempt.run_ofExcept]
  cases operation cache <;> rfl

def cells (cache : RegisterCache file) : RegisterCells := fun number =>
  cache.statuses[number]?.map (⟨·, cache.bytes number⟩)

theorem cells_empty (file : RegisterFile) : (empty file).cells = .initial file := by
  funext number
  simp only [cells, RegisterCells.initial, bytes_empty]
  simp only [empty, List.getElem?_replicate]
  split <;> rfl

theorem cells_eq_some {cache : RegisterCache file} {number : Nat} {cell : RegisterCell}
    (held : cache.cells number = some cell) :
    cache.size number = .ok cell.bytes.length ∧ cache.status number = .ok cell.status ∧
      cache.bytes number = cell.bytes ∧ file.width number = cell.bytes.length := by
  obtain ⟨status, found, rfl⟩ := Option.map_eq_some_iff.1 held
  have known : number < file.count := by
    have inside := (List.getElem?_eq_some_iff.1 found).1
    rwa [cache.length_statuses] at inside
  have size : cache.size number = .ok (file.width number) := if_pos known
  refine ⟨?_, ?_, rfl, (cache.length_bytes number).symm⟩
  · rw [size, length_bytes]
  · rw [RegisterCache.status, found]
    rfl

theorem cells_eq_none {cache : RegisterCache file} {number : Nat} (none : cache.cells number = none) :
    cache.size number = .error (.invalidRegister number) ∧
      cache.status number = .error (.invalidRegister number) := by
  have beyond := Option.map_eq_none_iff.1 none
  constructor
  · rw [List.getElem?_eq_none_iff, cache.length_statuses] at beyond
    exact if_neg (Nat.not_lt.2 beyond)
  · rw [RegisterCache.status, beyond]
    rfl

theorem cells_store {cache : RegisterCache file} {number offset : Nat} {cell : RegisterCell}
    (held : cache.cells number = some cell) {patch : Bytes} (status : RegisterStatus)
    (fits : offset + patch.length ≤ cell.bytes.length) :
    (cache.store number offset patch status).cells =
      Function.update cache.cells number (some ⟨status,
        cell.bytes.take offset ++ patch ++ cell.bytes.drop (offset + patch.length)⟩) := by
  obtain ⟨_, _, content, width⟩ := cells_eq_some held
  obtain ⟨_, found, _⟩ := Option.map_eq_some_iff.1 held
  have inside := (List.getElem?_eq_some_iff.1 found).1
  funext other
  -- The patch lies within the span of its own register, and the spans of the others lie beside it.
  by_cases same : other = number
  · subst same
    rw [Function.update_self, cells, bytes_store cache other offset status (width ▸ fits), content,
      Bytes.overwrite_eq fits]
    simp [store, List.getElem?_set_self inside]
  · rw [Function.update_of_ne same, cells, cells, bytes_store_of_ne cache status (width ▸ fits) same]
    simp [store, List.getElem?_set_ne (Ne.symm same)]

/-- Replacing a register as a whole leaves nothing of what it held. -/
theorem cells_store_whole {cache : RegisterCache file} {number : Nat} {cell : RegisterCell}
    (held : cache.cells number = some cell) {value : Bytes} (status : RegisterStatus)
    (sized : value.length = cell.bytes.length) :
    (cache.store number 0 value status).cells =
      Function.update cache.cells number (some ⟨status, value⟩) := by
  rw [cells_store held status (by omega)]
  simp [sized]

/-- An operation replaces the cell of a register, or fails. -/
def Replaces (cache : RegisterCache file) (outcome : Except RegisterError (RegisterCache file))
    (number : Nat) (result : Except RegisterError RegisterCell) : Prop :=
  outcome.map cells = result.map fun next => Function.update cache.cells number (some next)

section Known

variable {cache : RegisterCache file} {number : Nat} {cell : RegisterCell}
  (held : cache.cells number = some cell)
include held

theorem readPart_eq_part (offset length : Nat) :
    cache.readPart number offset length = cell.part number offset length := by
  obtain ⟨size, status, content, -⟩ := cells_eq_some held
  unfold readPart RegisterCell.part
  rw [size, ok_bind, content]
  split
  · rfl
  · change (cache.status number >>= _) = _
    rw [status, ok_bind]
    split <;> rfl

theorem readUnsigned_eq_low :
    cache.readUnsigned number = (cell.low number).map LittleEndian.value := by
  obtain ⟨size, -⟩ := cells_eq_some held
  unfold readUnsigned RegisterCell.low
  rw [size, ok_bind]
  dsimp only
  rw [readPart_eq_part held]
  cases cell.part number 0 (min cell.bytes.length 8) <;> rfl

theorem readSigned_eq_low :
    cache.readSigned number = (cell.low number).map LittleEndian.signedValue := by
  obtain ⟨size, -⟩ := cells_eq_some held
  unfold readSigned
  rw [size, ok_bind]
  dsimp only
  rw [readUnsigned_eq_low held]
  cases found : cell.low number with
  | error error => rfl
  | ok bytes =>
    rw [← RegisterCell.length_of_low found]
    exact congrArg Except.ok (LittleEndian.toInt_value bytes)

theorem readInto_eq_part (buffer : Bytes) :
    cache.readInto number buffer =
      (cell.part number 0 (min cell.bytes.length buffer.length)).map fun value =>
        (cell.bytes.length, value ++ buffer.drop value.length) := by
  obtain ⟨size, -⟩ := cells_eq_some held
  unfold readInto
  rw [size, ok_bind, readPart_eq_part held]
  cases found : cell.part number 0 (min cell.bytes.length buffer.length) with
  | error error => rfl
  | ok value =>
    have short : value.length ≤ buffer.length := by
      rw [RegisterCell.length_of_part found]
      exact Nat.min_le_right _ _
    change Except.ok (_, buffer.overwrite 0 value) = _
    rw [Bytes.overwrite_zero, List.take_of_length_le short]
    rfl

theorem supply_replaces (value : Option Bytes) :
    cache.Replaces (cache.supply number value) number (.ok (cell.supplied value)) := by
  obtain ⟨size, -⟩ := cells_eq_some held
  unfold Replaces supply
  rw [size, ok_bind]
  cases value with
  | some value =>
    exact congrArg Except.ok (cells_store_whole held .valid (Bytes.length_resize value _))
  | none => exact congrArg Except.ok (cells_store_whole held .unavailable (Bytes.length_zeros _))

theorem forget_replaces :
    cache.Replaces (cache.forget number) number (.ok (.blank cell.bytes.length .unknown)) := by
  obtain ⟨size, -⟩ := cells_eq_some held
  unfold Replaces forget
  rw [size, ok_bind]
  exact congrArg Except.ok (cells_store_whole held .unknown (Bytes.length_zeros _))

theorem writePart_replaces (offset : Nat) (value : Bytes) :
    cache.Replaces (cache.writePart number offset value) number
      (cell.patched number offset value) := by
  obtain ⟨size, -⟩ := cells_eq_some held
  unfold Replaces writePart RegisterCell.patched
  rw [size, ok_bind]
  split
  · rfl
  · exact congrArg Except.ok (cells_store held .valid (by omega))

theorem write_replaces (value : Bytes) :
    cache.Replaces (cache.write number value) number (cell.written number value) := by
  obtain ⟨size, -⟩ := cells_eq_some held
  unfold write RegisterCell.written
  rw [size, ok_bind]
  by_cases sized : value.length = cell.bytes.length
  · have whole : cell.patched number 0 value = .ok ⟨.valid, value⟩ := by
      simp [RegisterCell.patched, sized]
    rw [if_neg (not_not.2 sized), if_pos sized, ← whole]
    exact writePart_replaces held 0 value
  · rw [if_pos sized, if_neg sized]
    rfl

theorem writeUnsigned_replaces (value : Nat) :
    cache.Replaces (cache.writeUnsigned number value) number
      (.ok ⟨.valid, (LittleEndian.digits 8 value).resize cell.bytes.length⟩) := by
  obtain ⟨size, -⟩ := cells_eq_some held
  have whole := write_replaces held ((LittleEndian.digits 8 value).resize cell.bytes.length)
  unfold writeUnsigned
  rw [size, ok_bind]
  rwa [RegisterCell.written, if_pos (Bytes.length_resize _ _)] at whole

theorem look_cells {question : RegisterCache file → Except RegisterError RegisterAnswer}
    {result : Except RegisterError (RegisterAnswer × RegisterCell)}
    (answers : result = (question cache).map fun answer => (answer, cell)) :
    Prod.map id cells (Attempt.run (look question) cache) = cache.cells.settle number result := by
  subst answers
  have same := Function.update_eq_self number cache.cells
  rw [held] at same
  rw [run_look]
  cases question cache with
  | error error => rfl
  | ok answer => exact congrArg (Prod.mk _) same.symm

omit held in
theorem Replaces.change (operation : RegisterCache file → Except RegisterError (RegisterCache file))
    {result : Except RegisterError RegisterCell}
    (replaces : cache.Replaces (operation cache) number result) :
    Prod.map id cells (Attempt.run (change operation) cache) =
      cache.cells.settle number (result.map fun next => (.done, next)) := by
  unfold Replaces at replaces
  rw [run_change]
  cases changed : operation cache with
  | error error =>
    rw [changed] at replaces
    cases result with
    | error =>
      cases replaces
      rfl
    | ok => cases replaces
  | ok after =>
    rw [changed] at replaces
    cases result with
    | error => cases replaces
    | ok next => exact congrArg (Prod.mk _) (Except.ok.inj replaces)

end Known

theorem run_perform_of_none {cache : RegisterCache file} {number : Nat}
    (none : cache.cells number = none) (operation : RegisterOperation) :
    Attempt.run (perform number operation) cache = (.error (.invalidRegister number), cache) := by
  obtain ⟨size, status⟩ := cells_eq_none none
  cases operation with
  | size | status => simp [perform, run_look, size, status, Except.map]
  | collect | read | readPart | readUnsigned | readSigned =>
    simp [perform, run_look, collect, readInto, readPart, readUnsigned, readSigned, size, Except.map]
  | supply | write | writePart | writeUnsigned | forget =>
    simp [perform, run_change, supply, write, writePart, writeUnsigned, forget, size]

/-- What an operation on a cache answers and does to the cells is what the cell of its register alone
decides. -/
theorem step_cells (cache : RegisterCache file) (call : RegisterCall) :
    Prod.map id cells (cache.step call) = cache.cells.step call := by
  obtain ⟨number, operation⟩ := call
  unfold step RegisterCells.step
  dsimp only
  cases held : cache.cells number with
  | none =>
    rw [run_perform_of_none held]
    rfl
  | some cell =>
    obtain ⟨size, status, content, -⟩ := cells_eq_some held
    -- A question is answered from the cell, and a change replaces it.
    cases operation with
    | size => exact look_cells held (by rw [size]; rfl)
    | status => exact look_cells held (by rw [status]; rfl)
    | collect buffer =>
      refine look_cells held ?_
      rw [collect, size, ok_bind, content, Bytes.overwrite_zero]
      rfl
    | read buffer =>
      refine look_cells held ?_
      rw [readInto_eq_part held, RegisterCell.perform]
      cases cell.part number 0 (min cell.bytes.length buffer.length) <;> rfl
    | readPart offset length =>
      refine look_cells held ?_
      rw [readPart_eq_part held, RegisterCell.perform]
      cases cell.part number offset length <;> rfl
    | readUnsigned =>
      refine look_cells held ?_
      rw [readUnsigned_eq_low held, RegisterCell.perform]
      cases cell.low number <;> rfl
    | readSigned =>
      refine look_cells held ?_
      rw [readSigned_eq_low held, RegisterCell.perform]
      cases cell.low number <;> rfl
    | supply value =>
      have replaced := (supply_replaces held value).change (·.supply number value)
      exact replaced
    | write value =>
      have replaced := (write_replaces held value).change (·.write number value)
      exact replaced
    | writePart offset value =>
      have replaced := (writePart_replaces held offset value).change (·.writePart number offset value)
      exact replaced
    | writeUnsigned value =>
      have replaced := (writeUnsigned_replaces held value).change (·.writeUnsigned number value)
      exact replaced
    | forget =>
      have replaced := (forget_replaces held).change (·.forget number)
      exact replaced

theorem cells_after (history : List RegisterCall) (cache : RegisterCache file) :
    (cache.after history).cells = cache.cells.after history := by
  induction history generalizing cache with
  | nil => rfl
  | cons call history ih =>
    have next := congrArg Prod.snd (cache.step_cells call)
    exact (ih _).trans (congrArg (RegisterCells.after history) next)

end RegisterCache

end Inferior

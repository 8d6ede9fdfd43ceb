import Inferior.Proofs.RegisterCells

/-! The registers of a cache keep out of each other's way, whatever is done to them: each operation
sees and changes its own register only, an operation that is refused changes nothing, and a register
without a value holds zeros.
-/

set_option autoImplicit false

namespace Inferior

namespace LittleEndian

theorem take_digits {short width : Nat} (le : short ≤ width) (number : Nat) :
    (digits width number).take short = digits short number := by
  induction width generalizing short number with
  | zero =>
    cases Nat.le_zero.1 le
    rfl
  | succ width ih =>
    cases short with
    | zero => rfl
    | succ short => rw [digits, digits, List.take_succ_cons, ih (Nat.le_of_succ_le_succ le)]

theorem resize_digits {short width : Nat} (le : short ≤ width) (number : Nat) :
    (digits width number).resize short = digits short number := by
  have full : short - (digits width number).length = 0 := by
    rw [length_digits]
    omega
  rw [Bytes.resize, full, take_digits le]
  exact List.append_nil _

/-- Cut off or filled up, a number keeps its low bytes. -/
theorem take_resize_digits (width size number : Nat) :
    ((digits width number).resize size).take (min size width) = digits (min size width) number := by
  have cut : ((digits width number).take size).length = min size width := by
    rw [List.length_take, length_digits]
  rw [Bytes.resize, List.take_append_of_le_length (Nat.le_of_eq cut.symm), List.take_take]
  rw [Nat.min_eq_left (Nat.min_le_left size width)]
  exact take_digits (Nat.min_le_right size width) number

end LittleEndian

namespace RegisterCache

variable {file : RegisterFile}

theorem step_of_error {cache : RegisterCache file} {call : RegisterCall} {error : RegisterError}
    (refused : (cache.step call).1 = .error error) : (cache.step call).2 = cache := by
  obtain ⟨number, operation⟩ := call
  have change_refused {operation : RegisterCache file → Except RegisterError (RegisterCache file)}
      (refused : (Attempt.run (change operation) cache).1 = .error error) :
      (Attempt.run (change operation) cache).2 = cache := by
    rw [run_change] at refused ⊢
    cases changed : operation cache with
    | error => rfl
    | ok next =>
      rw [changed] at refused
      cases refused
  unfold step at refused ⊢
  cases operation with
  | size | status | collect | read | readPart | readUnsigned | readSigned => rfl
  | supply | write | writePart | writeUnsigned | forget => exact change_refused refused

end RegisterCache

namespace RegisterCell

/-- A cell has the size of its register, and holds zeros unless it holds a value. -/
structure Fits (cell : RegisterCell) (size : Nat) : Prop where
  sized : cell.bytes.length = size
  blank : cell.status ≠ .valid → cell.bytes = Bytes.zeros size

theorem fits_blank (size : Nat) (status : RegisterStatus) : (blank size status).Fits size where
  sized := Bytes.length_zeros size
  blank _ := rfl

theorem fits_valid {size : Nat} {value : Bytes} (sized : value.length = size) :
    RegisterCell.Fits ⟨.valid, value⟩ size where
  sized := sized
  blank invalid := absurd rfl invalid

theorem Fits.patched {cell next : RegisterCell} {size number offset : Nat} {value : Bytes}
    (fits : cell.Fits size) (done : cell.patched number offset value = .ok next) :
    next.Fits size := by
  unfold RegisterCell.patched at done
  split at done
  · cases done
  · cases done
    apply fits_valid
    rw [← fits.sized, List.length_append, List.length_append, List.length_take, List.length_drop]
    omega

theorem Fits.written {cell next : RegisterCell} {size number : Nat} {value : Bytes}
    (fits : cell.Fits size) (done : cell.written number value = .ok next) : next.Fits size := by
  unfold RegisterCell.written at done
  split at done
  · cases done
    exact fits_valid (‹value.length = _›.trans fits.sized)
  · cases done

theorem Fits.supplied {cell : RegisterCell} {size : Nat} (fits : cell.Fits size)
    (value : Option Bytes) : (cell.supplied value).Fits size := by
  rw [← fits.sized]
  cases value with
  | some value => exact fits_valid (Bytes.length_resize value _)
  | none => exact fits_blank _ _

theorem Fits.perform {cell next : RegisterCell} {size number : Nat} {operation : RegisterOperation}
    {answer : RegisterAnswer} (fits : cell.Fits size)
    (done : cell.perform number operation = .ok (answer, next)) : next.Fits size := by
  have keep {α : Type} {result : Except RegisterError α} {wrap : α → RegisterAnswer}
      (done : (result.map fun value => (wrap value, cell)) = .ok (answer, next)) :
      next.Fits size := by
    cases result with
    | error => cases done
    | ok => cases done; exact fits
  have put {result : Except RegisterError RegisterCell}
      (all : ∀ {next}, result = .ok next → next.Fits size)
      (done : (result.map fun next => (RegisterAnswer.done, next)) = .ok (answer, next)) :
      next.Fits size := by
    cases result with
    | error => cases done
    | ok => cases done; exact all rfl
  cases operation with
  | size | status | collect => cases done; exact fits
  | read | readPart | readUnsigned | readSigned => exact keep done
  | supply value => cases done; exact fits.supplied value
  | write value => exact put fits.written done
  | writePart offset value => exact put fits.patched done
  | writeUnsigned value =>
    cases done
    exact fits_valid ((Bytes.length_resize _ _).trans fits.sized)
  | forget =>
    cases done
    rw [fits.sized]
    exact fits_blank size .unknown

end RegisterCell

namespace RegisterCells

variable {file : RegisterFile}

def Fit (cells : RegisterCells) (file : RegisterFile) : Prop :=
  ∀ ⦃number cell⦄, cells number = some cell → cell.Fits (file.width number)

theorem fit_initial (file : RegisterFile) : (initial file).Fit file := by
  intro number cell held
  unfold initial at held
  split at held
  · cases held
    exact RegisterCell.fits_blank _ _
  · cases held

theorem Fit.step {cells : RegisterCells} (fit : cells.Fit file) (call : RegisterCall) :
    (cells.step call).2.Fit file := by
  unfold RegisterCells.step
  cases held : cells call.number with
  | none => exact fit
  | some cell =>
    dsimp only
    cases done : cell.perform call.number call.operation with
    | error error => exact fit
    | ok result =>
      obtain ⟨answer, next⟩ := result
      intro number other held'
      change Function.update cells call.number (some next) number = some other at held'
      by_cases same : number = call.number
      · subst same
        rw [Function.update_self] at held'
        cases held'
        exact (fit held).perform done
      · rw [Function.update_of_ne same] at held'
        exact fit held'

theorem Fit.after {cells : RegisterCells} (fit : cells.Fit file) (history : List RegisterCall) :
    (cells.after history).Fit file := by
  induction history generalizing cells with
  | nil => exact fit
  | cons call history ih => exact ih (fit.step call)

theorem step_of_ne (cells : RegisterCells) {call : RegisterCall} {other : Nat}
    (different : other ≠ call.number) : (cells.step call).2 other = cells other := by
  unfold step
  cases held : cells call.number with
  | none => rfl
  | some cell =>
    dsimp only
    cases cell.perform call.number call.operation with
    | error error => rfl
    | ok result => exact Function.update_of_ne different _ _

end RegisterCells

namespace RegisterCache

variable {file : RegisterFile}

theorem cells_step_of_ne (cache : RegisterCache file) {call : RegisterCall} {other : Nat}
    (different : other ≠ call.number) : (cache.step call).2.cells other = cache.cells other := by
  have next : (cache.step call).2.cells = (cache.cells.step call).2 :=
    congrArg Prod.snd (cache.step_cells call)
  rw [next]
  exact cache.cells.step_of_ne different

theorem exists_cell (cache : RegisterCache file) {number : Nat} (known : number < file.count) :
    ∃ cell, cache.cells number = some cell := by
  rw [← cache.length_statuses] at known
  exact ⟨⟨cache.statuses[number], cache.bytes number⟩, by
    rw [cells, List.getElem?_eq_getElem known]
    rfl⟩

theorem Replaces.eq_ok {cache : RegisterCache file} {number : Nat} {cell : RegisterCell}
    {outcome : Except RegisterError (RegisterCache file)}
    (replaces : cache.Replaces outcome number (.ok cell)) :
    ∃ next, outcome = .ok next ∧ next.cells number = some cell := by
  unfold Replaces at replaces
  cases outcome with
  | error => cases replaces
  | ok next =>
    refine ⟨next, rfl, ?_⟩
    rw [Except.ok.inj replaces]
    exact Function.update_self _ _ _

theorem cells_supply (cache : RegisterCache file) {number : Nat} (known : number < file.count)
    (value : Bytes) :
    ∃ next, cache.supply number (some value) = .ok next ∧
      next.cells number = some ⟨.valid, value.resize (file.width number)⟩ := by
  obtain ⟨cell, held⟩ := cache.exists_cell known
  obtain ⟨-, -, -, width⟩ := cells_eq_some held
  rw [width]
  exact (supply_replaces held (some value)).eq_ok

theorem cells_writePart (cache : RegisterCache file) {number offset : Nat}
    (known : number < file.count) {value : Bytes}
    (inside : offset + value.length ≤ file.width number) :
    ∃ next, cache.writePart number offset value = .ok next ∧ next.cells number = some ⟨.valid,
      (cache.bytes number).take offset ++ value ++
        (cache.bytes number).drop (offset + value.length)⟩ := by
  obtain ⟨cell, held⟩ := cache.exists_cell known
  obtain ⟨-, -, content, width⟩ := cells_eq_some held
  rw [width] at inside
  have replaced := writePart_replaces held offset value
  rw [RegisterCell.patched, if_neg (Nat.not_lt.2 inside), ← content] at replaced
  exact replaced.eq_ok

/-- A number that is written is read back as far as the register has room for it. -/
theorem reads_writeUnsigned (cache : RegisterCache file) {number : Nat} (known : number < file.count)
    (value : Nat) :
    ∃ next, cache.writeUnsigned number value = .ok next ∧
      next.readUnsigned number = .ok (value % 256 ^ min (file.width number) 8) ∧
      next.readSigned number = .ok (LittleEndian.twosComplement (min (file.width number) 8)
        (value % 256 ^ min (file.width number) 8)) := by
  obtain ⟨cell, held⟩ := cache.exists_cell known
  obtain ⟨-, -, -, width⟩ := cells_eq_some held
  obtain ⟨next, done, held'⟩ := (writeUnsigned_replaces held value).eq_ok
  have low : RegisterCell.low ⟨.valid, (LittleEndian.digits 8 value).resize cell.bytes.length⟩ number =
      .ok (LittleEndian.digits (min (file.width number) 8) value) := by
    have inside : ¬ cell.bytes.length < 0 + min cell.bytes.length 8 := by omega
    rw [RegisterCell.low, RegisterCell.part, Bytes.length_resize, width, if_neg inside]
    simp [LittleEndian.take_resize_digits]
  refine ⟨next, done, ?_, ?_⟩
  · rw [readUnsigned_eq_low held', low, ← LittleEndian.capacity_eq_pow, ← LittleEndian.value_digits]
    rfl
  · rw [readSigned_eq_low held', low, ← LittleEndian.capacity_eq_pow, ← LittleEndian.value_digits]
    change Except.ok (LittleEndian.signedValue _) = _
    rw [LittleEndian.signedValue, LittleEndian.length_digits]

/-- The registers of a cache are cells that have nothing to do with each other. -/
structure ActsAs (cache : RegisterCache file) (cells : RegisterCells) : Prop where
  same : cache.cells = cells
  answers (call : RegisterCall) : (cache.step call).1 = (cells.step call).1
  others {call : RegisterCall} {other : Nat} (different : other ≠ call.number) :
    (cache.step call).2.cells other = cache.cells other
  refused {call : RegisterCall} {error : RegisterError}
    (failed : (cache.step call).1 = .error error) : (cache.step call).2 = cache
  fit : cells.Fit file
  supplied {number : Nat} (known : number < file.count) (value : Bytes) :
    ∃ next, cache.supply number (some value) = .ok next ∧
      next.cells number = some ⟨.valid, value.resize (file.width number)⟩
  patched {number offset : Nat} (known : number < file.count) {value : Bytes}
    (inside : offset + value.length ≤ file.width number) :
    ∃ next, cache.writePart number offset value = .ok next ∧ next.cells number = some ⟨.valid,
      (cache.bytes number).take offset ++ value ++ (cache.bytes number).drop (offset + value.length)⟩
  numbers {number : Nat} (known : number < file.count) (value : Nat) :
    ∃ next, cache.writeUnsigned number value = .ok next ∧
      next.readUnsigned number = .ok (value % 256 ^ min (file.width number) 8) ∧
      next.readSigned number = .ok (LittleEndian.twosComplement (min (file.width number) 8)
        (value % 256 ^ min (file.width number) 8))

/-- A cache that starts out empty acts as a map of cells, whatever is done to it. -/
theorem actsAs_after (file : RegisterFile) (history : List RegisterCall) :
    ((empty file).after history).ActsAs ((RegisterCells.initial file).after history) := by
  have same : ((empty file).after history).cells = (RegisterCells.initial file).after history := by
    rw [cells_after, cells_empty]
  rw [← same]
  generalize (empty file).after history = cache at same
  exact {
    same := rfl
    answers := fun call => congrArg Prod.fst (cache.step_cells call)
    others := cache.cells_step_of_ne
    refused := step_of_error
    fit := same ▸ (RegisterCells.fit_initial file).after history
    supplied := cache.cells_supply
    patched := cache.cells_writePart
    numbers := cache.reads_writeUnsigned }

end RegisterCache

end Inferior

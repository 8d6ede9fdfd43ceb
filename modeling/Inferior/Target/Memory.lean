import Inferior.AddressRange
import Inferior.Target
import Std.Data.TreeMap.Lemmas

/-! A target in memory: mapped bytes, ranges of addresses whose access fails, and the address
ranges of the known functions. Addresses wrap at their width.
-/

set_option autoImplicit false

namespace Inferior

inductive Access where
  | read
  | write
  deriving DecidableEq, Repr

structure Fault (ε : Type) where
  access : Access
  range : AddressRange
  error : TargetError ε

structure Memory (w : Nat) (ε : Type) where
  contents : Std.TreeMap Nat UInt8 := ∅
  faults : List (Fault ε) := []
  functions : List AddressRange := []

namespace Memory

variable {w : Nat} {ε : Type}

def byte? (memory : Memory w ε) (address : BitVec w) : Option UInt8 :=
  memory.contents[address.toNat]?

def fault? (memory : Memory w ε) (access : Access) (address : BitVec w) : Option (TargetError ε) :=
  let hit := memory.faults.find? fun fault =>
    fault.access == access && fault.range.contains address.toNat
  hit.map Fault.error

def unmapped : TargetError ε := .errno 14

def readByte (memory : Memory w ε) (address : BitVec w) : Except (TargetError ε) UInt8 :=
  match memory.fault? .read address, memory.byte? address with
  | some error, _ => throw error
  | none, some byte => pure byte
  | none, none => throw unmapped

def read (memory : Memory w ε) (start : BitVec w) :
    (length : Nat) → Except (TargetError ε) (Block length)
  | 0 => pure ⟨[], rfl⟩
  | length + 1 => do
    let byte ← memory.readByte start
    let ⟨rest, sized⟩ ← memory.read (start + 1) length
    return ⟨byte :: rest, congrArg Nat.succ sized⟩

def setByte (memory : Memory w ε) (address : BitVec w) (byte : UInt8) : Memory w ε :=
  { memory with contents := memory.contents.insert address.toNat byte }

/-- Map bytes, whatever was there before. Of two bytes that get the same address the later one
stays. -/
def poke (memory : Memory w ε) (start : BitVec w) : Bytes → Memory w ε
  | [] => memory
  | byte :: rest => (memory.setByte start byte).poke (start + 1) rest

theorem byte?_setByte (memory : Memory w ε) (place address : BitVec w) (byte : UInt8) :
    (memory.setByte place byte).byte? address =
      if place = address then some byte else memory.byte? address := by
  simp [byte?, setByte, Std.TreeMap.getElem?_insert, BitVec.toNat_inj]

theorem toNat_sub_one {distance : BitVec w} (apart : distance ≠ 0) :
    distance.toNat = (distance - 1).toNat + 1 := by
  have positive : distance.toNat ≠ 0 := fun zero =>
    apart (BitVec.eq_of_toNat_eq (by simpa using zero))
  have bounded := distance.isLt
  rcases w with _ | w
  · omega
  · rw [BitVec.toNat_sub_of_le] <;> simp [BitVec.le_def] <;> omega

theorem toNat_zero_sub_one : (0 - 1 : BitVec w).toNat + 1 = 1 <<< w := by
  have last : (0 - 1 : BitVec w) = BitVec.allOnes w := by simp [BitVec.neg_one_eq_allOnes]
  have positive := Nat.two_pow_pos w
  rw [last, BitVec.toNat_allOnes, Nat.one_shiftLeft]
  omega

theorem byte?_poke (memory : Memory w ε) (start address : BitVec w) (bytes : Bytes)
    (fits : bytes.length ≤ 1 <<< w) :
    (memory.poke start bytes).byte? address =
      (bytes[(address - start).toNat]? <|> memory.byte? address) := by
  induction bytes generalizing memory start with
  | nil => simp [poke]
  | cons byte rest ih =>
    rw [List.length_cons] at fits
    rw [poke, ih _ _ (by omega), byte?_setByte, ← BitVec.sub_sub]
    by_cases here : start = address
    · have around := toNat_zero_sub_one (w := w)
      have beyond : rest.length ≤ (address - start - 1).toNat := by
        rw [here, BitVec.sub_self]
        exact Nat.le_of_succ_le_succ (Nat.le_trans fits (Nat.le_of_eq around.symm))
      rw [List.getElem?_eq_none beyond]
      simp [here]
    · have apart : address - start ≠ 0 := by grind
      rw [toNat_sub_one apart, List.getElem?_cons_succ, if_neg here]

def writeFault? (memory : Memory w ε) (start : BitVec w) : (length : Nat) → Option (TargetError ε)
  | 0 => none
  | length + 1 => memory.fault? .write start <|> memory.writeFault? (start + 1) length

def write (memory : Memory w ε) (start : BitVec w) (bytes : Bytes) :
    Except (TargetError ε) (Memory w ε) :=
  match memory.writeFault? start bytes.length with
  | some error => throw error
  | none => pure (memory.poke start bytes)

/-- Group bytes with ascending addresses into runs of consecutive addresses. -/
def runs : List (Nat × UInt8) → List (Nat × Bytes)
  | [] => []
  | (place, byte) :: rest =>
    match runs rest with
    | (next, following) :: others =>
      if place + 1 = next then (place, byte :: following) :: others
      else (place, [byte]) :: (next, following) :: others
    | [] => [(place, [byte])]

/-- The bytes that differ from an earlier state of the same memory, in runs by address. -/
def changes (memory earlier : Memory w ε) : List (Nat × Bytes) :=
  runs (memory.contents.toList.filter fun (place, byte) => earlier.contents[place]? ≠ some byte)

def functionEntry (memory : Memory w ε) (address : BitVec w) : Option (BitVec w) :=
  (memory.functions.find? (·.contains address.toNat)).map fun range => BitVec.ofNat w range.start

def target (w : Nat) (ε : Type) : Target w ε (Memory w ε) where
  read start length := .ofRun fun memory => (memory.read start length, memory)
  write start bytes := .ofRun fun memory =>
    match memory.write start bytes with
    | .ok written => (.ok (), written)
    | .error error => (.error error, memory)
  functionEntry address := fun memory => (memory.functionEntry address, memory)

end Memory

end Inferior

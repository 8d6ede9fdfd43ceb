import Inferior.Target.Memory

/-! Programs that stay as they are. What such a program answers depends on the question alone,
whatever was asked before.
-/

set_option autoImplicit false

namespace Inferior

variable {w : Nat} {ε τ : Type}

structure Snapshot (w : Nat) (ε : Type) where
  read : BitVec w → (length : Nat) → Except (TargetError ε) (Block length)
  functionEntry : BitVec w → Option (BitVec w)

/-- A target that answers from a snapshot as long as its state is one of those held, which no
question makes it leave. The state itself may change, as that of a target which counts accesses. -/
structure Target.Shows (target : Target w ε τ) (snapshot : Snapshot w ε) (held : τ → Prop) :
    Prop where
  read {memory : τ} (start : held memory) (address : BitVec w) (length : Nat) :
    ∃ next, held next ∧
      Attempt.run (target.read address length) memory = (snapshot.read address length, next)
  functionEntry {memory : τ} (start : held memory) (address : BitVec w) :
    ∃ next, held next ∧
      (target.functionEntry address).run memory = (snapshot.functionEntry address, next)

namespace Snapshot

variable (snapshot : Snapshot w ε)

/-- Memory holds bytes from an address on if each part of them is what a read of that part gives. -/
def Holds (address : BitVec w) (bytes : Bytes) : Prop :=
  ∀ offset length, offset + length ≤ bytes.length →
    ∃ sized, snapshot.read (address + BitVec.ofNat w offset) length =
      .ok ⟨bytes.slice offset length, sized⟩

variable {snapshot}

theorem Holds.whole {address : BitVec w} {bytes : Bytes} (holds : snapshot.Holds address bytes)
    {length : Nat} (sized : bytes.length = length) :
    snapshot.read address length = .ok ⟨bytes, sized⟩ := by
  obtain ⟨_, read⟩ := holds 0 length (by omega)
  have all : bytes.slice 0 length = bytes := by simp [Bytes.slice, ← sized]
  simpa only [all, BitVec.add_zero] using read

theorem Holds.left {address : BitVec w} {front back : Bytes}
    (holds : snapshot.Holds address (front ++ back)) : snapshot.Holds address front := by
  intro offset length inside
  obtain ⟨sized, read⟩ := holds offset length (by rw [List.length_append]; omega)
  have part : (front ++ back).slice offset length = front.slice offset length := by
    rw [Bytes.slice, Bytes.slice, List.drop_append_of_le_length (by omega),
      List.take_append_of_le_length (by rw [List.length_drop]; omega)]
  simp only [part] at read
  exact ⟨_, read⟩

theorem Holds.right {address : BitVec w} {front back : Bytes}
    (holds : snapshot.Holds address (front ++ back)) :
    snapshot.Holds (address + BitVec.ofNat w front.length) back := by
  intro offset length inside
  obtain ⟨sized, read⟩ :=
    holds (front.length + offset) length (by rw [List.length_append]; omega)
  have part : (front ++ back).slice (front.length + offset) length = back.slice offset length := by
    rw [Bytes.slice, Bytes.slice, List.drop_length_add_append]
  simp only [part, BitVec.ofNat_add, ← BitVec.add_assoc] at read
  exact ⟨_, read⟩

end Snapshot

namespace Memory

/-- What a memory answers as long as nothing is written to it. -/
def snapshot (memory : Memory w ε) : Snapshot w ε where
  read := memory.read
  functionEntry := memory.functionEntry

theorem shows_snapshot (memory : Memory w ε) :
    (target w ε).Shows memory.snapshot (· = memory) where
  read := by
    intro state same address length
    subst state
    exact ⟨memory, rfl, rfl⟩
  functionEntry := by
    intro state same address
    subst state
    exact ⟨memory, rfl, rfl⟩

theorem add_ofNat_succ (address : BitVec w) (index : Nat) :
    address + BitVec.ofNat w (index + 1) = address + 1 + BitVec.ofNat w index := by
  rw [Nat.add_comm, BitVec.ofNat_add, ← BitVec.add_assoc]
  rfl

/-- Every byte from an address on is mapped as it is given, and can be read. -/
def Maps (memory : Memory w ε) (address : BitVec w) (bytes : Bytes) : Prop :=
  ∀ index < bytes.length, (memory.fault? .read (address + BitVec.ofNat w index)).isNone ∧
    memory.byte? (address + BitVec.ofNat w index) = bytes[index]?

instance (memory : Memory w ε) (address : BitVec w) (bytes : Bytes) :
    Decidable (memory.Maps address bytes) :=
  inferInstanceAs (Decidable (∀ index < bytes.length, _ ∧ _))

theorem Maps.read {memory : Memory w ε} {address : BitVec w} {bytes : Bytes}
    (maps : memory.Maps address bytes) {length : Nat} (sized : bytes.length = length) :
    memory.read address length = .ok ⟨bytes, sized⟩ := by
  subst sized
  -- By induction on the bytes, since memory is read one byte after the other.
  induction bytes generalizing address with
  | nil => rfl
  | cons byte rest ih =>
    have further : memory.Maps (address + 1) rest := by
      intro index inside
      have next := maps (index + 1) (Nat.succ_lt_succ inside)
      rwa [add_ofNat_succ, List.getElem?_cons_succ] at next
    have here := maps 0 (Nat.zero_lt_succ _)
    rw [BitVec.add_zero, Option.isNone_iff_eq_none, List.getElem?_cons_zero] at here
    have first : memory.readByte address = .ok byte := by
      rw [readByte, here.1, here.2]
      rfl
    change memory.readByte address >>= _ = _
    rw [first]
    change memory.read (address + 1) rest.length >>= _ = _
    rw [ih further]
    rfl

theorem Maps.holds {memory : Memory w ε} {address : BitVec w} {bytes : Bytes}
    (maps : memory.Maps address bytes) : memory.snapshot.Holds address bytes := by
  intro offset length inside
  have sized : (bytes.slice offset length).length = length := by
    rw [Bytes.length_slice]
    omega
  have part : memory.Maps (address + BitVec.ofNat w offset) (bytes.slice offset length) := by
    intro index below
    rw [sized] at below
    rw [Bytes.getElem?_slice, if_pos below, BitVec.add_assoc, ← BitVec.ofNat_add]
    exact maps (offset + index) (by omega)
  exact ⟨sized, part.read sized⟩

end Memory

end Inferior

import Inferior.Proofs.Snapshot
import Inferior.RegisterCache

/-! What a series of writes leaves behind. Registers and memory are looked at as bytes at places, and
a write as bytes that are laid over some of them. Writes to different places keep out of each
other's way, in whatever order they are made.
-/

set_option autoImplicit false

namespace Inferior

abbrev ByteMap (α : Type) := α → Option UInt8

namespace ByteMap

variable {α : Type}

def overlaid (under layer : ByteMap α) : ByteMap α := fun place => (layer place).or (under place)

def Apart (first second : ByteMap α) : Prop := ∀ place, first place = none ∨ second place = none

theorem foldl_overlaid_of_none {layers : List (ByteMap α)} {under : ByteMap α} {place : α}
    (outside : ∀ layer ∈ layers, layer place = none) :
    layers.foldl overlaid under place = under place := by
  induction layers generalizing under with
  | nil => rfl
  | cons layer rest ih =>
    obtain ⟨here, outside⟩ := List.forall_mem_cons.1 outside
    rw [List.foldl_cons, ih outside, overlaid, here, Option.none_or]

theorem foldl_overlaid_of_mem {layers : List (ByteMap α)} {under : ByteMap α}
    (apart : layers.Pairwise Apart) {layer : ByteMap α} (listed : layer ∈ layers) {place : α}
    {byte : UInt8} (here : layer place = some byte) :
    layers.foldl overlaid under place = some byte := by
  induction layers generalizing under with
  | nil => cases listed
  | cons first rest ih =>
    obtain ⟨others, apart⟩ := List.pairwise_cons.1 apart
    rw [List.foldl_cons]
    rcases List.mem_cons.1 listed with rfl | later
    · -- No later layer covers the place, so the byte stays.
      have outside : ∀ other ∈ rest, other place = none := fun other member =>
        (others other member place).resolve_left (by simp [here])
      rw [foldl_overlaid_of_none outside, overlaid, here, Option.some_or]
    · exact ih apart later

end ByteMap

structure RegisterWrite where
  number : Nat
  offset : Nat
  bytes : Bytes
  deriving DecidableEq, Repr

def RegisterWrite.whole (number value : Nat) : RegisterWrite :=
  ⟨number, 0, LittleEndian.digits 8 value⟩

def RegisterWrite.layer (write : RegisterWrite) : ByteMap (Nat × Nat) := fun place =>
  if place.1 = write.number ∧ write.offset ≤ place.2 then write.bytes[place.2 - write.offset]?
  else none

namespace RegisterWrite

theorem layer_eq_none_iff {write : RegisterWrite} {number index : Nat} :
    write.layer (number, index) = none ↔
      ¬(number = write.number ∧ write.offset ≤ index ∧
        index < write.offset + write.bytes.length) := by
  unfold layer
  split
  · rw [List.getElem?_eq_none_iff]
    omega
  · simp only [true_iff]
    omega

theorem apart_layer {first second : RegisterWrite}
    (apart : first.number ≠ second.number ∨ first.offset + first.bytes.length ≤ second.offset ∨
      second.offset + second.bytes.length ≤ first.offset) : first.layer.Apart second.layer := by
  intro ⟨number, index⟩
  rw [layer_eq_none_iff, layer_eq_none_iff]
  omega

theorem layer_add (write : RegisterWrite) (index : Nat) :
    write.layer (write.number, write.offset + index) = write.bytes[index]? := by
  rw [layer, if_pos ⟨rfl, Nat.le_add_right _ _⟩, Nat.add_sub_cancel_left]

end RegisterWrite

namespace RegisterCache

variable {file : RegisterFile}

def contents (cache : RegisterCache file) : ByteMap (Nat × Nat) := fun place =>
  (cache.bytes place.1)[place.2]?

theorem contents_store (cache : RegisterCache file) {write : RegisterWrite} (status : RegisterStatus)
    (fits : write.offset + write.bytes.length ≤ file.width write.number) :
    (cache.store write.number write.offset write.bytes status).contents =
      cache.contents.overlaid write.layer := by
  funext ⟨number, index⟩
  by_cases same : number = write.number
  · subst same
    simp only [contents, ByteMap.overlaid, RegisterWrite.layer, true_and]
    rw [bytes_store _ _ _ _ fits, Bytes.getElem?_overwrite, length_bytes]
    grind
  · simp only [contents, ByteMap.overlaid, RegisterWrite.layer, same, false_and, if_false,
      Option.none_or]
    rw [bytes_store_of_ne _ _ fits same]

def storeAll (cache : RegisterCache file) (writes : List RegisterWrite) : RegisterCache file :=
  writes.foldl (fun cache write => cache.store write.number write.offset write.bytes .valid) cache

theorem storeAll_append (cache : RegisterCache file) (writes later : List RegisterWrite) :
    cache.storeAll (writes ++ later) = (cache.storeAll writes).storeAll later := List.foldl_append

theorem contents_storeAll {writes : List RegisterWrite} (cache : RegisterCache file)
    (fits : ∀ write ∈ writes, write.offset + write.bytes.length ≤ file.width write.number) :
    (cache.storeAll writes).contents =
      (writes.map RegisterWrite.layer).foldl ByteMap.overlaid cache.contents := by
  induction writes generalizing cache with
  | nil => rfl
  | cons write rest ih =>
    obtain ⟨here, fits⟩ := List.forall_mem_cons.1 fits
    change ((cache.store write.number write.offset write.bytes .valid).storeAll rest).contents = _
    rw [ih _ fits, contents_store cache .valid here]
    rfl

theorem status_storeAll_of_ne {writes : List RegisterWrite} (cache : RegisterCache file)
    {number : Nat} (different : ∀ write ∈ writes, write.number ≠ number) :
    (cache.storeAll writes).statuses[number]? = cache.statuses[number]? := by
  induction writes generalizing cache with
  | nil => rfl
  | cons write rest ih =>
    obtain ⟨here, different⟩ := List.forall_mem_cons.1 different
    exact (ih _ different).trans (List.getElem?_set_ne here)

theorem status_storeAll_of_valid {writes : List RegisterWrite} (cache : RegisterCache file)
    {number : Nat} (valid : cache.statuses[number]? = some .valid) :
    (cache.storeAll writes).statuses[number]? = some .valid := by
  induction writes generalizing cache with
  | nil => exact valid
  | cons write rest ih =>
    apply ih
    change (cache.statuses.set write.number .valid)[number]? = some .valid
    grind

theorem status_storeAll_of_mem {writes : List RegisterWrite} (cache : RegisterCache file)
    {write : RegisterWrite} (listed : write ∈ writes) (known : write.number < file.count) :
    (cache.storeAll writes).statuses[write.number]? = some .valid := by
  induction writes generalizing cache with
  | nil => cases listed
  | cons first rest ih =>
    rcases List.mem_cons.1 listed with rfl | later
    · change ((cache.store write.number write.offset write.bytes .valid).storeAll rest).statuses[
        write.number]? = _
      exact status_storeAll_of_valid _ (List.getElem?_set_self (by rwa [cache.length_statuses]))
    · exact ih _ later

theorem known_of_status {cache : RegisterCache file} {number : Nat} {status : RegisterStatus}
    (held : cache.statuses[number]? = some status) : number < file.count := by
  have inside := (List.getElem?_eq_some_iff.1 held).1
  rwa [cache.length_statuses] at inside

theorem status_eq_ok_iff {cache : RegisterCache file} {number : Nat} {status : RegisterStatus} :
    cache.status number = .ok status ↔ cache.statuses[number]? = some status := by
  unfold RegisterCache.status
  cases cache.statuses[number]? with
  | none => exact iff_of_false nofun nofun
  | some other =>
    exact ⟨fun same => congrArg some (Except.ok.inj same),
      fun same => congrArg Except.ok (Option.some.inj same)⟩

/-- A part of a register can be read if the register has a value, and then it is part of its bytes. -/
theorem readPart_eq_ok_iff {cache : RegisterCache file} {number offset length : Nat}
    {value : Bytes} : cache.readPart number offset length = .ok value ↔
      cache.statuses[number]? = some .valid ∧ offset + length ≤ file.width number ∧
        (cache.bytes number).slice offset length = value := by
  unfold readPart
  constructor
  · intro found
    obtain ⟨size, sized, found⟩ := bind_eq_ok.1 found
    rw [RegisterCache.size] at sized
    split at sized <;> cases sized
    split at found
    · cases found
    · rename_i known fits
      obtain ⟨status, held, found⟩ := bind_eq_ok.1 found
      split at found
      · cases found
      · rename_i valid
        cases found
        cases Decidable.not_not.1 valid
        exact ⟨status_eq_ok_iff.1 held, Nat.not_lt.1 fits, rfl⟩
  · rintro ⟨valid, fits, rfl⟩
    have size : cache.size number = .ok (file.width number) := if_pos (known_of_status valid)
    have status : cache.status number = .ok .valid := status_eq_ok_iff.2 valid
    rw [size, ok_bind, if_neg (Nat.not_lt.2 fits)]
    change cache.status number >>= _ = _
    rw [status, ok_bind, if_neg (by simp)]
    rfl

theorem readPart_of_contents {cache : RegisterCache file} {number offset : Nat} {bytes : Bytes}
    (valid : cache.statuses[number]? = some .valid)
    (fits : offset + bytes.length ≤ file.width number)
    (content : ∀ index < bytes.length, cache.contents (number, offset + index) = bytes[index]?) :
    cache.readPart number offset bytes.length = .ok bytes := by
  refine readPart_eq_ok_iff.2 ⟨valid, fits, ?_⟩
  apply List.ext_getElem?
  intro index
  rw [Bytes.getElem?_slice]
  split
  · exact content index ‹_›
  · rw [List.getElem?_eq_none (Nat.not_lt.1 ‹_›)]

/-- What has been put into a register is found there if no other write covers it. -/
theorem readPart_storeAll {writes : List RegisterWrite} (cache : RegisterCache file)
    (inside : ∀ write ∈ writes, write.number < file.count ∧
      write.offset + write.bytes.length ≤ file.width write.number)
    (apart : (writes.map RegisterWrite.layer).Pairwise ByteMap.Apart) {write : RegisterWrite}
    (listed : write ∈ writes) :
    (cache.storeAll writes).readPart write.number write.offset write.bytes.length =
      .ok write.bytes := by
  obtain ⟨known, here⟩ := inside write listed
  have valid := cache.status_storeAll_of_mem listed known
  refine readPart_of_contents valid here fun index below => ?_
  rw [contents_storeAll cache fun write listed => (inside write listed).2,
    List.getElem?_eq_getElem below]
  refine ByteMap.foldl_overlaid_of_mem apart (List.mem_map_of_mem listed) ?_
  rw [write.layer_add, List.getElem?_eq_getElem below]

theorem read_eq_readPart {cache : RegisterCache file} {number : Nat} (known : number < file.count) :
    cache.read number = cache.readPart number 0 (file.width number) := by
  have size : cache.size number = .ok (file.width number) := if_pos known
  rw [read, size, ok_bind]

theorem read_store_whole (cache : RegisterCache file) {number : Nat} (value : Nat)
    (known : number < file.count) (wide : file.width number = 8) :
    (cache.store number 0 (LittleEndian.digits 8 value) .valid).read number =
      .ok (LittleEndian.digits 8 value) := by
  have fits : 0 + (LittleEndian.digits 8 value).length = file.width number := by
    rw [LittleEndian.length_digits, wide]
  have inside := Nat.le_of_eq fits
  have listed : RegisterWrite.whole number value ∈ [RegisterWrite.whole number value] :=
    List.mem_singleton.2 rfl
  have found := cache.readPart_storeAll (List.forall_mem_singleton.2 ⟨known, inside⟩)
    (List.pairwise_singleton _ _) listed
  rw [read_eq_readPart known, wide]
  exact found

theorem readUnsigned_eq_value {cache : RegisterCache file} {number : Nat}
    (valid : cache.statuses[number]? = some .valid) (narrow : file.width number ≤ 8) :
    cache.readUnsigned number = .ok (LittleEndian.value (cache.bytes number)) := by
  have size : cache.size number = .ok (file.width number) := if_pos (known_of_status valid)
  have whole : (cache.bytes number).slice 0 (file.width number) = cache.bytes number := by
    rw [Bytes.slice, List.drop_zero, ← cache.length_bytes number, List.take_length]
  have found : cache.readPart number 0 (file.width number) = .ok (cache.bytes number) :=
    readPart_eq_ok_iff.2 ⟨valid, Nat.le_of_eq (Nat.zero_add _), whole⟩
  unfold readUnsigned
  rw [size, ok_bind, Nat.min_eq_left narrow]
  dsimp only
  rw [found]
  rfl

end RegisterCache

variable {w : Nat} {ε τ : Type}

structure MemoryWrite (w : Nat) where
  address : BitVec w
  bytes : Bytes
  deriving DecidableEq, Repr

def MemoryWrite.layer (write : MemoryWrite w) : ByteMap (BitVec w) := fun address =>
  write.bytes[(address - write.address).toNat]?

theorem MemoryWrite.layer_add (write : MemoryWrite w) {index : Nat} (inside : index < 1 <<< w) :
    write.layer (write.address + BitVec.ofNat w index) = write.bytes[index]? := by
  rw [Nat.shiftLeft_eq, Nat.one_mul] at inside
  rw [layer, BitVec.add_comm, BitVec.add_sub_cancel, BitVec.toNat_ofNat, Nat.mod_eq_of_lt inside]

namespace Target

/-- A target whose state holds bytes by address: a write lays bytes over them, and a read that does
not fail gives what is there. -/
structure Remembers (target : Target w ε τ) (contents : τ → ByteMap (BitVec w)) : Prop where
  write {before after : τ} {address : BitVec w} {bytes : Bytes} (fits : bytes.length ≤ 1 <<< w)
    (written : Attempt.run (target.write address bytes) before = (.ok ⟨⟩, after)) :
    contents after = (contents before).overlaid (MemoryWrite.layer ⟨address, bytes⟩)
  read {before after : τ} {address : BitVec w} {length : Nat} {block : Block length}
    (found : Attempt.run (target.read address length) before = (.ok block, after)) {index : Nat}
    (inside : index < length) :
    contents before (address + BitVec.ofNat w index) = block.val[index]?

theorem Remembers.contents_written {target : Target w ε τ} {contents : τ → ByteMap (BitVec w)}
    (remembers : target.Remembers contents) {before after : τ} {address : BitVec w} {bytes : Bytes}
    (fits : bytes.length ≤ 1 <<< w)
    (written : Attempt.run (target.write address bytes) before = (.ok ⟨⟩, after)) {index : Nat}
    (inside : index < bytes.length) :
    contents after (address + BitVec.ofNat w index) = bytes[index]? := by
  have here := MemoryWrite.layer_add ⟨address, bytes⟩ (Nat.lt_of_lt_of_le inside fits)
  rw [remembers.write fits written, ByteMap.overlaid, here, List.getElem?_eq_getElem inside,
    Option.some_or]

def writeAll (target : Target w ε τ) (writes : List (MemoryWrite w)) :
    Attempt τ (TargetError ε) Unit :=
  writes.forM fun write => target.write write.address write.bytes

theorem Remembers.contents_writeAll {target : Target w ε τ} {contents : τ → ByteMap (BitVec w)}
    (remembers : target.Remembers contents) {writes : List (MemoryWrite w)} {before after : τ}
    (fits : ∀ write ∈ writes, write.bytes.length ≤ 1 <<< w)
    (written : Attempt.run (target.writeAll writes) before = (.ok ⟨⟩, after)) :
    contents after =
      (writes.map MemoryWrite.layer).foldl ByteMap.overlaid (contents before) := by
  induction writes generalizing before with
  | nil =>
    cases written
    rfl
  | cons write rest ih =>
    obtain ⟨here, fits⟩ := List.forall_mem_cons.1 fits
    change Attempt.run (target.write write.address write.bytes >>= fun _ => target.writeAll rest)
      before = _ at written
    obtain ⟨_, middle, first, written⟩ := Attempt.run_bind_eq_ok.1 written
    rw [ih fits written, remembers.write here first]
    rfl

end Target

namespace Memory

theorem byte?_of_readByte {memory : Memory w ε} {address : BitVec w} {byte : UInt8}
    (found : memory.readByte address = .ok byte) : memory.byte? address = some byte := by
  unfold readByte at found
  split at found
  · cases found
  · rename_i _ here
    cases found
    exact here
  · cases found

theorem byte?_of_read {memory : Memory w ε} {address : BitVec w} {length : Nat}
    {block : Block length} (found : memory.read address length = .ok block) {index : Nat}
    (inside : index < length) :
    memory.byte? (address + BitVec.ofNat w index) = block.val[index]? := by
  induction length generalizing address index with
  | zero => exact absurd inside (Nat.not_lt_zero index)
  | succ length ih =>
    obtain ⟨byte, first, found⟩ := bind_eq_ok.1 found
    obtain ⟨rest, further, found⟩ := bind_eq_ok.1 found
    cases found
    cases index with
    | zero => rw [BitVec.add_zero, byte?_of_readByte first, List.getElem?_cons_zero]
    | succ index =>
      rw [add_ofNat_succ, List.getElem?_cons_succ]
      exact ih further (Nat.lt_of_succ_lt_succ inside)

theorem target_remembers : (target w ε).Remembers byte? where
  write {before after address bytes} fits written := by
    funext place
    have poked : after = before.poke address bytes := by
      simp only [target, Attempt.run_ofRun] at written
      cases stored : before.write address bytes with
      | error error =>
        rw [stored] at written
        cases written
      | ok next =>
        rw [stored] at written
        cases written
        rw [write] at stored
        split at stored
        · cases stored
        · cases stored
          rfl
    rw [poked, byte?_poke _ _ _ _ fits]
    exact Option.orElse_eq_or
  read {before after address length block} found {index} inside := by
    have read : before.read address length = .ok block := congrArg Prod.fst found
    exact byte?_of_read read inside

end Memory

end Inferior

import Inferior.Amd64.Trampoline
import Inferior.Proofs.Overlay

/-! The search for the code of a trampoline misses no copy of it.

Only offsets are tried at which the code has the byte that is found at the pc. As long as memory
answers byte by byte, a copy of the code at any other offset would have another byte there.
-/

set_option autoImplicit false

namespace Inferior

variable {w : Nat} {ε σ : Type}

def Target.tryRead (target : Target w ε σ) (address : BitVec w) (length : Nat) :
    StateM σ (Except (TargetError ε) (Block length)) := ExceptT.run (target.read address length)

namespace ByteMap

def Has (map : ByteMap (BitVec w)) (address : BitVec w) (bytes : Bytes) : Prop :=
  ∀ index < bytes.length, map (address + BitVec.ofNat w index) = bytes[index]?

instance (map : ByteMap (BitVec w)) (address : BitVec w) (bytes : Bytes) :
    Decidable (map.Has address bytes) :=
  inferInstanceAs (Decidable (∀ index < bytes.length, _))

theorem has_cons {map : ByteMap (BitVec w)} {address : BitVec w} {byte : UInt8} {rest : Bytes} :
    map.Has address (byte :: rest) ↔ map address = some byte ∧ map.Has (address + 1) rest := by
  constructor
  · intro has
    refine ⟨?_, fun index inside => ?_⟩
    · simpa using has 0 (Nat.zero_lt_succ _)
    · rw [← Memory.add_ofNat_succ]
      exact has (index + 1) (Nat.succ_lt_succ inside)
  · rintro ⟨here, further⟩ index inside
    cases index with
    | zero => simpa using here
    | succ index =>
      rw [Memory.add_ofNat_succ]
      exact further index (Nat.lt_of_succ_lt_succ inside)

theorem has_singleton {map : ByteMap (BitVec w)} {address : BitVec w} {byte : UInt8} :
    map.Has address [byte] ↔ map address = some byte :=
  has_cons.trans (and_iff_left nofun)

/-- Of a piece of code, the byte at an offset is found at a pc that is as far from the start. -/
theorem Has.byte {map : ByteMap (BitVec w)} {pc : BitVec w} {bytes : Bytes} {offset : Nat}
    (has : map.Has (pc - BitVec.ofNat w offset) bytes) (inside : offset < bytes.length) :
    map pc = bytes[offset]? := by
  have found := has offset inside
  rwa [BitVec.sub_add_cancel] at found

end ByteMap

/-- Reading gives the bytes of a map if all that are asked for can be read, and fails otherwise. That
is so in all states that are held, which no question makes the state leave. -/
structure ReadsBytes (read : BitVec w → (length : Nat) → StateM σ (Except ε (Block length)))
    (map : ByteMap (BitVec w)) (held : σ → Prop) : Prop where
  answers {state : σ} (start : held state) (address : BitVec w) (length : Nat) :
    ∃ answer next, (read address length).run state = (answer, next) ∧ held next ∧
      ∀ block, answer = .ok block ↔ map.Has address block.val

namespace Memory

def readable (memory : Memory w ε) : ByteMap (BitVec w) := fun address =>
  (memory.readByte address).toOption

theorem read_eq_ok_iff {memory : Memory w ε} {address : BitVec w} {length : Nat}
    {block : Block length} :
    memory.read address length = .ok block ↔ memory.readable.Has address block.val := by
  obtain ⟨bytes, sized⟩ := block
  subst sized
  -- By induction on the bytes, since memory is read one byte after the other.
  induction bytes generalizing address with
  | nil => exact iff_of_true rfl nofun
  | cons byte rest ih =>
    rw [ByteMap.has_cons, ← ih, readable]
    change memory.readByte address >>= (fun first =>
      memory.read (address + 1) rest.length >>= fun block => .ok _) = _ ↔ _
    cases memory.readByte address with
    | error error => exact iff_of_false nofun fun both => nomatch both.1
    | ok first =>
      rw [ok_bind]
      cases memory.read (address + 1) rest.length with
      | error error => exact iff_of_false nofun fun both => nomatch both.2
      | ok others =>
        obtain ⟨others, sized⟩ := others
        simp [Except.toOption]

theorem readsBytes_target (memory : Memory w ε) :
    ReadsBytes (target w ε).tryRead memory.readable (· = memory) where
  answers := by
    rintro _ rfl address length
    exact ⟨_, _, rfl, rfl, fun block => read_eq_ok_iff⟩

end Memory

namespace Amd64.TrampolineCode

variable {read : BitVec 64 → (length : Nat) → StateM σ (Except ε (Block length))}
  {map : ByteMap (BitVec 64)} {held : σ → Prop}

/-- The first of some offsets at which all of the code is found around the pc. -/
def firstCopy? (trampoline : TrampolineCode) (map : ByteMap (BitVec 64)) (pc : BitVec 64)
    (entries : List Nat) : Option Nat :=
  entries.find? fun entry => map.Has (pc - BitVec.ofNat 64 entry) trampoline.code

theorem run_locateFrom (reads : ReadsBytes read map held) {trampoline : TrampolineCode}
    {pc : BitVec 64} {opcode : UInt8} (here : map pc = some opcode) {entries : List Nat}
    (inside : ∀ entry ∈ entries, entry < trampoline.code.length) {state : σ} (start : held state) :
    ∃ next, held next ∧ (trampoline.locateFrom read pc (some opcode) entries).run state =
      ((trampoline.firstCopy? map pc entries).map (pc - BitVec.ofNat 64 ·), next) := by
  induction entries generalizing state with
  | nil => exact ⟨state, start, rfl⟩
  | cons entry rest ih =>
    obtain ⟨first, inside⟩ := List.forall_mem_cons.1 inside
    -- Where there is no copy, the search goes on behind this offset.
    have skip (absent : ¬map.Has (pc - BitVec.ofNat 64 entry) trampoline.code) :
        trampoline.firstCopy? map pc (entry :: rest) = trampoline.firstCopy? map pc rest :=
      List.find?_cons_of_neg (by simpa using absent)
    unfold locateFrom
    by_cases other : trampoline.code[entry]? ≠ some opcode
    · rw [if_pos other, skip fun has => other ((has.byte first).symm.trans here)]
      exact ih inside start
    · obtain ⟨answer, next, run, kept, whole⟩ :=
        reads.answers start (pc - BitVec.ofNat 64 entry) trampoline.code.length
      rw [if_neg other]
      rw [StateT.run_bind, run]
      cases answer with
      | error error =>
        rw [skip fun has => nomatch (whole ⟨trampoline.code, rfl⟩).2 has]
        exact ih inside kept
      | ok block =>
        change ∃ next', held next' ∧ StateT.run (if block.val = trampoline.code then
          pure (some (pc - BitVec.ofNat 64 entry)) else
            trampoline.locateFrom read pc (some opcode) rest) next = _
        by_cases same : block.val = trampoline.code
        · have found : map.Has (pc - BitVec.ofNat 64 entry) trampoline.code :=
            same ▸ (whole block).1 rfl
          rw [if_pos same, firstCopy?, List.find?_cons_of_pos (by simpa using found)]
          exact ⟨next, kept, rfl⟩
        · have absent (has : map.Has (pc - BitVec.ofNat 64 entry) trampoline.code) : False := by
            cases (whole ⟨trampoline.code, rfl⟩).2 has
            exact same rfl
          rw [if_neg same, skip absent]
          exact ih inside kept

/-- What is found is the same as if all of the code were compared at every offset: the start of the
first copy, or nothing if there is none. -/
theorem locate_eq_firstCopy (reads : ReadsBytes read map held) {trampoline : TrampolineCode}
    (inside : ∀ entry ∈ trampoline.entries, entry < trampoline.code.length) (pc : BitVec 64)
    {state : σ} (start : held state) :
    ∃ next, held next ∧ (trampoline.locate read pc).run state =
      ((trampoline.firstCopy? map pc trampoline.entries).map (pc - BitVec.ofNat 64 ·), next) := by
  obtain ⟨answer, next, run, kept, whole⟩ := reads.answers start pc 1
  unfold locate
  rw [StateT.run_bind, run]
  cases answer with
  | error error =>
    have unreadable : map pc = none := by
      refine Option.eq_none_iff_forall_ne_some.2 fun byte here => ?_
      cases (whole ⟨[byte], rfl⟩).2 (ByteMap.has_singleton.2 here)
    have absent : trampoline.firstCopy? map pc trampoline.entries = none := by
      refine List.find?_eq_none.2 fun entry listed has => ?_
      have found := ByteMap.Has.byte (of_decide_eq_true has) (inside entry listed)
      rw [unreadable, List.getElem?_eq_getElem (inside entry listed)] at found
      cases found
    rw [absent]
    exact ⟨next, kept, rfl⟩
  | ok block =>
    obtain ⟨bytes, sized⟩ := block
    obtain ⟨opcode, rfl⟩ := List.length_eq_one_iff.1 sized
    have here := ByteMap.has_singleton.1 ((whole _).1 rfl)
    exact run_locateFrom reads here inside kept

def padded : TrampolineCode where
  code := [0x90, 0x90, 0x0f, 0x05]
  entries := [2, 1, 0]

/-- A copy of the code around the end of the address space, before memory that cannot be read. -/
def wrappedMemory : Memory 64 Empty :=
  { Memory.poke ({} : Memory 64 Empty) 0xffffffffffffffff padded.code with
    faults := [⟨.read, ⟨3, 0x1000⟩, .nonFatal⟩] }

/-- The first offset is passed over, and at the second one the copy is found. -/
theorem locate_wrappedCopy : (∀ entry ∈ padded.entries, entry < padded.code.length) ∧
    (padded.locate (Memory.target 64 Empty).tryRead 0).run wrappedMemory =
      (some 0xffffffffffffffff, wrappedMemory) := by
  have inside : ∀ entry ∈ padded.entries, entry < padded.code.length := by decide
  obtain ⟨_, rfl, run⟩ := locate_eq_firstCopy wrappedMemory.readsBytes_target inside 0 rfl
  refine ⟨inside, run.trans ?_⟩
  have first : padded.firstCopy? wrappedMemory.readable 0 padded.entries = some 1 := by decide +kernel
  rw [first]
  rfl

end Amd64.TrampolineCode

end Inferior

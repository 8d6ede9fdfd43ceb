import Inferior.Amd64.Platform

/-! The layouts of GNU/Linux. Tables are by register number, and list offsets in bytes. -/

set_option autoImplicit false

namespace Inferior.Amd64.Linux

/-- The code to which a signal handler returns: `mov $0xf, %rax` and `syscall`. -/
def trampoline : TrampolineCode where
  code := [0x48, 0xc7, 0xc0, 0x0f, 0x00, 0x00, 0x00, 0x0f, 0x05]
  entries := [0, 7]

/-- The stack pointer of a trampoline's frame points to a structure with the saved registers at
this offset. -/
def contextOffset : Nat := 40

private def eightTimes (index : Nat) : Option Nat := some (8 * index)

/-- The saved registers of a signal context, which are the general ones without segments. -/
def contextTable : List (Option Nat) :=
  [13, 11, 14, 12, 9, 8, 10, 15, 0, 1, 2, 3, 4, 5, 6, 7, 16, 17].map eightTimes ++
    List.replicate 6 none

def generalTable : OffsetTable :=
  [10, 5, 11, 12, 13, 14, 4, 19, 9, 8, 7, 6, 3, 2, 1, 0, 16, 18, 17, 20, 23, 24, 25, 26].map
    eightTimes

def generalSize : Nat := 27 * 8

def jumpPcOffset : Nat := 7 * 8

def signals : SignalLayout where
  context := some (.stack (BitVec.ofNat 64 contextOffset))
  offsets := contextTable.map (Option.map (BitVec.ofNat 64))
  code := some trampoline

def config : Config where
  signals := signals
  general := some ⟨generalTable, generalSize⟩
  jumpPcOffset := some (BitVec.ofNat 64 jumpPcOffset)

def platform : Platform := ⟨config, rfl⟩

end Inferior.Amd64.Linux

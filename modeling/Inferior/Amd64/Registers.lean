import Inferior.Architecture

/-! The registers of the AMD64 architecture and their numbers: the general purpose registers,
the program counter and flags, segments, the x87 stack and its control registers, and the SSE
registers with their control register.
-/

set_option autoImplicit false

namespace Inferior.Amd64

abbrev rax : Nat := 0
abbrev rbx : Nat := 1
abbrev rcx : Nat := 2
abbrev rdx : Nat := 3
abbrev rsi : Nat := 4
abbrev rdi : Nat := 5
abbrev rbp : Nat := 6
abbrev rsp : Nat := 7
abbrev r8 : Nat := 8
abbrev r9 : Nat := 9
abbrev r10 : Nat := 10
abbrev r11 : Nat := 11
abbrev r12 : Nat := 12
abbrev r13 : Nat := 13
abbrev r14 : Nat := 14
abbrev r15 : Nat := 15
abbrev rip : Nat := 16
abbrev eflags : Nat := 17
abbrev cs : Nat := 18
abbrev ss : Nat := 19
abbrev ds : Nat := 20
abbrev es : Nat := 21
abbrev fs : Nat := 22
abbrev gs : Nat := 23
abbrev fctrl : Nat := 32
abbrev fstat : Nat := 33
abbrev ftag : Nat := 34
abbrev fiseg : Nat := 35
abbrev fioff : Nat := 36
abbrev foseg : Nat := 37
abbrev fooff : Nat := 38
abbrev fop : Nat := 39
abbrev mxcsr : Nat := 56

abbrev st (index : Nat) : Nat := 24 + index

abbrev xmm (index : Nat) : Nat := 40 + index

/-- The general registers are `rax` to `gs`. They are what a general register set holds and
what a stack frame may save. -/
abbrev generalCount : Nat := 24

abbrev stSize : Nat := 10

private def named (size : Nat) (name : String) : Register := ⟨some name, some size⟩

def registers : List Register :=
  ["rax", "rbx", "rcx", "rdx", "rsi", "rdi", "rbp", "rsp", "r8", "r9", "r10", "r11", "r12", "r13",
    "r14", "r15", "rip"].map (named 8) ++
  ["eflags", "cs", "ss", "ds", "es", "fs", "gs"].map (named 4) ++
  ["st0", "st1", "st2", "st3", "st4", "st5", "st6", "st7"].map (named stSize) ++
  ["fctrl", "fstat", "ftag", "fiseg", "fioff", "foseg", "fooff", "fop"].map (named 4) ++
  ["xmm0", "xmm1", "xmm2", "xmm3", "xmm4", "xmm5", "xmm6", "xmm7", "xmm8", "xmm9", "xmm10",
    "xmm11", "xmm12", "xmm13", "xmm14", "xmm15"].map (named 16) ++
  [named 4 "mxcsr"]

def registerFile : RegisterFile := ⟨registers⟩

/-- The stack grows down, so the inner of two frames has the lower address. -/
def architecture : Architecture 64 where
  file := registerFile
  programCounter := rip
  stackPointer := rsp

theorem architecture_ordersFrames : architecture.OrdersFrames :=
  Architecture.ordersFrames_of_downward fun _ _ => rfl

end Inferior.Amd64

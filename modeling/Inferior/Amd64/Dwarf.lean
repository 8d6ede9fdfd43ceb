import Inferior.Amd64.Registers

/-! The numbers that debugging information in DWARF format gives to registers. -/

set_option autoImplicit false

namespace Inferior.Amd64.Dwarf

/-- Registers by DWARF number. The first eight have an order of their own, and a number without a
register is reserved or that of a register outside of the register file. -/
def table : List (Option Nat) :=
  ([rax, rdx, rcx, rbx, rsi, rdi, rbp, rsp, r8, r9, r10, r11, r12, r13, r14, r15, rip] ++
    (List.range 16).map xmm ++ (List.range 8).map st ++
    [eflags, es, cs, ss, ds, fs, gs]).map some ++
  List.replicate 8 none ++ [some mxcsr, some fctrl, some fstat]

def register? (number : Nat) : Option Nat := (table[number]?).join

end Inferior.Amd64.Dwarf

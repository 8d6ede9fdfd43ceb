import Inferior.Architecture

/-! Small architectures for trying out unwinders. All have the same seven registers, of which the
last one has neither a name nor a size.
-/

set_option autoImplicit false

namespace Inferior.Architecture

/-- Three address registers of a size in bytes, and registers of other sizes. -/
def sampleFile (size : Nat) : RegisterFile :=
  ⟨[⟨some "pc", some size⟩, ⟨some "sp", some size⟩, ⟨some "fp", some size⟩, ⟨some "half", some 2⟩,
    ⟨some "wide", some 16⟩, ⟨some "long", some 10⟩, ⟨none, none⟩]⟩

def sample (w size : Nat) : Architecture w where
  file := sampleFile size
  programCounter := 0
  stackPointer := 1

def upwardSample (w size : Nat) : Architecture w :=
  { sample w size with innerThan := fun inner outer => outer < inner }

theorem sample_ordersFrames (w size : Nat) : (sample w size).OrdersFrames :=
  ordersFrames_of_downward fun _ _ => rfl

theorem upwardSample_ordersFrames (w size : Nat) : (upwardSample w size).OrdersFrames :=
  (sample_ordersFrames w size).turned

end Inferior.Architecture

import Inferior.Amd64.Registers

/-! Where a frame saves registers: a place for each general register that is saved. Registers
beyond the general ones are never saved.
-/

set_option autoImplicit false

namespace Inferior.Amd64

structure SavedRegisters (α : Type) where
  places : Vector (Option α) generalCount
  deriving DecidableEq, Repr

namespace SavedRegisters

variable {α β : Type}

def empty : SavedRegisters α := ⟨Vector.replicate generalCount none⟩

/-- Record the place of a register. Registers that are not general are ignored. -/
def set (saved : SavedRegisters α) (number : Nat) (place : α) : SavedRegisters α :=
  ⟨saved.places.setIfInBounds number (some place)⟩

def get? (saved : SavedRegisters α) (number : Nat) : Option α := (saved.places[number]?).join

@[simp] theorem get?_empty (number : Nat) : (empty : SavedRegisters α).get? number = none := by
  simp only [get?, empty]
  rw [Vector.getElem?_replicate]
  split <;> rfl

theorem get?_set (saved : SavedRegisters α) (number other : Nat) (place : α) :
    (saved.set number place).get? other =
      if other = number ∧ number < generalCount then some place else saved.get? other := by
  simp only [get?, set, Vector.getElem?_setIfInBounds]
  grind

def map (change : α → β) (saved : SavedRegisters α) : SavedRegisters β :=
  ⟨saved.places.map (Option.map change)⟩

@[simp] theorem get?_map (change : α → β) (saved : SavedRegisters α) (number : Nat) :
    (saved.map change).get? number = (saved.get? number).map change := by
  simp only [get?, map, Vector.getElem?_map]
  cases saved.places[number]? <;> rfl

def toList (saved : SavedRegisters α) : List (Nat × α) :=
  saved.places.toList.zipIdx.filterMap fun (place, number) => place.map (number, ·)

def ofTable (table : List (Option α)) : SavedRegisters α :=
  table.zipIdx.foldl (fun saved (place, number) => match place with
    | some place => saved.set number place
    | none => saved) empty

theorem get?_setFrom (table : List (Option α)) (first number : Nat) (saved : SavedRegisters α) :
    ((table.zipIdx first).foldl (fun saved (place, number) => match place with
      | some place => saved.set number place
      | none => saved) saved).get? number =
      if first ≤ number ∧ number < generalCount then
        table[number - first]?.join <|> saved.get? number
      else saved.get? number := by
  induction table generalizing first saved with
  | nil => simp
  | cons place rest ih =>
    rw [List.zipIdx_cons, List.foldl_cons, ih]
    rcases Nat.lt_trichotomy first number with before | here | after
    · have next : number - first = number - (first + 1) + 1 := by omega
      rw [next, List.getElem?_cons_succ]
      cases place with
      | none => grind
      | some place => grind [get?_set]
    · subst here
      cases place with
      | none => grind
      | some place => grind [get?_set]
    · cases place with
      | none => grind
      | some place => grind [get?_set]

theorem get?_ofTable (table : List (Option α)) (number : Nat) :
    (ofTable table).get? number =
      if number < generalCount then table[number]?.join else none := by
  rw [ofTable, get?_setFrom, get?_empty]
  simp

def toAddresses (base : BitVec 64) (offsets : SavedRegisters Int) : SavedRegisters (BitVec 64) :=
  offsets.map fun offset => base + BitVec.ofInt 64 offset

end SavedRegisters

end Inferior.Amd64

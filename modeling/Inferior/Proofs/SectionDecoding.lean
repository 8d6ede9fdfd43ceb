import Inferior.Amd64.CoreThread
import Inferior.Amd64.Linux
import Inferior.Proofs.FxsaveArea

/-! Which sections of core files can be decoded. A platform is checked once, and sections are matched
with register sets by their length later on. The check covers the layout of the general registers.
It does not cover the length of the floating-point sections, and a platform that accepts ones shorter
than an FXSAVE area cannot decode them.
-/

set_option autoImplicit false

namespace Inferior

/-- Registers can be moved both ways between a cache and blobs of a length. -/
def RegisterSet.Decodes {file : RegisterFile} (set : RegisterSet file) (length : Nat) : Prop :=
  ∀ (selection : Selection) (cache : RegisterCache file) (blob : Bytes), blob.length = length →
    (Attempt.run (set.codec.supply selection blob) cache).1 = .ok ⟨⟩ ∧
      (Attempt.run (set.codec.collect cache selection) blob).1 = .ok ⟨⟩

namespace Amd64

namespace Config

theorem slotEnd_eq_ok {general : GeneralSet} {number offset stop : Nat}
    (found : slotEnd general number offset = .ok stop) :
    (registerFile.size? number).isSome ∧ offset + registerFile.width number = stop := by
  unfold slotEnd at found
  cases sized : registerFile.size? number with
  | none =>
    rw [sized] at found
    cases found
  | some size =>
    rw [sized] at found
    by_cases small : offset + size < 1 <<< 64
    · simp only [Overflow.add_eq_iff.2 small] at found
      cases found
      simp [RegisterFile.width, sized]
    · have lost : Overflow.stops.add offset size = none := if_neg small
      simp only [lost] at found
      cases found

theorem foldlM_slotEnd {general : GeneralSet} {slots : List (Nat × Nat)} {least needed : Nat}
    (found : slots.foldlM (fun needed slot => do
      return max needed (← slotEnd general slot.1 slot.2)) least = .ok needed) :
    least ≤ needed ∧ ∀ slot ∈ slots, (registerFile.size? slot.1).isSome ∧
      slot.2 + registerFile.width slot.1 ≤ needed := by
  -- By induction on the slots, for any start: what is needed only grows on the way.
  induction slots generalizing least with
  | nil =>
    cases found
    simp
  | cons slot rest ih =>
    rw [List.foldlM_cons] at found
    obtain ⟨more, first, found⟩ := bind_eq_ok.1 found
    obtain ⟨stop, ended, grown⟩ := bind_eq_ok.1 first
    cases grown
    obtain ⟨known, rfl⟩ := slotEnd_eq_ok ended
    obtain ⟨enough, further⟩ := ih found
    exact ⟨by omega, List.forall_mem_cons.2 ⟨⟨known, by omega⟩, further⟩⟩

theorem fits_of_checkGeneral {general : GeneralSet} (checked : checkGeneral general = .ok ⟨⟩) :
    general.table.Fits registerFile general.size := by
  obtain ⟨_, -, checked⟩ := bind_eq_ok.1 checked
  obtain ⟨needed, found, checked⟩ := bind_eq_ok.1 checked
  have enough : needed ≤ general.size := by
    apply Nat.le_of_not_lt
    intro small
    rw [if_pos small] at checked
    cases checked
  intro number offset slot
  have listed : (number, offset) ∈ general.table.selected .all :=
    OffsetTable.mem_selected.2 ⟨slot, rfl⟩
  obtain ⟨known, inside⟩ := (foldlM_slotEnd found).2 _ listed
  exact ⟨known, Nat.le_trans inside enough⟩

end Config

namespace CoreThread

variable {platform : Platform} {part : RegisterSection} {set : RegisterSet registerFile}
  {cache next : RegisterCache registerFile}

theorem run_supply_cons_of_ok
    (accepted : platform.registerSet? part.name part.contents.length = some set)
    (supplied : Attempt.run (set.codec.supply .all part.contents) cache = (.ok ⟨⟩, next))
    (rest : CoreThread) :
    Attempt.run (supply platform (part :: rest)) cache = Attempt.run (supply platform rest) next := by
  rw [supply, List.forM_eq_forM, List.forM_cons, Attempt.run_bind]
  simp only [accepted, Attempt.mapError, Attempt.run_ofRun, supplied]
  rfl

theorem run_supply_cons_of_error {error : RegisterSetError}
    (accepted : platform.registerSet? part.name part.contents.length = some set)
    (refused : Attempt.run (set.codec.supply .all part.contents) cache = (.error error, next))
    (rest : CoreThread) :
    Attempt.run (supply platform (part :: rest)) cache = (.error (.registerSet error), next) := by
  rw [supply, List.forM_eq_forM, List.forM_cons, Attempt.run_bind]
  simp only [accepted, Attempt.mapError, Attempt.run_ofRun, refused]
  rfl

end CoreThread

namespace Platform

variable {platform : Platform}

theorem fits_general {general : GeneralSet} (configured : platform.config.general = some general) :
    general.table.Fits registerFile general.size := by
  obtain ⟨_, -, checked⟩ := bind_eq_ok.1 platform.checked
  rw [configured] at checked
  exact Config.fits_of_checkGeneral checked

theorem registerSet?_eq_some {name : String} {length : Nat} {set : RegisterSet registerFile}
    (accepted : platform.registerSet? name length = some set) :
    ∃ general, platform.config.general = some general ∧
      (name = generalSection ∧ length = general.size ∧ set.codec = general.table.codec ∨
        name = floatSection ∧ length = platform.config.floatSize ∧ set.codec = Fxsave.codec) := by
  have listed := List.mem_of_find?_eq_some accepted
  have matched := List.find?_some accepted
  unfold registerSets at listed
  split at listed
  · cases listed
  · rename_i general configured
    refine ⟨general, configured, ?_⟩
    simp only [RegisterSet.accepts, Bool.and_eq_true, beq_iff_eq] at matched
    simp only [List.mem_cons, List.not_mem_nil, or_false] at listed
    obtain rfl | rfl := listed
    · exact .inl ⟨matched.1.symm, of_decide_eq_true matched.2, rfl⟩
    · exact .inr ⟨matched.1.symm, of_decide_eq_true matched.2, rfl⟩

theorem registerSet?_float {general : GeneralSet}
    (configured : platform.config.general = some general) :
    platform.registerSet? floatSection platform.config.floatSize =
      some ⟨floatSection, .exactly platform.config.floatSize, Fxsave.codec⟩ := by
  have elsewhere : (generalSection == floatSection) = false := rfl
  simp [registerSet?, RegisterSet.select?, registerSets, configured, RegisterSet.accepts,
    SectionLength.fits, elsewhere]

def DecodesAccepted (platform : Platform) : Prop :=
  ∀ (name : String) (length : Nat) (set : RegisterSet registerFile),
    platform.registerSet? name length = some set → set.Decodes length

def SuppliesThreads (platform : Platform) : Prop :=
  ∀ (thread : CoreThread) (cache : RegisterCache registerFile),
    (Attempt.run (CoreThread.supply platform thread) cache).1 = .ok ⟨⟩

/-- The floating-point sections of a platform that has register sets are long enough for an area. -/
def FloatFits (platform : Platform) : Prop :=
  platform.config.general.isSome → Fxsave.areaSize ≤ platform.config.floatSize

theorem FloatFits.decodesAccepted (fits : platform.FloatFits) : platform.DecodesAccepted := by
  intro name length set accepted selection cache blob sized
  obtain ⟨general, configured, ⟨-, rfl, codec⟩ | ⟨-, rfl, codec⟩⟩ := registerSet?_eq_some accepted
  · have inside := fits_general configured
    rw [← sized] at inside
    rw [codec]
    exact ⟨congrArg Prod.fst (inside.run_supply cache), congrArg Prod.fst (inside.run_collect cache)⟩
  · have long := fits (Option.isSome_of_eq_some configured)
    rw [← sized] at long
    rw [codec]
    exact ⟨congrArg Prod.fst (Fxsave.run_supply long cache),
      congrArg Prod.fst (Fxsave.run_collect long cache)⟩

/-- A thread is supplied section by section, and each section is supplied or left out. -/
theorem DecodesAccepted.suppliesThreads (decodes : platform.DecodesAccepted) :
    platform.SuppliesThreads := by
  intro thread cache
  apply Attempt.run_forM_eq_ok
  intro part _ cache
  split
  · rename_i set accepted
    have supplied := (decodes _ _ _ accepted .all cache part.contents rfl).1
    exact congrArg (Except.mapError CoreError.registerSet) supplied
  · rfl

/-- A section of the accepted length that is shorter than an area makes its thread fail. -/
theorem run_supply_of_short {general : GeneralSet}
    (configured : platform.config.general = some general)
    (short : platform.config.floatSize < Fxsave.areaSize) {contents : Bytes}
    (sized : contents.length = platform.config.floatSize) (cache : RegisterCache registerFile) :
    Attempt.run (CoreThread.supply platform [⟨floatSection, contents⟩]) cache =
      (.error (.registerSet (.blobTooShort Fxsave.areaSize platform.config.floatSize)), cache) := by
  have accepted := registerSet?_float configured
  rw [← sized] at accepted short ⊢
  exact CoreThread.run_supply_cons_of_error accepted (Fxsave.run_supply_of_short short .all cache) []

theorem SuppliesThreads.floatFits (supplies : platform.SuppliesThreads) : platform.FloatFits := by
  intro configured
  obtain ⟨general, configured⟩ := Option.isSome_iff_exists.1 configured
  apply Nat.le_of_not_lt
  intro short
  have supplied := supplies [⟨floatSection, Bytes.zeros platform.config.floatSize⟩]
    (.empty registerFile)
  rw [run_supply_of_short configured short (Bytes.length_zeros _)] at supplied
  cases supplied

/-- What a platform accepts it can decode, and what a core file holds it can supply, if and only if its
floating-point sections are as long as an FXSAVE area. -/
theorem decodesAccepted_iff (platform : Platform) :
    (platform.DecodesAccepted ↔ platform.FloatFits) ∧
      (platform.SuppliesThreads ↔ platform.FloatFits) := by
  have supplies : platform.DecodesAccepted → platform.SuppliesThreads :=
    DecodesAccepted.suppliesThreads
  constructor
  · exact ⟨fun decodes => (supplies decodes).floatFits, FloatFits.decodesAccepted⟩
  · exact ⟨SuppliesThreads.floatFits, fun fits => supplies fits.decodesAccepted⟩

end Platform

namespace Linux

example : Fxsave.areaSize ≤ platform.config.floatSize := by decide

/-- GNU/Linux with floating-point sections of a hundred bytes, which passes all checks. -/
def truncated : Platform := ⟨{ config with floatSize := 100 }, rfl⟩

theorem not_all_decodesAccepted :
    ¬ ∀ platform : Platform, platform.DecodesAccepted ∧ platform.SuppliesThreads := by
  intro all
  have short := (all truncated).2.floatFits rfl
  exact absurd short (by decide)

end Linux

end Amd64

end Inferior

import Inferior.Frame.Rule
import Inferior.Proofs.Reliability

/-! Walking a call stack with unwinders that are described by rules.

A rule adds no failures to those of its questions, except for the one that it calls for. So a walk
fails as its accesses do, as one of the rules says, or at a frame that no unwinder claims, and for
no other reason. Where no rule calls for a failure and one of the unwinders claims every frame, the
walk is as reliable as one with the unwinders of a platform.
-/

set_option autoImplicit false

namespace Inferior

variable {w : Nat} {ε τ : Type}

theorem RuleSource.relays_eval {allowed : Error ε → Prop} {source : RuleSource w}
    (calls : ∀ text, source = .fail text → allowed (.internal text)) (pc : BitVec w) :
    (source.eval pc : FrameQuery w ε _).Relays allowed := by
  cases source with
  | constant => trivial
  | register number => exact FrameQuery.relays_askAddress number
  | load number offset =>
    refine (FrameQuery.relays_askAddress number).bind fun address _ => ?_
    refine (FrameQuery.relays_askMemory (address + offset) (Address.width w)).bind fun block _ => ?_
    rw [Address.ofBytes?_eq_some]
    trivial
  | functionEntry => exact (FrameQuery.relays_askFunctionEntry pc).bind fun _ _ => trivial
  | addressInBlock => exact FrameQuery.relays_askAddressInBlock pc
  | pc => trivial
  | innerKind => exact FrameQuery.relays_askInnerKind.bind fun _ _ => trivial
  | fail text => exact calls text rfl

theorem Rule.relays_eval {allowed : Error ε → Prop} {rule : Rule w}
    (calls : ∀ text, rule.source = .fail text → allowed (.internal text)) (pc : BitVec w) :
    (rule.eval pc : FrameQuery w ε _).Relays allowed :=
  (RuleSource.relays_eval calls pc).bind fun _ _ => trivial

namespace RuleUnwinder

/-- A failure that one of the rules calls for. -/
def CallsFor (rules : RuleUnwinder w) (error : Error ε) : Prop :=
  ∃ rule text, (rules.claim = some rule ∨ rules.base = rule) ∧ rule.source = .fail text ∧
    error = .internal text

section Questions

variable {allowed : Error ε → Prop} {rules : RuleUnwinder w}
  (calls : ∀ error, rules.CallsFor error → allowed error) (pc : BitVec w)
include calls

theorem relays_claims : ((rules.unwinder ε).claims pc).Relays allowed := by
  unfold unwinder
  cases claim : rules.claim with
  | none => trivial
  | some rule =>
    have asked : (rule.eval pc : FrameQuery w ε _).Relays allowed :=
      Rule.relays_eval (fun text fails => calls _ ⟨rule, text, .inl claim, fails, rfl⟩) pc
    exact asked.bind fun _ _ => trivial

theorem relays_cache : ((rules.unwinder ε).cache pc).Relays allowed :=
  Rule.relays_eval (fun text fails => calls _ ⟨rules.base, text, .inr rfl, fails, rfl⟩) pc

end Questions

def walker (architecture : Architecture w) (target : Target w ε τ)
    (registers : RegisterCache architecture.file) (unwinders : List (RuleUnwinder w)) :
    Walker w ε (BitVec w) τ where
  architecture
  target
  registers
  unwinders := unwinders.map (·.unwinder ε)

section Walks

variable (architecture : Architecture w) (target : Target w ε τ)
  (registers : RegisterCache architecture.file) {unwinders : List (RuleUnwinder w)}

theorem tolerates {allowed : Error ε → Prop} (access : ∀ error, error.IsAccess → allowed error)
    (calls : ∀ rules ∈ unwinders, ∀ error, rules.CallsFor error → allowed error)
    (exhaustive : (∃ rules ∈ unwinders, rules.claim = none) ∨ ∀ level, allowed (.noUnwinder level)) :
    (walker architecture target registers unwinders).Tolerates allowed where
  target error := access _ trivial
  register error := access _ trivial
  claims {unwinder} listed pc := by
    obtain ⟨rules, member, rfl⟩ := List.mem_map.1 listed
    exact relays_claims (calls rules member) pc
  cache {unwinder} listed {pc} _ := by
    obtain ⟨rules, member, rfl⟩ := List.mem_map.1 listed
    exact relays_cache (calls rules member) pc
  exhaustive := by
    refine exhaustive.imp_left fun ⟨rules, listed, all⟩ => ?_
    refine ⟨rules.unwinder ε, List.mem_map_of_mem listed, fun pc => ?_⟩
    unfold unwinder
    rw [all]

/-- The ways in which a walk fails that is described by rules. -/
inductive Fails (unwinders : List (RuleUnwinder w)) : Error ε → Prop where
  | access {error : Error ε} (access : error.IsAccess) : Fails unwinders error
  | called {rules : RuleUnwinder w} (listed : rules ∈ unwinders) {error : Error ε}
      (calls : rules.CallsFor error) : Fails unwinders error
  | unclaimed (selective : ∀ rules ∈ unwinders, rules.claim ≠ none) (level : Nat) :
      Fails unwinders (.noUnwinder level)

theorem tolerates_fails :
    (walker architecture target registers unwinders).Tolerates (Fails unwinders) := by
  refine tolerates architecture target registers (fun _ => .access)
    (fun _ listed _ => .called listed) ?_
  by_cases all : ∃ rules ∈ unwinders, rules.claim = none
  · exact .inl all
  · exact .inr (.unclaimed fun rules listed claim => all ⟨rules, listed, claim⟩)

variable {architecture target registers}

/-- Whatever has been asked before, a question that a handle on a frame answers fails for one of the
reasons, or since it is about a frame that has not been found yet. -/
theorem fails_after {memory : τ} {first : CallStack w ε (BitVec w) τ}
    (started : (walker architecture target registers unwinders).start memory = .ok first)
    (history : List (StackCall w ε)) {call : StackCall w ε}
    (basic : ∀ level query, call = .ask level query → query.Basic) {error : Error ε}
    {after : CallStack w ε (BitVec w) τ}
    (run : Attempt.run ((walker architecture target registers unwinders).perform call)
      ((walker architecture target registers unwinders).after history first) =
        (.error error, after)) :
    Fails unwinders error ∨ error = .internal "frame level out of range" := by
  have intact := (Walker.intact_after history (Walker.intact_start started)).1
  obtain ⟨result, _, run', -, -, fails, -⟩ :=
    Walker.maintains_any (tolerates_fails architecture target registers) intact
      fun level query same => (basic level query same).relays _
  cases run.symm.trans run'
  exact (fails error rfl).imp_right And.left

/-- With an unwinder for all frames and no rule that calls for a failure, a call stack can be relied
on after any questions. -/
theorem reliable_of_claimsAll (claimsAll : ∃ rules ∈ unwinders, rules.claim = none)
    (calm : ∀ rules ∈ unwinders, ∀ error : Error ε, ¬rules.CallsFor error) {memory : τ}
    {first : CallStack w ε (BitVec w) τ}
    (started : (walker architecture target registers unwinders).start memory = .ok first)
    (history : List (StackCall w ε)) :
    (walker architecture target registers unwinders).Reliable
      ((walker architecture target registers unwinders).after history first) := by
  have tolerates : (walker architecture target registers unwinders).Tolerates Error.IsAccess :=
    tolerates architecture target registers (fun _ => id)
      (fun rules listed error called => absurd called (calm rules listed error)) (.inl claimsAll)
  exact (Walker.intact_after history (Walker.intact_start started)).1.reliable tolerates

end Walks

end RuleUnwinder

end Inferior

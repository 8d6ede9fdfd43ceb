import Inferior.Proofs.FunctionFrame

/-! What can go wrong when an unwinder asks about a frame.

An unwinder may go on after a failed answer or pass the failure on. One that adds no failures of its
own fails only in the ways in which its questions do, whoever answers them. The unwinders of a platform
are of that kind wherever they are used.
-/

set_option autoImplicit false

namespace Inferior

variable {w : Nat} {ε κ τ α β : Type}

def Error.IsAccess : Error ε → Prop
  | .target _ | .register _ => True
  | .noUnwinder _ | .cacheRecursion _ | .internal _ => False

def FailsOnly (allowed : Error ε → Prop) (result : Except (Error ε) α) : Prop :=
  ∀ error, result = .error error → allowed error

theorem failsOnly_ok {allowed : Error ε → Prop} (value : α) :
    FailsOnly allowed (.ok value) := nofun

theorem failsOnly_error {allowed : Error ε → Prop} {error : Error ε} (fine : allowed error) :
    FailsOnly allowed (.error error : Except (Error ε) α) := by
  rintro _ ⟨⟩
  exact fine

theorem FailsOnly.mapError {ε' : Type} {allowed : Error ε → Prop} {wrap : ε' → Error ε}
    (fine : ∀ error, allowed (wrap error)) (result : Except ε' α) :
    FailsOnly allowed (result.mapError wrap) := by
  cases result with
  | ok value => exact failsOnly_ok value
  | error error => exact failsOnly_error (fine error)

namespace FrameQuery

variable {allowed : Error ε → Prop} {post : α → Prop}

/-- Whatever is answered, as long as no answer fails in a way that is not allowed, the questions
come to a result with a property or fail in a way that is allowed. -/
def Ensures (allowed : Error ε → Prop) (post : α → Prop) : FrameQuery w ε α → Prop
  | .done (.ok value) => post value
  | .done (.error error) => allowed error
  | .innerKind resume => ∀ answer, FailsOnly allowed answer → (resume answer).Ensures allowed post
  | .register _ resume => ∀ answer, FailsOnly allowed answer → (resume answer).Ensures allowed post
  | .memory _ _ resume => ∀ answer, FailsOnly allowed answer → (resume answer).Ensures allowed post
  | .functionEntry _ resume => ∀ answer, (resume answer).Ensures allowed post

/-- Whether questions fail in no other way than the answers to them. -/
def Relays (allowed : Error ε → Prop) (query : FrameQuery w ε α) : Prop :=
  query.Ensures allowed fun _ => True

theorem ensures_done {result : Except (Error ε) α} (fails : FailsOnly allowed result)
    (holds : ∀ value, result = .ok value → post value) : (done result : FrameQuery w ε α).Ensures
      allowed post := by
  cases result with
  | ok value => exact holds value rfl
  | error error => exact fails error rfl

theorem relays_done {result : Except (Error ε) α} (fails : FailsOnly allowed result) :
    (done result : FrameQuery w ε α).Relays allowed :=
  ensures_done fails fun _ _ => trivial

theorem Ensures.bind {query : FrameQuery w ε α} {next : α → FrameQuery w ε β} {last : β → Prop}
    (first : query.Ensures allowed post)
    (second : ∀ value, post value → (next value).Ensures allowed last) :
    (query >>= next).Ensures allowed last := by
  change (query.bind next).Ensures allowed last
  induction query with
  | done result =>
    cases result with
    | ok value => exact second value first
    | error error => exact first
  | innerKind resume ih => exact fun answer fails => ih answer (first answer fails)
  | register number resume ih => exact fun answer fails => ih answer (first answer fails)
  | memory address length resume ih => exact fun answer fails => ih answer (first answer fails)
  | functionEntry address resume ih => exact fun answer => ih answer (first answer)

theorem Ensures.imp {query : FrameQuery w ε α} {weaker : α → Prop}
    (ensures : query.Ensures allowed post) (weakens : ∀ value, post value → weaker value) :
    query.Ensures allowed weaker := by
  have further : (query >>= pure).Ensures allowed weaker := ensures.bind weakens
  rwa [bind_pure] at further

/-- Without any question there is only one result. -/
theorem Relays.ensures_pure {query : FrameQuery w ε α} (relays : query.Relays allowed) :
    query.Ensures allowed fun value => ∀ other, query = pure other → value = other := by
  cases query with
  | done result =>
    cases result with
    | ok value =>
      rintro _ ⟨⟩
      rfl
    | error error => exact relays
  | innerKind | register | memory | functionEntry => exact relays.imp fun _ _ _ => nofun

theorem relays_of_all (all : ∀ error, allowed error) (query : FrameQuery w ε α) :
    query.Relays allowed := by
  induction query with
  | done result => exact relays_done fun error _ => all error
  | innerKind resume ih => exact fun answer _ => ih answer
  | register number resume ih => exact fun answer _ => ih answer
  | memory address length resume ih => exact fun answer _ => ih answer
  | functionEntry address resume ih => exact ih

theorem relays_askInnerKind : (askInnerKind : FrameQuery w ε _).Relays allowed :=
  fun _ => relays_done

theorem relays_askRegister (number : Nat) :
    (askRegister number : FrameQuery w ε _).Relays allowed :=
  fun _ => relays_done

theorem relays_askMemory (address : BitVec w) (length : Nat) :
    (askMemory address length : FrameQuery w ε _).Relays allowed :=
  fun _ => relays_done

theorem ensures_tryMemory (address : BitVec w) (length : Nat) :
    (tryMemory address length : FrameQuery w ε _).Ensures allowed (FailsOnly allowed) :=
  fun _ fails => fails

theorem relays_askAddress (number : Nat) :
    (askAddress number : FrameQuery w ε (BitVec w)).Relays allowed := by
  refine (relays_askRegister number).bind fun bytes _ => ?_
  rw [Address.ofBytes?_eq_some]
  trivial

theorem relays_askAddressInBlock (pc : BitVec w) :
    (askAddressInBlock pc : FrameQuery w ε _).Relays allowed :=
  relays_askInnerKind.bind fun _ _ => trivial

theorem relays_askFunctionEntry (pc : BitVec w) :
    (askFunctionEntry pc : FrameQuery w ε _).Relays allowed :=
  (relays_askAddressInBlock pc).bind fun _ _ _ => trivial

end FrameQuery

namespace Walker

/-- Nothing that happens on a walk makes it fail in a way that is not allowed. An unwinder may have a
cache for claimed frames only. -/
structure Tolerates (walker : Walker w ε κ τ) (allowed : Error ε → Prop) : Prop where
  target (error : TargetError ε) : allowed (.target error)
  register (error : RegisterError) : allowed (.register error)
  claims {unwinder : Unwinder w ε κ} (listed : unwinder ∈ walker.unwinders) (pc : BitVec w) :
    (unwinder.claims pc).Relays allowed
  cache {unwinder : Unwinder w ε κ} (listed : unwinder ∈ walker.unwinders) {pc : BitVec w}
    (claimed : unwinder.claims pc ≠ pure false) : (unwinder.cache pc).Relays allowed
  /-- Some unwinder claims every frame, or else it is allowed that none does. -/
  exhaustive : (∃ unwinder ∈ walker.unwinders, ∀ pc, unwinder.claims pc = pure true) ∨
    ∀ level, allowed (.noUnwinder level)

theorem tolerates_of_all (walker : Walker w ε κ τ) {allowed : Error ε → Prop}
    (all : ∀ error, allowed error) : walker.Tolerates allowed where
  target _ := all _
  register _ := all _
  claims _ _ := FrameQuery.relays_of_all all _
  cache _ _ _ := FrameQuery.relays_of_all all _
  exhaustive := .inr fun _ => all _

end Walker

namespace Amd64

section Unwinders

variable {allowed : Error ε → Prop}

theorem ensures_analyze (start current : BitVec 64) (prologue : Prologue) :
    (Prologue.analyze FrameQuery.tryMemory start current prologue).Ensures allowed fun outcome =>
      FailsOnly allowed outcome.1 := by
  unfold Prologue.analyze
  split
  · exact failsOnly_ok current
  · refine (FrameQuery.ensures_tryMemory start 1).bind fun first fails => ?_
    cases first with
    | error error => exact failsOnly_error (fails error rfl)
    | ok first =>
      dsimp only
      split
      · exact failsOnly_ok start
      · split
        · exact failsOnly_ok current
        · refine (FrameQuery.ensures_tryMemory (start + 1) 3).bind fun second fails => ?_
          cases second with
          | error error => exact failsOnly_error (fails error rfl)
          | ok second =>
            dsimp only
            split
            · exact failsOnly_ok (start + 1)
            · exact failsOnly_ok (start + 4)

theorem relays_prologueAt (function pc : BitVec 64) :
    (FrameCache.prologueAt function pc : FrameQuery 64 ε Prologue).Relays allowed := by
  unfold FrameCache.prologueAt
  split
  · trivial
  · refine (ensures_analyze function pc {}).bind fun outcome fails => ?_
    obtain ⟨stop, prologue⟩ := outcome
    cases stop with
    | ok stop => trivial
    | error error => exact fails error rfl

theorem relays_baseAfter (prologue : Prologue) :
    (FrameCache.baseAfter prologue : FrameQuery 64 ε (BitVec 64)).Relays allowed := by
  unfold FrameCache.baseAfter
  split
  · exact (FrameQuery.relays_askAddress rsp).bind fun _ _ => trivial
  · exact FrameQuery.relays_askAddress rbp

theorem relays_ofFunction (pc : BitVec 64) :
    (FrameCache.ofFunction pc : FrameQuery 64 ε FrameCache).Relays allowed := by
  refine (FrameQuery.relays_askFunctionEntry pc).bind fun function _ => ?_
  refine (relays_prologueAt (function.getD 0) pc).bind fun prologue _ => ?_
  exact (relays_baseAfter prologue).bind fun _ _ => trivial

theorem relays_locateFrom (trampoline : TrampolineCode) (pc : BitVec 64) (opcode : Option UInt8)
    (entries : List Nat) :
    (trampoline.locateFrom (FrameQuery.tryMemory (ε := ε)) pc opcode entries).Relays allowed := by
  induction entries with
  | nil => trivial
  | cons entry rest ih =>
    unfold TrampolineCode.locateFrom
    split
    · exact ih
    · refine (FrameQuery.ensures_tryMemory _ _).bind fun block _ => ?_
      cases block with
      | error error => exact ih
      | ok block =>
        dsimp only
        split
        · trivial
        · exact ih

theorem relays_locate (trampoline : TrampolineCode) (pc : BitVec 64) :
    (trampoline.locate (FrameQuery.tryMemory (ε := ε)) pc).Relays allowed := by
  refine (FrameQuery.ensures_tryMemory pc 1).bind fun opcode _ => ?_
  cases opcode with
  | error error => trivial
  | ok opcode => exact relays_locateFrom trampoline pc _ _

theorem relays_claims (layout : SignalLayout) (pc : BitVec 64) :
    (layout.claims pc : FrameQuery 64 ε Bool).Relays allowed := by
  unfold SignalLayout.claims
  split
  · trivial
  · cases layout.code with
    | none => trivial
    | some code =>
      refine (relays_locate code pc).bind fun found _ => ?_
      split <;> trivial

theorem relays_contextAddress (locator : ContextLocator) :
    (SignalLayout.contextAddress locator : FrameQuery 64 ε (BitVec 64)).Relays allowed := by
  cases locator with
  | stack offset => exact (FrameQuery.relays_askAddress rsp).bind fun _ _ => trivial
  | register number offset => exact (FrameQuery.relays_askAddress number).bind fun _ _ => trivial

/-- The cache of a trampoline's frame needs a context, without which no frame is claimed. -/
theorem relays_frameCache {layout : SignalLayout} {pc : BitVec 64}
    (claimed : (layout.claims pc : FrameQuery 64 ε Bool) ≠ pure false) :
    (layout.frameCache : FrameQuery 64 ε FrameCache).Relays allowed := by
  unfold SignalLayout.claims at claimed
  unfold SignalLayout.frameCache
  cases context : layout.context with
  | none =>
    rw [context] at claimed
    exact absurd rfl claimed
  | some locator =>
    refine (FrameQuery.relays_askAddress rsp).bind fun sp _ => ?_
    exact (relays_contextAddress locator).bind fun _ _ => trivial

end Unwinders

/-- Walking the stack with the unwinders of a platform, nothing but accesses fails. -/
theorem Platform.tolerates (platform : Platform) (target : Target 64 ε τ)
    (registers : RegisterCache registerFile) :
    (platform.walker target registers).Tolerates Error.IsAccess where
  target error := trivial
  register error := trivial
  claims {unwinder} listed pc := by
    rcases List.mem_cons.1 listed with rfl | listed
    · exact relays_claims _ pc
    · cases List.mem_singleton.1 listed
      trivial
  cache {unwinder} listed {pc} claimed := by
    rcases List.mem_cons.1 listed with rfl | listed
    · exact relays_frameCache claimed
    · cases List.mem_singleton.1 listed
      exact relays_ofFunction pc
  exhaustive := .inl ⟨functionUnwinder ε, List.mem_cons_of_mem _ (List.mem_singleton_self _),
    fun _ => rfl⟩

end Amd64

end Inferior

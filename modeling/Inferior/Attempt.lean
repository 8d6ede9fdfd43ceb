/-! Computations that change a state and may fail on the way. A failure undoes nothing:
what was done before it stays done.
-/

set_option autoImplicit false

namespace Inferior

abbrev Attempt (σ ε α : Type) := ExceptT ε (StateM σ) α

namespace Attempt

variable {σ σ' ε ε' α β : Type}

def run (attempt : Attempt σ ε α) (state : σ) : Except ε α × σ :=
  StateT.run (ExceptT.run attempt) state

@[simp] theorem run_pure (value : α) (state : σ) :
    (pure value : Attempt σ ε α).run state = (.ok value, state) := rfl

@[simp] theorem run_throw (error : ε) (state : σ) :
    (throw error : Attempt σ ε α).run state = (.error error, state) := rfl

@[simp] theorem run_get (state : σ) : (get : Attempt σ ε σ).run state = (.ok state, state) := rfl

@[simp] theorem run_set (next state : σ) :
    (set next : Attempt σ ε PUnit).run state = (.ok ⟨⟩, next) := rfl

@[simp] theorem run_modify (change : σ → σ) (state : σ) :
    (modify change : Attempt σ ε PUnit).run state = (.ok ⟨⟩, change state) := rfl

theorem run_bind (attempt : Attempt σ ε α) (next : α → Attempt σ ε β) (state : σ) :
    (attempt >>= next).run state =
      match attempt.run state with
      | (.ok value, state) => (next value).run state
      | (.error error, state) => (.error error, state) := by
  change (ExceptT.bindCont next (attempt.run state).1) (attempt.run state).2 = _
  rcases attempt.run state with ⟨_ | _, _⟩ <;> rfl

theorem run_bind_eq_ok {attempt : Attempt σ ε α} {next : α → Attempt σ ε β} {before after : σ}
    {value : β} : (attempt >>= next).run before = (.ok value, after) ↔
      ∃ first middle, attempt.run before = (.ok first, middle) ∧
        (next first).run middle = (.ok value, after) := by
  rw [run_bind]
  rcases attempt.run before with ⟨error | first, middle⟩
  · simp
  · constructor
    · exact fun rest => ⟨first, middle, rfl, rest⟩
    · rintro ⟨_, _, same, rest⟩
      cases same
      exact rest

def ofRun (step : σ → Except ε α × σ) : Attempt σ ε α := ExceptT.mk (StateT.mk step)

@[simp] theorem run_ofRun (step : σ → Except ε α × σ) (state : σ) :
    (ofRun step).run state = step state := rfl

def ofExcept (result : Except ε α) : Attempt σ ε α := ofRun fun state => (result, state)

@[simp] theorem run_ofExcept (result : Except ε α) (state : σ) :
    (ofExcept result).run state = (result, state) := rfl

def mapError (wrap : ε → ε') (attempt : Attempt σ ε α) : Attempt σ ε' α :=
  ofRun fun state => (attempt.run state).map (Except.mapError wrap) id

theorem run_mapError (wrap : ε → ε') (attempt : Attempt σ ε α) (state : σ) :
    (attempt.mapError wrap).run state =
      ((attempt.run state).1.mapError wrap, (attempt.run state).2) := rfl

def zoom (part : σ → σ') (replace : σ' → σ → σ) (attempt : Attempt σ' ε α) : Attempt σ ε α :=
  ofRun fun state => (attempt.run (part state)).map id (replace · state)

/-- Hand a failure over as a value. -/
def result (attempt : Attempt σ ε α) : Attempt σ ε' (Except ε α) :=
  ofRun fun state => (attempt.run state).map .ok id

end Attempt

section Outcomes

variable {ε ε' α β : Type}

@[simp] theorem mapError_ok (wrap : ε → ε') (value : α) :
    (Except.ok value).mapError wrap = .ok value := rfl

@[simp] theorem mapError_error (wrap : ε → ε') (error : ε) :
    (Except.error error : Except ε α).mapError wrap = .error (wrap error) := rfl

@[simp] theorem ok_bind (value : α) (next : α → Except ε β) :
    (Except.ok value >>= next) = next value := rfl

@[simp] theorem error_bind (error : ε) (next : α → Except ε β) :
    ((Except.error error : Except ε α) >>= next) = .error error := rfl

theorem bind_eq_ok {result : Except ε α} {next : α → Except ε β} {value : β} :
    result >>= next = .ok value ↔ ∃ first, result = .ok first ∧ next first = .ok value := by
  cases result <;> simp

end Outcomes

end Inferior

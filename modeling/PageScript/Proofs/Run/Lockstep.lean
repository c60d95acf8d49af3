import PageScript.Surroundings

/-!
# Lockstep

Actions that change a state and may fail are run on a state and give a result and the state
afterwards.  Two of them are in lockstep, under a relation between their states, if from related
states they give the same result and related states again.

What is put together from actions in lockstep in the same way is in lockstep.  A relation that every
single step respects is therefore respected by all that is made of such steps, and no other proof
has to open the monads.
-/

namespace PageScript

/-- From related states the two actions give the same result and related states. -/
def Lockstep {S T α : Type} (R : S → T → Prop) (a : ExceptT Error (StateM S) α)
    (b : ExceptT Error (StateM T) α) : Prop :=
  ∀ s t, R s t → (a s).1 = (b t).1 ∧ R (a s).2 (b t).2

namespace Lockstep

variable {S T α β : Type}

/-! ## Steps one after another -/

/-- A first action gives its result and its state to the second. -/
theorem bind_ok {x : ExceptT Error (StateM S) α} {s t : S} {a : α} (h : x s = (.ok a, t))
    (f : α → ExceptT Error (StateM S) β) : (x >>= f) s = f a t := by
  show (ExceptT.bindCont f (x s).1) (x s).2 = f a t
  rw [h]
  rfl

/-- The failure of a first action is the failure of both. -/
theorem bind_error {x : ExceptT Error (StateM S) α} {s t : S} {e : Error} (h : x s = (.error e, t))
    (f : α → ExceptT Error (StateM S) β) : (x >>= f) s = (.error e, t) := by
  show (ExceptT.bindCont f (x s).1) (x s).2 = (.error e, t)
  rw [h]
  rfl

/-- Both succeed if the first does and the second does from there. -/
theorem exists_of_bind_ok {x : ExceptT Error (StateM S) α} {f : α → ExceptT Error (StateM S) β}
    {s t : S} {b : β} (h : (x >>= f) s = (.ok b, t)) :
    ∃ a u, x s = (.ok a, u) ∧ f a u = (.ok b, t) := by
  obtain ⟨result, u, hx⟩ : ∃ result u, x s = (result, u) := ⟨_, _, rfl⟩
  cases result with
  | error e =>
    rw [bind_error hx] at h
    cases h
  | ok a =>
    rw [bind_ok hx] at h
    exact ⟨a, u, hx, h⟩

/-! ## What is put together -/

variable {R : S → T → Prop}

theorem of_pure (a : α) : Lockstep R (pure a) (pure a) := by
  intro s t h
  exact ⟨rfl, h⟩

theorem of_throw (e : Error) : Lockstep (α := α) R (throw e) (throw e) := by
  intro s t h
  exact ⟨rfl, h⟩

theorem of_bind {a : ExceptT Error (StateM S) α} {b : ExceptT Error (StateM T) α}
    {f : α → ExceptT Error (StateM S) β} {g : α → ExceptT Error (StateM T) β}
    (hab : Lockstep R a b) (hfg : ∀ x, Lockstep R (f x) (g x)) :
    Lockstep R (a >>= f) (b >>= g) := by
  intro s t h
  obtain ⟨hresult, hstate⟩ := hab s t h
  obtain ⟨r, s', hs⟩ : ∃ r s', a s = (r, s') := ⟨_, _, rfl⟩
  obtain ⟨r', t', ht⟩ : ∃ r' t', b t = (r', t') := ⟨_, _, rfl⟩
  rw [hs, ht] at hresult hstate
  have same : r = r' := hresult
  subst same
  cases r with
  | ok x =>
    rw [bind_ok hs, bind_ok ht]
    exact hfg x s' t' hstate
  | error e =>
    rw [bind_error hs, bind_error ht]
    exact ⟨rfl, hstate⟩

/-- What follows a look at the state may depend on it. -/
theorem of_get {f : S → ExceptT Error (StateM S) β} {g : T → ExceptT Error (StateM T) β}
    (h : ∀ s t, R s t → Lockstep R (f s) (g t)) : Lockstep R (get >>= f) (get >>= g) := by
  intro s t hst
  exact h s t hst s t hst

theorem of_modify {f : S → S} {g : T → T} (h : ∀ s t, R s t → R (f s) (g t)) :
    Lockstep R (modify f) (modify g) := by
  intro s t hst
  exact ⟨rfl, h s t hst⟩

end Lockstep

end PageScript

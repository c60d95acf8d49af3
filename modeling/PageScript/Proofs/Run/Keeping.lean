import PageScript.Proofs.Run.Lockstep

/-!
# Keeping

An action is confined to a property of states and a kind of errors if the property holds after the
action whenever it holds before, whether the action fails or not, and if it only ever fails with
errors of the kind.  What is put together from confined actions is confined.

An action keeps a property if it is confined to it, with errors of any kind.
-/

namespace PageScript

/-- The error is that a command is unknown, which only a run tells. -/
def Error.isUnknown : Error → Bool
  | .unknownCommand _ => true
  | _ => false

/-- If it is a failure, then with an error of the kind. -/
def FailsWith {α : Type} (E : Error → Prop) (r : Except Error α) : Prop := ∀ e, r = .error e → E e

/-- Where the property holds, it holds after the action, and a failure of the action is of the
kind. -/
def Confined {S α : Type} (P : S → Prop) (E : Error → Prop) (a : ExceptT Error (StateM S) α) : Prop :=
  ∀ s, P s → FailsWith E (a s).1 ∧ P (a s).2

/-- Where the property holds, it holds after the action. -/
def Keeps {S α : Type} (P : S → Prop) (a : ExceptT Error (StateM S) α) : Prop :=
  ∀ s, P s → P (a s).2

variable {S α β : Type} {P : S → Prop} {E : Error → Prop}

/-! ## Outcomes -/

namespace FailsWith

theorem of_ok (x : α) : FailsWith E (.ok x) := nofun

theorem of_error {e : Error} (h : E e) : FailsWith (α := α) E (.error e) := by
  intro e' he'
  cases he'
  exact h

theorem of_bind {r : Except Error α} {f : α → Except Error β} (hr : FailsWith E r)
    (hf : ∀ x, FailsWith E (f x)) : FailsWith E (r >>= f) := by
  cases r with
  | ok x => exact hf x
  | error e => exact of_error (hr e rfl)

theorem of_map {r : Except Error α} (hr : FailsWith E r) (f : α → β) : FailsWith E (f <$> r) := by
  cases r with
  | ok x => exact of_ok _
  | error e => exact of_error (hr e rfl)

theorem of_mapM {f : α → Except Error β} (h : ∀ x, FailsWith E (f x)) (xs : List α) :
    FailsWith E (xs.mapM f) := by
  induction xs with
  | nil => exact of_ok []
  | cons x xs ih =>
    rw [List.mapM_cons]
    exact of_bind (h x) fun _ => of_bind ih fun _ => of_ok _

end FailsWith

/-! ## Confined actions -/

namespace Confined

theorem of_pure (x : α) : Confined P E (pure x) := fun _ h => ⟨.of_ok x, h⟩

theorem of_throw {e : Error} (h : E e) : Confined (α := α) P E (throw e) :=
  fun _ hs => ⟨.of_error h, hs⟩

theorem of_bind {a : ExceptT Error (StateM S) α} {f : α → ExceptT Error (StateM S) β}
    (ha : Confined P E a) (hf : ∀ x, Confined P E (f x)) : Confined P E (a >>= f) := by
  intro s h
  obtain ⟨errors, after⟩ := ha s h
  obtain ⟨r, t, hs⟩ : ∃ r t, a s = (r, t) := ⟨_, _, rfl⟩
  rw [hs] at errors after
  cases r with
  | ok x =>
    rw [Lockstep.bind_ok hs]
    exact hf x t after
  | error e =>
    rw [Lockstep.bind_error hs]
    exact ⟨.of_error (errors e rfl), after⟩

theorem map {a : ExceptT Error (StateM S) α} (ha : Confined P E a) (f : α → β) :
    Confined P E (f <$> a) := .of_bind ha fun _ => .of_pure _

/-- Nothing is caught of an action that succeeds. -/
theorem catch_ok {a : ExceptT Error (StateM S) α} {s t : S} {x : α} (h : a s = (.ok x, t))
    (f : Error → ExceptT Error (StateM S) α) : tryCatch a f s = (.ok x, t) := by
  show ExceptT.tryCatch a f s = _
  simp only [ExceptT.tryCatch, ExceptT.mk, bind, StateT.bind, h]
  rfl

/-- The failure of an action goes to what catches it. -/
theorem catch_error {a : ExceptT Error (StateM S) α} {s t : S} {e : Error} (h : a s = (.error e, t))
    (f : Error → ExceptT Error (StateM S) α) : tryCatch a f s = f e t := by
  show ExceptT.tryCatch a f s = _
  simp only [ExceptT.tryCatch, ExceptT.mk, bind, StateT.bind, h]

theorem of_catch {a : ExceptT Error (StateM S) α} {f : Error → ExceptT Error (StateM S) α}
    (ha : Confined P E a) (hf : ∀ e, Confined P E (f e)) : Confined P E (tryCatch a f) := by
  intro s h
  obtain ⟨errors, after⟩ := ha s h
  obtain ⟨r, t, hs⟩ : ∃ r t, a s = (r, t) := ⟨_, _, rfl⟩
  rw [hs] at after
  cases r with
  | ok x =>
    rw [catch_ok hs]
    exact ⟨.of_ok x, after⟩
  | error e =>
    rw [catch_error hs]
    exact hf e t after

/-- A check in front may stop the action. -/
theorem of_guard {p : Prop} [Decidable p] {e : Error} {a : ExceptT Error (StateM S) α} (he : E e)
    (h : Confined P E a) : Confined P E (if p then throw e >>= fun _ : PUnit => a else a) := by
  split
  · exact .of_bind (.of_throw he) fun _ => h
  · exact h

/-- What follows a look at the state may depend on it. -/
theorem of_get {f : S → ExceptT Error (StateM S) β} (h : ∀ s, P s → Confined P E (f s)) :
    Confined P E (get >>= f) := fun s hs => h s hs s hs

theorem of_modify {f : S → S} (h : ∀ s, P s → P (f s)) : Confined P E (modify f) :=
  fun s hs => ⟨.of_ok _, h s hs⟩

theorem keeps {a : ExceptT Error (StateM S) α} (h : Confined P E a) : Keeps P a :=
  fun s hs => (h s hs).2

end Confined

/-! ## Keeping a property -/

namespace Keeps

theorem confined {a : ExceptT Error (StateM S) α} (h : Keeps P a) : Confined P (fun _ => True) a :=
  fun s hs => ⟨fun _ _ => trivial, h s hs⟩

theorem of_pure (a : α) : Keeps P (pure a) := fun _ h => h

theorem of_throw (e : Error) : Keeps (α := α) P (throw e) := fun _ h => h

theorem of_bind {a : ExceptT Error (StateM S) α} {f : α → ExceptT Error (StateM S) β}
    (ha : Keeps P a) (hf : ∀ x, Keeps P (f x)) : Keeps P (a >>= f) :=
  (Confined.of_bind ha.confined fun x => (hf x).confined).keeps

/-- A check in front may stop the action. -/
theorem of_guard {p : Prop} [Decidable p] {e : Error} {a : ExceptT Error (StateM S) α}
    (h : Keeps P a) : Keeps P (if p then throw e >>= fun _ : PUnit => a else a) :=
  (Confined.of_guard trivial h.confined).keeps

/-- What follows a look at the state may depend on it. -/
theorem of_get {f : S → ExceptT Error (StateM S) β} (h : ∀ s, P s → Keeps P (f s)) :
    Keeps P (get >>= f) := fun s hs => h s hs s hs

theorem of_modify {f : S → S} (h : ∀ s, P s → P (f s)) : Keeps P (modify f) := h

end Keeps

end PageScript

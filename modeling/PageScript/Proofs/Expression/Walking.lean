import PageScript.Script.Command

/-!
# Walking an argument

Resolving an argument is a walk from left to right over lists in lists (`Resolver.resolveWithin`)
that stops two lists deep (`Resolver.resolveValue_eq_resolveWithin`).  What relates the tokens of two
resolvers, and is kept when computations are put one after the other, relates their walks
(`Resolver.Related`).
-/

namespace PageScript

namespace Resolver

/-! ## The walk -/

/-- A value with its tokens resolved from left to right, at most some lists deep. -/
def resolveWithin (r : Resolver) : Nat → Value → Resolving Value
  | n + 1, .list vs => do
    let ws ← vs.mapM (r.resolveWithin n)
    return .list ws
  | _, v => r.resolveScalar v

theorem resolveScalars_eq_mapM (r : Resolver) (vs : List Value) :
    r.resolveScalars vs = vs.mapM r.resolveScalar := by
  induction vs with
  | nil => rfl
  | cons v vs ih => rw [resolveScalars, List.mapM_cons, ih]

theorem resolveWithin_zero (r : Resolver) : r.resolveWithin 0 = r.resolveScalar := by
  funext v
  cases v <;> rfl

theorem resolveItems_eq_mapM (r : Resolver) (vs : List Value) :
    r.resolveItems vs = vs.mapM (r.resolveWithin 1) := by
  induction vs with
  | nil => rfl
  | cons v vs ih =>
    rw [List.mapM_cons, ← ih]
    cases v with
    | list inner =>
      rw [resolveItems, resolveScalars_eq_mapM, resolveWithin, resolveWithin_zero, bind_assoc]
    | _ => rfl

/-- Resolving an argument is the walk of depth two. -/
theorem resolveValue_eq_resolveWithin (r : Resolver) (v : Value) :
    r.resolveValue v = r.resolveWithin 2 v := by
  cases v with
  | list vs => rw [resolveValue, resolveItems_eq_mapM, resolveWithin]
  | _ => rfl

/-! ## Related walks -/

/-- A relation between computations for two resolvers that holds of their single tokens and is kept
by all that the walk is put together from. -/
structure Related (r r' : Resolver) (R : (α : Type) → Resolving α → Resolving α → Prop) :
    Prop where
  pure : ∀ {α : Type} (x : α), R α (pure x) (pure x)
  bind : ∀ {α β : Type} {a b : Resolving α} {f g : α → Resolving β},
    R α a b → (∀ x, R β (f x) (g x)) → R β (a >>= f) (b >>= g)
  token : ∀ body, R Value (r.resolve body) (r'.resolve body)

namespace Related

variable {r r' : Resolver} {R : (α : Type) → Resolving α → Resolving α → Prop}

theorem resolveScalar (h : Related r r' R) (v : Value) :
    R Value (r.resolveScalar v) (r'.resolveScalar v) := by
  cases v with
  | text s =>
    rw [Resolver.resolveScalar, Resolver.resolveScalar]
    cases Token.body? s with
    | none => exact h.pure _
    | some body => exact h.token body
  | _ => exact h.pure _

theorem mapM (h : Related r r' R) {f g : Value → Resolving Value} (hfg : ∀ v, R Value (f v) (g v))
    (vs : List Value) : R (List Value) (vs.mapM f) (vs.mapM g) := by
  induction vs with
  | nil => exact h.pure []
  | cons v vs ih =>
    rw [List.mapM_cons, List.mapM_cons]
    exact h.bind (hfg v) fun _ => h.bind ih fun _ => h.pure _

theorem resolveWithin (h : Related r r' R) (n : Nat) (v : Value) :
    R Value (r.resolveWithin n v) (r'.resolveWithin n v) := by
  induction n generalizing v with
  | zero =>
    rw [resolveWithin_zero, resolveWithin_zero]
    exact h.resolveScalar v
  | succ n ih =>
    cases v with
    | list vs => exact h.bind (h.mapM ih vs) fun _ => h.pure _
    | _ => exact h.resolveScalar _

/-- Resolving the arguments of a command is related if single tokens are. -/
theorem arguments (h : Related r r' R) (c : Command) :
    R Arguments (c.arguments r) (c.arguments r') := by
  unfold Command.arguments
  cases c.argument with
  | none => exact h.pure _
  | some v =>
    dsimp only
    rw [resolveValue_eq_resolveWithin, resolveValue_eq_resolveWithin]
    exact h.bind (h.resolveWithin 2 v) fun _ => h.pure _

end Related

end Resolver

end PageScript

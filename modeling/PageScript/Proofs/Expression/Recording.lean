import PageScript.Proofs.Expression.Growth
import PageScript.Proofs.Run.Keeping
import PageScript.Script.Command

/-!
# What arguments record

The texts of an argument that hold tokens are resolved from left to right.  Each of them that
evaluates to a value records it under the tag of the token, unless it looks an entry up, and the
first that fails ends it.  `Resolver.entries` lists what is recorded, and evaluating tokens changes
nothing else in the namespace (`Resolver.evaluateAll_names`).
-/

namespace PageScript

/-! ## Tokens of an argument -/

/-- The body of the token in a text. -/
def Value.body? : Value → Option String
  | .text s => Token.body? s
  | _ => none

/-- The bodies of the tokens in an item of an argument. -/
def Value.itemBodies : Value → List String
  | .list inner => inner.filterMap body?
  | v => v.body?.toList

/-- The bodies of the tokens in an argument, in order. -/
def Value.bodies : Value → List String
  | .list vs => vs.flatMap itemBodies
  | v => v.body?.toList

/-- The bodies of the tokens in the argument of a command. -/
def Command.bodies (c : Command) : List String := (c.argument.map Value.bodies).getD []

namespace Resolver

variable (r : Resolver)

/-- What the value of a token records. -/
def entryOf (body : String) (v : Value) : List (String × Value) :=
  if (parts body).1 = "vars" then [] else [((parts body).1, v)]

/-- What tokens record in order, up to the first that fails. -/
def entries : List String → Scope → List (String × Value)
  | [], _ => []
  | body :: rest, scope =>
    match r.resolve body scope with
    | (.ok v, after) => entryOf body v ++ entries rest after
    | (.error _, _) => []

/-- Evaluates tokens in order. -/
def evaluateAll : List String → Resolving Unit
  | [] => return ()
  | body :: rest => do
    let _ ← r.resolve body
    evaluateAll rest

/-! ## Single tokens -/

variable {r} {scope after : Scope} {body : String}

theorem outside_names {α : Type} (action : Attempt α) (ns : Namespace) :
    Keeps (fun scope => scope.names = ns) (outside action) := fun _ h => h

theorem evaluate_names (tag rest : String) (ns : Namespace) :
    Keeps (fun scope => scope.names = ns) (r.evaluate tag rest) := by
  refine .of_get fun scope _ => ?_
  dsimp only
  by_cases heval : tag = "eval"
  · rw [if_pos heval]
    cases Literal.parse rest with
    | ok v => exact .of_pure v
    | error e => exact .of_throw e
  · rw [if_neg heval]
    by_cases himported : scope.names.isImported tag = true
    · rw [if_pos himported]
      cases callArguments rest with
      | ok args => exact outside_names _ ns
      | error e => exact .of_throw e
    · rw [if_neg himported]
      cases category? tag with
      | some category =>
        refine .of_bind (outside_names _ ns) fun found => ?_
        cases found with
        | some v => exact .of_pure v
        | none => exact .of_throw _
      | none =>
        cases r.unresolved with
        | empty => exact .of_pure _
        | error => exact .of_throw _

/-- A token that looks an entry up changes nothing. -/
theorem resolve_vars (h : (parts body).1 = "vars") (scope : Scope) :
    (r.resolve body scope).2 = scope := by
  obtain ⟨tag, rest, hparts⟩ : ∃ tag rest, parts body = (tag, rest) := ⟨_, _, rfl⟩
  rw [hparts] at h
  rw [resolve, hparts]
  dsimp only at h ⊢
  rw [if_pos h]
  cases lookupTarget rest with
  | error e => rfl
  | ok target =>
    have looked : (get : Resolving Scope) scope = (.ok scope, scope) := rfl
    dsimp only
    rw [Lockstep.bind_ok looked]
    cases scope.names.lookup target.1 target.2 <;> rfl

/-- An entry that is looked up is found. -/
theorem resolve_found {rest name : String} {index : Nat} {v : Value} {scope : Scope}
    (hparts : parts body = ("vars", rest)) (htarget : lookupTarget rest = .ok (name, index))
    (hlookup : scope.names.lookup name index = .ok v) : r.resolve body scope = (.ok v, scope) := by
  have looked : (get : Resolving Scope) scope = (.ok scope, scope) := rfl
  rw [resolve, hparts]
  dsimp only
  rw [if_pos rfl, htarget]
  dsimp only
  rw [Lockstep.bind_ok looked, hlookup]
  rfl

/-- Any other token is evaluated, and then its value is recorded. -/
theorem resolve_other (h : (parts body).1 ≠ "vars") :
    r.resolve body = r.evaluate (parts body).1 (parts body).2 >>= fun v => do
      modify fun scope => { scope with names := scope.names.record (parts body).1 v }
      return v := by
  obtain ⟨tag, rest, hparts⟩ : ∃ tag rest, parts body = (tag, rest) := ⟨_, _, rfl⟩
  rw [hparts] at h ⊢
  rw [resolve, hparts]
  exact if_neg h

/-- A token that evaluates to a value records it, unless it looks one up, and a token that fails
records nothing. -/
theorem resolve_names {result : Except Error Value} (h : r.resolve body scope = (result, after)) :
    after.names = match result with
      | .ok v => scope.names.grown [] (entryOf body v)
      | .error _ => scope.names := by
  by_cases hvars : (parts body).1 = "vars"
  · have same := resolve_vars (r := r) hvars scope
    rw [h] at same
    dsimp only at same
    cases result <;> simp [entryOf, hvars, same]
  · rw [resolve_other hvars] at h
    obtain ⟨value, between, hvalue⟩ : ∃ value between,
      r.evaluate (parts body).1 (parts body).2 scope = (value, between) := ⟨_, _, rfl⟩
    have same : between.names = scope.names := by
      have := evaluate_names (r := r) (parts body).1 (parts body).2 scope.names scope rfl
      rwa [hvalue] at this
    cases value with
    | error e =>
      rw [Lockstep.bind_error hvalue] at h
      cases h
      exact same
    | ok w =>
      rw [Lockstep.bind_ok hvalue] at h
      cases h
      simp [entryOf, hvars, same, ← Namespace.record_eq_grown]

/-- Tokens change nothing in the namespace but what they record. -/
theorem evaluateAll_names (bodies : List String) (scope : Scope) :
    (r.evaluateAll bodies scope).2.names = scope.names.grown [] (r.entries bodies scope) := by
  induction bodies generalizing scope with
  | nil => simp [evaluateAll, entries]; rfl
  | cons body rest ih =>
    obtain ⟨result, after, hresolve⟩ : ∃ result after, r.resolve body scope = (result, after) :=
      ⟨_, _, rfl⟩
    rw [evaluateAll, entries, hresolve]
    cases result with
    | error e => simp [Lockstep.bind_error hresolve, resolve_names hresolve]
    | ok v => simp [Lockstep.bind_ok hresolve, ih, resolve_names hresolve]

end Resolver

end PageScript

import Mathlib.Data.List.Basic
import PageScript.Proofs.Expression.Recording
import PageScript.Proofs.Expression.Walking
import PageScript.Proofs.Value.Positions

/-!
# The tokens of an argument

`Value.tokens` lists the tokens of an argument with their positions: the texts with a token that
stand at most two lists deep, in reading order.

Resolving an argument evaluates these tokens in turn (`Resolver.InTurn`), each once and in the scope
that the one before left, up to the first that fails.  If none fails, each value stands at the
position of its text, and the rest of the argument is as it was (`Value.Replaced`).  So the
arguments of a command record what their tokens record (`Command.arguments_names`).
-/

namespace PageScript

/-! ## Tokens -/

namespace Value

/-- The token of a text, at the top. -/
def scalarTokens (v : Value) : List (Position × String) := v.body?.toList.map fun body => ([], body)

/-- The tokens of the items of a list, counted from a number on. -/
def itemTokens (inside : Value → List (Position × String)) :
    Nat → List Value → List (Position × String)
  | _, [] => []
  | k, v :: vs => (inside v).map (under k) ++ itemTokens inside (k + 1) vs

/-- The tokens at most some lists deep, in reading order. -/
def tokensWithin : Nat → Value → List (Position × String)
  | n + 1, .list vs => itemTokens (tokensWithin n) 0 vs
  | _, v => v.scalarTokens

/-- The tokens of an argument, in reading order. -/
def tokens (v : Value) : List (Position × String) := tokensWithin 2 v

variable {pos : Position} {body : String} {v : Value} {vs : List Value} {n k : Nat}

theorem mem_scalarTokens :
    (pos, body) ∈ v.scalarTokens ↔ pos = [] ∧ ∃ s, v = .text s ∧ Token.body? s = some body := by
  cases v with
  | text s =>
    rw [scalarTokens, body?]
    cases h : Token.body? s <;> simp [h, eq_comm]
  | _ => simp [scalarTokens, body?]

theorem mem_itemTokens {inside : Value → List (Position × String)} :
    (pos, body) ∈ itemTokens inside k vs ↔
      ∃ i inner v, pos = (k + i) :: inner ∧ vs[i]? = some v ∧ (inner, body) ∈ inside v := by
  induction vs generalizing k with
  | nil => simp [itemTokens]
  | cons v vs ih =>
    rw [itemTokens, List.mem_append, ih]
    constructor
    · rintro (hfirst | ⟨i, inner, w, rfl, hw, hmem⟩)
      · obtain ⟨⟨inner, b⟩, hmem, same⟩ := List.mem_map.mp hfirst
        cases same
        exact ⟨0, inner, v, rfl, rfl, hmem⟩
      · exact ⟨i + 1, inner, w, by rw [Nat.succ_add_eq_add_succ], hw, hmem⟩
    · rintro ⟨i, inner, w, rfl, hw, hmem⟩
      cases i with
      | zero =>
        cases hw
        exact .inl (List.mem_map.mpr ⟨(inner, body), hmem, rfl⟩)
      | succ i => exact .inr ⟨i, inner, w, by rw [Nat.succ_add_eq_add_succ], hw, hmem⟩

/-- A value whose items are not looked at has no token but its own. -/
theorem tokensWithin_leaf (h : n = 0 ∨ ∀ vs, v ≠ .list vs) :
    tokensWithin n v = v.scalarTokens := by
  cases n with
  | zero => rfl
  | succ n =>
    cases v with
    | list vs => exact absurd rfl (h.resolve_left (Nat.succ_ne_zero n) vs)
    | _ => rfl

theorem mem_leaf (h : n = 0 ∨ ∀ vs, v ≠ .list vs) : (pos, body) ∈ v.scalarTokens ↔
    pos.length ≤ n ∧ ∃ s, v.at? pos = some (.text s) ∧ Token.body? s = some body := by
  rw [mem_scalarTokens]
  constructor
  · rintro ⟨rfl, s, rfl, hs⟩
    exact ⟨Nat.zero_le n, s, rfl, hs⟩
  · rintro ⟨hlen, s, hat, hs⟩
    cases pos with
    | nil => exact ⟨rfl, s, Option.some_inj.mp hat, hs⟩
    | cons i inner =>
      rcases h with rfl | single
      · cases hlen
      · rw [at?_cons single] at hat
        cases hat

/-- The tokens are the texts with one, as deep as they are looked for. -/
theorem mem_tokensWithin : (pos, body) ∈ tokensWithin n v ↔
    pos.length ≤ n ∧ ∃ s, v.at? pos = some (.text s) ∧ Token.body? s = some body := by
  induction n generalizing v pos with
  | zero => rw [tokensWithin_leaf (.inl rfl), mem_leaf (.inl rfl)]
  | succ n ih =>
    by_cases hlist : ∃ vs, v = .list vs
    · obtain ⟨vs, rfl⟩ := hlist
      rw [tokensWithin, mem_itemTokens]
      constructor
      · rintro ⟨i, inner, v, rfl, hv, hmem⟩
        obtain ⟨hlen, s, hat, hs⟩ := ih.mp hmem
        rw [Nat.zero_add]
        exact ⟨Nat.succ_le_succ hlen, s, by rw [at?, hv]; exact hat, hs⟩
      · rintro ⟨hlen, s, hat, hs⟩
        cases pos with
        | nil => cases hat
        | cons i inner =>
          obtain ⟨v, hv, hin⟩ := Option.bind_eq_some_iff.mp hat
          exact ⟨i, inner, v, by rw [Nat.zero_add], hv,
            ih.mpr ⟨Nat.le_of_succ_le_succ hlen, s, hin, hs⟩⟩
    · have single : ∀ vs, v ≠ .list vs := fun vs hv => hlist ⟨vs, hv⟩
      rw [tokensWithin_leaf (.inr single), mem_leaf (.inr single)]

/-- Items in reading order, one after the other. -/
theorem itemTokens_ordered {inside : Value → List (Position × String)}
    (h : ∀ v, ((inside v).map (·.1)).Pairwise (· < ·)) (k : Nat) (vs : List Value) :
    ((itemTokens inside k vs).map (·.1)).Pairwise (· < ·) := by
  induction vs generalizing k with
  | nil => exact .nil
  | cons v vs ih =>
    rw [itemTokens, List.map_append, List.map_map, List.pairwise_append]
    refine ⟨?_, ih (k + 1), ?_⟩
    · exact List.Pairwise.map _ (fun _ _ lt => List.cons_lt_cons_iff.mpr (.inr ⟨rfl, lt⟩))
        (List.pairwise_map.mp (h v))
    · rintro first hfirst second hsecond
      obtain ⟨⟨inner, b⟩, -, rfl⟩ := List.mem_map.mp hfirst
      obtain ⟨⟨pos, b'⟩, hmem, rfl⟩ := List.mem_map.mp hsecond
      obtain ⟨i, inner', w, rfl, -, -⟩ := mem_itemTokens.mp hmem
      exact List.cons_lt_cons_iff.mpr (.inl (by omega))

example :
    tokens (.list [.text "(( a ))", .list [.list [.text "(( b ))"], .text "(( c|1 ))"],
      .object [("k", .text "(( d ))")]]) = [([0], "a"), ([1, 1], "c|1")] := by decide +kernel

/-- The tokens are in reading order. -/
theorem tokensWithin_ordered (n : Nat) (v : Value) :
    ((tokensWithin n v).map (·.1)).Pairwise (· < ·) := by
  have leaf (v : Value) : (v.scalarTokens.map (·.1)).Pairwise (· < ·) := by
    rw [scalarTokens]
    cases v.body? <;> simp
  induction n generalizing v with
  | zero =>
    rw [tokensWithin_leaf (.inl rfl)]
    exact leaf v
  | succ n ih =>
    by_cases hlist : ∃ vs, v = .list vs
    · obtain ⟨vs, rfl⟩ := hlist
      exact itemTokens_ordered ih 0 vs
    · rw [tokensWithin_leaf (.inr fun vs hv => hlist ⟨vs, hv⟩)]
      exact leaf v

theorem scalarTokens_bodies (v : Value) : v.scalarTokens.map (·.2) = v.body?.toList := by
  rw [scalarTokens]
  cases v.body? <;> rfl

theorem itemTokens_bodies (inside : Value → List (Position × String)) (k : Nat) (vs : List Value) :
    (itemTokens inside k vs).map (·.2) = vs.flatMap fun v => (inside v).map (·.2) := by
  induction vs generalizing k with
  | nil => rfl
  | cons v vs ih =>
    rw [itemTokens, List.map_append, List.map_map, ih, List.flatMap_cons]
    rfl

/-- The bodies of an argument are those of its tokens. -/
theorem tokens_bodies (v : Value) : v.tokens.map (·.2) = v.bodies := by
  have item (v : Value) : (tokensWithin 1 v).map (·.2) = v.itemBodies := by
    cases v with
    | list vs =>
      rw [tokensWithin, itemTokens_bodies, itemBodies, List.filterMap_eq_flatMap_toList]
      exact congrArg vs.flatMap (funext scalarTokens_bodies)
    | _ => exact scalarTokens_bodies _
  cases v with
  | list vs =>
    rw [tokens, tokensWithin, itemTokens_bodies, bodies]
    exact congrArg vs.flatMap (funext item)
  | _ => exact scalarTokens_bodies _

end Value

/-! ## Evaluating tokens in turn -/

/-- What is made of a result does not matter for the state. -/
theorem state_of_map {S α β : Type} (a : ExceptT Error (StateM S) α) (f : α → β) (s : S) :
    ((a >>= fun x => pure (f x)) s).2 = (a s).2 := by
  obtain ⟨r, t, h⟩ : ∃ r t, a s = (r, t) := ⟨_, _, rfl⟩
  cases r with
  | ok x => rw [Lockstep.bind_ok h, h]; rfl
  | error e => rw [Lockstep.bind_error h, h]

namespace Resolver

/-- Tokens are evaluated one after the other up to the first that fails.  The result has their
values at their positions. -/
inductive InTurn (r : Resolver) : List (Position × String) → Scope →
    Except Error (List (Position × Value)) → Scope → Prop where
  | done {scope : Scope} : InTurn r [] scope (.ok []) scope
  | failed {pos : Position} {body : String} {tokens : List (Position × String)}
      {scope after : Scope} {e : Error} (h : r.resolve body scope = (.error e, after)) :
      InTurn r ((pos, body) :: tokens) scope (.error e) after
  | passed {pos : Position} {body : String} {tokens : List (Position × String)}
      {scope between after : Scope} {v : Value} {result : Except Error (List (Position × Value))}
      (h : r.resolve body scope = (.ok v, between)) (hrest : InTurn r tokens between result after) :
      InTurn r ((pos, body) :: tokens) scope (result.map ((pos, v) :: ·)) after

/-- A computation walks over tokens: all that it does is to evaluate them in turn.  It fails with
the one that fails, and otherwise makes something of their values. -/
def Walks {α : Type} (r : Resolver) (m : Resolving α) (tokens : List (Position × String))
    (made : List (Position × Value) → α → Prop) : Prop :=
  ∀ scope, ∃ result after, r.InTurn tokens scope result after ∧
    (∀ e, result = .error e → m scope = (.error e, after)) ∧
    ∀ new, result = .ok new → ∃ w, m scope = (.ok w, after) ∧ made new w

namespace InTurn

variable {r : Resolver} {first second : List (Position × String)} {scope between after : Scope}
  {result : Except Error (List (Position × Value))} {pos : Position} {body : String} {v : Value}
  {e : Error} {new : List (Position × Value)}

theorem passed_ok (h : r.resolve body scope = (.ok v, between))
    (hrest : r.InTurn first between (.ok new) after) :
    r.InTurn ((pos, body) :: first) scope (.ok ((pos, v) :: new)) after := .passed h hrest

theorem passed_error (h : r.resolve body scope = (.ok v, between))
    (hrest : r.InTurn first between (.error e) after) :
    r.InTurn ((pos, body) :: first) scope (.error e) after := .passed h hrest

/-- Behind a token that fails none is evaluated. -/
theorem append_error (h : r.InTurn first scope (.error e) after) :
    r.InTurn (first ++ second) scope (.error e) after := by
  generalize hresult : Except.error e = result at h
  induction h with
  | done => cases hresult
  | failed h =>
    cases hresult
    exact .failed h
  | @passed _ _ _ _ _ _ _ result h _ ih =>
    cases result with
    | ok new => cases hresult
    | error e' =>
      cases hresult
      exact passed_error h (ih rfl)

theorem append_ok (h : r.InTurn first scope (.ok new) between)
    (hsecond : r.InTurn second between result after) :
    r.InTurn (first ++ second) scope (result.map (new ++ ·)) after := by
  generalize hnew : Except.ok new = outcome at h
  induction h generalizing new with
  | done =>
    cases hnew
    cases result <;> exact hsecond
  | failed => cases hnew
  | @passed _ _ _ _ _ _ _ outcome h _ ih =>
    cases outcome with
    | error e' => cases hnew
    | ok more =>
      cases hnew
      have rest := ih hsecond rfl
      cases result with
      | ok _ => exact passed_ok h rest
      | error _ => exact passed_error h rest

/-- The tokens of an item as tokens of the list. -/
theorem under (h : r.InTurn first scope result after) (i : Nat) :
    r.InTurn (first.map (Value.under i)) scope (result.map (List.map (Value.under i))) after := by
  induction h with
  | done => exact .done
  | failed h => exact .failed h
  | @passed _ _ _ _ _ _ _ result h _ ih =>
    cases result with
    | ok _ => exact passed_ok h ih
    | error _ => exact passed_error h ih

theorem evaluateAll (h : r.InTurn first scope result after) :
    r.evaluateAll (first.map (·.2)) scope = (result.map fun _ => (), after) := by
  induction h with
  | done => rfl
  | failed h => rw [List.map_cons, Resolver.evaluateAll, Lockstep.bind_error h]; rfl
  | @passed _ _ _ _ _ _ _ result h _ ih =>
    rw [List.map_cons, Resolver.evaluateAll, Lockstep.bind_ok h, ih]
    cases result <;> rfl

end InTurn

namespace Walks

variable {α β : Type} {r : Resolver} {first second : List (Position × String)}

theorem of_pure {w : α} {made : List (Position × Value) → α → Prop} (h : made [] w) :
    r.Walks (pure w) [] made := by
  refine fun scope => ⟨.ok [], scope, .done, nofun, fun new hnew => ?_⟩
  cases hnew
  exact ⟨w, rfl, h⟩

theorem of_resolve {pos : Position} {body : String} {made : List (Position × Value) → Value → Prop}
    (h : ∀ v, made [(pos, v)] v) : r.Walks (r.resolve body) [(pos, body)] made := by
  intro scope
  obtain ⟨result, after, hresolve⟩ : ∃ result after, r.resolve body scope = (result, after) :=
    ⟨_, _, rfl⟩
  cases result with
  | error e =>
    refine ⟨.error e, after, .failed hresolve, fun e' he => ?_, nofun⟩
    cases he
    exact hresolve
  | ok v =>
    refine ⟨.ok [(pos, v)], after, .passed_ok hresolve .done, nofun, fun new hnew => ?_⟩
    cases hnew
    exact ⟨v, hresolve, h v⟩

/-- One computation after the other evaluates the tokens of both in turn. -/
theorem bind {m : Resolving α} {f : α → Resolving β} {made : List (Position × Value) → α → Prop}
    {made' : List (Position × Value) → β → Prop} (h : r.Walks m first made)
    (hf : ∀ new w, made new w → r.Walks (f w) second fun more u => made' (new ++ more) u) :
    r.Walks (m >>= f) (first ++ second) made' := by
  intro scope
  obtain ⟨result, between, inTurn, fails, gives⟩ := h scope
  cases result with
  | error e =>
    refine ⟨.error e, between, inTurn.append_error, fun e' he => ?_, nofun⟩
    cases he
    rw [Lockstep.bind_error (fails e rfl)]
  | ok new =>
    obtain ⟨w, hw, hmade⟩ := gives new rfl
    obtain ⟨result', after, inTurn', fails', gives'⟩ := hf new w hmade between
    refine ⟨result'.map (new ++ ·), after, inTurn.append_ok inTurn', fun e he => ?_,
      fun both hboth => ?_⟩
    · cases result' with
      | ok more => cases he
      | error e' =>
        cases he
        rw [Lockstep.bind_ok hw, fails' e rfl]
    · cases result' with
      | error e' => cases hboth
      | ok more =>
        cases hboth
        obtain ⟨u, hu, hmade'⟩ := gives' more rfl
        exact ⟨u, by rw [Lockstep.bind_ok hw, hu], hmade'⟩

/-- The tokens of an item are evaluated as tokens of the list. -/
theorem under {m : Resolving α} {made : List (Position × Value) → α → Prop}
    (h : r.Walks m first made) (i : Nat) :
    r.Walks m (first.map (Value.under i)) fun new w =>
      ∃ inner, new = inner.map (Value.under i) ∧ made inner w := by
  intro scope
  obtain ⟨result, after, inTurn, fails, gives⟩ := h scope
  refine ⟨_, after, inTurn.under i, fun e he => ?_, fun new hnew => ?_⟩
  · cases result with
    | ok inner => cases he
    | error e' =>
      cases he
      exact fails e rfl
  · cases result with
    | error e' => cases hnew
    | ok inner =>
      cases hnew
      obtain ⟨w, hw, hmade⟩ := gives inner rfl
      exact ⟨w, hw, inner, rfl, hmade⟩

/-- Without the values the walk is the evaluation of the tokens. -/
theorem evaluateAll {m : Resolving α} {made : List (Position × Value) → α → Prop}
    (h : r.Walks m first made) :
    (m >>= fun _ => pure ()) = r.evaluateAll (first.map (·.2)) := by
  funext scope
  obtain ⟨result, after, inTurn, fails, gives⟩ := h scope
  rw [inTurn.evaluateAll]
  cases result with
  | error e => rw [Lockstep.bind_error (fails e rfl)]; rfl
  | ok new =>
    obtain ⟨w, hw, -⟩ := gives new rfl
    rw [Lockstep.bind_ok hw]
    rfl

end Walks

/-! ## Arguments -/

variable (r : Resolver)

theorem resolveScalar_walks (v : Value) :
    r.Walks (r.resolveScalar v) v.scalarTokens v.Replaced := by
  cases v with
  | text s =>
    rw [resolveScalar, Value.scalarTokens, Value.body?]
    cases Token.body? s with
    | none => exact .of_pure (.refl _)
    | some body => exact .of_resolve fun w => .whole _ w
  | _ => exact .of_pure (.refl _)

/-- The items of a list are resolved one after the other. -/
theorem mapM_walks {action : Value → Resolving Value}
    {inside : Value → List (Position × String)}
    (h : ∀ v, r.Walks (action v) (inside v) v.Replaced) (k : Nat) (vs : List Value) :
    r.Walks (vs.mapM action) (Value.itemTokens inside k vs) (Value.ItemsReplaced k vs) := by
  induction vs generalizing k with
  | nil => exact .of_pure .nil
  | cons v vs ih =>
    rw [List.mapM_cons, Value.itemTokens]
    refine .bind ((h v).under k) ?_
    rintro new w ⟨inner, rfl, hw⟩
    rw [← List.append_nil (Value.itemTokens inside (k + 1) vs)]
    refine .bind (ih (k + 1)) fun more ws hws => .of_pure ?_
    rw [List.append_nil]
    exact .cons hw hws

/-- The walk evaluates the tokens that it looks for, and puts their values at their positions. -/
theorem resolveWithin_walks (n : Nat) (v : Value) :
    r.Walks (r.resolveWithin n v) (Value.tokensWithin n v) v.Replaced := by
  induction n generalizing v with
  | zero =>
    rw [Value.tokensWithin_leaf (.inl rfl)]
    exact r.resolveScalar_walks v
  | succ n ih =>
    cases v with
    | list vs =>
      rw [resolveWithin, Value.tokensWithin, ← List.append_nil (Value.itemTokens _ 0 vs)]
      refine .bind (r.mapM_walks ih 0 vs) fun new ws hws => .of_pure ?_
      rw [List.append_nil]
      exact hws.list
    | _ => exact r.resolveScalar_walks _

/-- Resolving an argument walks over its tokens. -/
theorem resolveValue_walks (v : Value) : r.Walks (r.resolveValue v) v.tokens v.Replaced := by
  rw [resolveValue_eq_resolveWithin]
  exact r.resolveWithin_walks 2 v

variable {r}

theorem resolveValue_bodies (v : Value) :
    (r.resolveValue v >>= fun _ => pure ()) = r.evaluateAll v.bodies := by
  rw [(r.resolveValue_walks v).evaluateAll, v.tokens_bodies]

/-- Resolving an argument records what its tokens record. -/
theorem resolveValue_names (v : Value) (scope : Scope) :
    (r.resolveValue v scope).2.names = scope.names.grown [] (r.entries v.bodies scope) := by
  rw [← evaluateAll_names, ← resolveValue_bodies, state_of_map _ fun _ => ()]

/-- An argument without tokens is resolved to itself, and nothing happens. -/
theorem resolveValue_of_no_tokens {v : Value} (h : v.tokens = []) (scope : Scope) :
    r.resolveValue v scope = (.ok v, scope) := by
  obtain ⟨result, after, inTurn, -, gives⟩ := r.resolveValue_walks v scope
  rw [h] at inTurn
  cases inTurn with
  | done =>
    obtain ⟨w, hw, replaced⟩ := gives [] rfl
    rw [hw, replaced.eq_of_nil]

/-- Resolving an argument touches its tokens and nothing else.  The tokens are the texts with one at
most two lists deep, in reading order.  They are evaluated in turn, each value is put at the
position of its token, and the rest stays.  Nothing is recorded but by the tokens, and an argument
without tokens is resolved to itself while the scope stays the same. -/
theorem resolveValue_touches_tokens (r : Resolver) (v : Value) :
    ((v.tokens.map (·.1)).Pairwise (· < ·) ∧
      ∀ pos body, (pos, body) ∈ v.tokens ↔
        pos.length ≤ 2 ∧ ∃ s, v.at? pos = some (.text s) ∧ Token.body? s = some body) ∧
    r.Walks (r.resolveValue v) v.tokens v.Replaced ∧
    (∀ scope, (r.resolveValue v scope).2.names
      = scope.names.grown [] (r.entries (v.tokens.map (·.2)) scope)) ∧
    (v.tokens = [] → ∀ scope, r.resolveValue v scope = (.ok v, scope)) := by
  refine ⟨⟨v.tokensWithin_ordered 2, fun _ _ => Value.mem_tokensWithin⟩, r.resolveValue_walks v,
    fun scope => ?_, resolveValue_of_no_tokens⟩
  rw [v.tokens_bodies, resolveValue_names]

end Resolver

/-- The arguments of a command record what their tokens record. -/
theorem Command.arguments_names (c : Command) (r : Resolver) (scope : Scope) :
    (c.arguments r scope).2.names = scope.names.grown [] (r.entries c.bodies scope) := by
  rw [Command.arguments, Command.bodies]
  cases c.argument with
  | none => simp [Resolver.entries]; rfl
  | some v =>
    rw [Option.map_some, Option.getD_some, ← Resolver.resolveValue_names]
    dsimp only
    rw [state_of_map]

end PageScript

import PageScript.Value.Basic

/-!
# Positions in values

A value is reached inside lists by its position: the number of the item in every list on the way
down.  There are no positions inside an object.

What stands at a position is the length of a list, or any other value (`Value.Node`).  A value is
known when the nodes at all its positions are (`Value.eq_of_node?`), so a change is described by its
nodes: `v.Replaced new w` says that `w` has the new values at their positions, and at every position
that is neither one of these nor inside one the node that `v` has there.
-/

namespace PageScript

/-- Where a value stands in another: the number of the item in every list on the way down. -/
abbrev Position := List Nat

namespace Value

/-- The value at a position. -/
def at? : Value → Position → Option Value
  | v, [] => some v
  | .list vs, i :: pos => vs[i]?.bind fun v => v.at? pos
  | _, _ :: _ => none

/-- What stands at a position, apart from the items of a list. -/
inductive Node where
  | list (length : Nat)
  | other (v : Value)

/-- A value apart from its items. -/
def node : Value → Node
  | .list vs => .list vs.length
  | v => .other v

/-- The node at a position. -/
def node? (v : Value) (pos : Position) : Option Node := (v.at? pos).map node

/-- There are no positions inside anything but a list. -/
theorem at?_cons {v : Value} (h : ∀ vs, v ≠ .list vs) (i : Nat) (pos : Position) :
    v.at? (i :: pos) = none := by
  cases v with
  | list vs => exact absurd rfl (h vs)
  | _ => rfl

theorem node_eq_list {v : Value} {n : Nat} (h : v.node = .list n) :
    ∃ vs, v = .list vs ∧ vs.length = n := by
  cases v with
  | list vs =>
    cases h
    exact ⟨vs, rfl, rfl⟩
  | _ => cases h

theorem node_of_ne {v : Value} (h : ∀ vs, v ≠ .list vs) : v.node = .other v := by
  cases v with
  | list vs => exact absurd rfl (h vs)
  | _ => rfl

theorem node_eq_other {v w : Value} (h : w.node = .other v) : w = v := by
  cases w with
  | list ws => cases h
  | _ => exact Node.other.inj h

/-- Values with the same nodes are equal. -/
theorem eq_of_node? {v w : Value} (h : ∀ pos, w.node? pos = v.node? pos) : w = v := by
  have top : w.node = v.node := Option.some_inj.mp (h [])
  by_cases hlist : ∃ vs, v = .list vs
  · obtain ⟨vs, rfl⟩ := hlist
    obtain ⟨ws, rfl, same⟩ := node_eq_list top
    congr 1
    refine List.ext_getElem same fun i hi hi' => ?_
    have : sizeOf vs[i] < sizeOf (Value.list vs) := by
      rw [Value.list.sizeOf_spec]
      exact Nat.lt_add_left 1 (List.sizeOf_lt_of_mem (List.getElem_mem hi'))
    refine eq_of_node? fun pos => ?_
    have inner := h (i :: pos)
    rwa [node?, node?, at?, at?, List.getElem?_eq_getElem hi, List.getElem?_eq_getElem hi'] at inner
  · have single := node_of_ne fun vs hv => hlist ⟨vs, hv⟩
    exact node_eq_other (top.trans single)
termination_by sizeOf v
decreasing_by
  subst_vars
  exact this

/-! ## Replacing -/

/-- A value with new ones at some positions: everything that is neither at these positions nor
inside them stays. -/
structure Replaced (v : Value) (new : List (Position × Value)) (w : Value) : Prop where
  put : ∀ pos x, (pos, x) ∈ new → w.at? pos = some x
  kept : ∀ pos, (∀ top x, (top, x) ∈ new → ¬ top <+: pos) → w.node? pos = v.node? pos

theorem Replaced.refl (v : Value) : v.Replaced [] v := ⟨nofun, fun _ _ => rfl⟩

/-- Nothing is changed where nothing is new. -/
theorem Replaced.eq_of_nil {v w : Value} (h : v.Replaced [] w) : w = v :=
  eq_of_node? fun pos => h.kept pos nofun

theorem Replaced.whole (v x : Value) : v.Replaced [([], x)] x := by
  refine ⟨?_, fun pos apart => absurd (List.nil_prefix) (apart [] x List.mem_cons_self)⟩
  rintro pos y hmem
  cases List.mem_singleton.mp hmem
  rfl

/-- An entry at a position of an item, as one of the list. -/
def under {α : Type} (i : Nat) (entry : Position × α) : Position × α := (i :: entry.1, entry.2)

/-- The items of a list, counted from a number on, are replaced one by one. -/
inductive ItemsReplaced : Nat → List Value → List (Position × Value) → List Value → Prop where
  | nil {k : Nat} : ItemsReplaced k [] [] []
  | cons {k : Nat} {v w : Value} {vs ws : List Value} {new more : List (Position × Value)}
      (h : v.Replaced new w) (hrest : ItemsReplaced (k + 1) vs more ws) :
      ItemsReplaced k (v :: vs) (new.map (under k) ++ more) (w :: ws)

namespace ItemsReplaced

variable {k : Nat} {vs ws : List Value} {new : List (Position × Value)}

theorem length_eq (h : ItemsReplaced k vs new ws) : ws.length = vs.length := by
  induction h with
  | nil => rfl
  | cons _ _ ih => rw [List.length_cons, List.length_cons, ih]

theorem put (h : ItemsReplaced k vs new ws) {pos : Position} {x : Value} (hmem : (pos, x) ∈ new) :
    ∃ i inner, pos = (k + i) :: inner ∧ (ws[i]?.bind fun w => w.at? inner) = some x := by
  induction h with
  | nil => cases hmem
  | cons hv _ ih =>
    rcases List.mem_append.mp hmem with hfirst | hrest
    · obtain ⟨⟨inner, y⟩, hinner, same⟩ := List.mem_map.mp hfirst
      cases same
      exact ⟨0, inner, rfl, hv.put inner _ hinner⟩
    · obtain ⟨i, inner, rfl, hx⟩ := ih hrest
      exact ⟨i + 1, inner, by rw [Nat.succ_add_eq_add_succ], hx⟩

theorem kept (h : ItemsReplaced k vs new ws) {i : Nat} {inner : Position}
    (apart : ∀ top x, (top, x) ∈ new → ¬ top <+: (k + i) :: inner) :
    (ws[i]?.bind fun w => w.at? inner).map node = (vs[i]?.bind fun v => v.at? inner).map node := by
  induction h generalizing i with
  | nil => rfl
  | @cons k v w vs ws new more hv _ ih =>
    cases i with
    | zero =>
      refine hv.kept inner fun top x hmem hprefix => ?_
      have entry : (k :: top, x) ∈ new.map (under k) := List.mem_map.mpr ⟨(top, x), hmem, rfl⟩
      exact apart _ x (List.mem_append_left more entry) (List.cons_prefix_cons.mpr ⟨rfl, hprefix⟩)
    | succ i =>
      refine ih fun top x hmem => ?_
      have := apart top x (List.mem_append_right _ hmem)
      rwa [Nat.succ_add_eq_add_succ]

/-- A list whose items are replaced one by one. -/
theorem list (h : ItemsReplaced 0 vs new ws) : (Value.list vs).Replaced new (.list ws) := by
  refine ⟨fun pos x hmem => ?_, fun pos apart => ?_⟩
  · obtain ⟨i, inner, rfl, hx⟩ := h.put hmem
    rwa [Nat.zero_add]
  · cases pos with
    | nil => exact congrArg (fun n => some (Node.list n)) h.length_eq
    | cons i inner => exact h.kept (by rwa [Nat.zero_add])

end ItemsReplaced

end Value

end PageScript

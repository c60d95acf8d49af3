import PageScript.Session.Call

/-!
# Calls one after another

The state that calls leave when they are made in order, whatever comes of each of them.  What every
single call keeps is kept by all of them.
-/

namespace PageScript

namespace Session

variable {σ : Type} (s : Session σ)

/-- The state after calls in order. -/
def after (x : σ) (cs : List Call) : σ := cs.foldl (fun x c => (s.perform c x).after) x

@[simp] theorem after_nil (x : σ) : s.after x [] = x := rfl

@[simp] theorem after_cons (x : σ) (c : Call) (cs : List Call) :
    s.after x (c :: cs) = s.after (s.perform c x).after cs := rfl

@[simp] theorem after_append (x : σ) (cs ds : List Call) :
    s.after x (cs ++ ds) = s.after (s.after x cs) ds := by
  rw [after, after, after, List.foldl_append]

/-- What each of the calls keeps holds after them. -/
theorem after_keeps {P : σ → Prop} {cs : List Call}
    (h : ∀ c ∈ cs, ∀ x, P x → P (s.perform c x).after) {x : σ} (hx : P x) : P (s.after x cs) := by
  induction cs generalizing x with
  | nil => exact hx
  | cons c cs ih =>
    refine ih (fun d hd => h d (List.mem_cons_of_mem _ hd)) ?_
    exact h c List.mem_cons_self x hx

/-- If a property, where it holds, survives just the calls that are harmless there, then it holds
all along the calls just if every call is harmless where it is made. -/
theorem holds_throughout_iff {P : σ → Prop} {Harmless : Call → σ → Prop}
    (hstep : ∀ c x, P x → (P (s.perform c x).after ↔ Harmless c x)) (cs : List Call) {x : σ}
    (hx : P x) :
    (∀ front back, cs = front ++ back → P (s.after x front)) ↔
      ∀ front c back, cs = front ++ c :: back → Harmless c (s.after x front) := by
  constructor
  · intro h front c back heq
    refine (hstep c _ (h front (c :: back) heq)).mp ?_
    have next := h (front ++ [c]) back (by rw [heq, List.append_assoc]; rfl)
    rwa [after_append] at next
  · intro h front
    -- the property goes along the calls from the first to the last
    induction front generalizing x cs with
    | nil => exact fun _ _ => hx
    | cons c front ih =>
      rintro back rfl
      refine ih (front ++ back) ?_ ?_ back rfl
      · exact (hstep c x hx).mpr (h [] c (front ++ back) rfl)
      · intro first d rest heq
        exact h (c :: first) d rest (by rw [List.cons_append, heq]; rfl)

end Session

end PageScript

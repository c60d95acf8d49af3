import PageScript.Proofs.Literal.Parsing

/-!
# Whole texts

A whole text is a literal between blanks, or a row of literals without brackets, which is a tuple.
`SpellsWhole` says so, and `parse_eq_ok_iff` says that the parser reads these texts and no others,
with the values that the grammar gives them.
-/

namespace PageScript

namespace Literal

open Text (Blank isBlank trimLeft trimLeft_blank_cons)

/-- The text is a row of literals up to its end. -/
inductive SpellsTop : List Value → List Char → Prop where
  | nil {ws : List Char} (hws : Blank ws) : SpellsTop [] ws
  | last {v : Value} {cs ws : List Char} (h : Spells v cs) (hws : Blank ws) :
      SpellsTop [v] (cs ++ ws)
  | more {v : Value} {vs : List Value} {cs ws rest : List Char} (h : Spells v cs) (hws : Blank ws)
      (hrest : SpellsTop vs rest) : SpellsTop (v :: vs) (cs ++ (ws ++ ',' :: rest))

/-- The whole text is a literal for the value. -/
inductive SpellsWhole : Value → List Char → Prop where
  | single {v : Value} {cs ws : List Char} (h : Spells v cs) (hws : Blank ws) :
      SpellsWhole v (cs ++ ws)
  | tuple {v : Value} {vs : List Value} {cs ws rest : List Char} (h : Spells v cs) (hws : Blank ws)
      (hrest : SpellsTop vs rest) : SpellsWhole (.list (v :: vs)) (cs ++ (ws ++ ',' :: rest))

theorem Spells.whole {v : Value} {cs : List Char} (h : Spells v cs) : SpellsWhole v cs := by
  have single := SpellsWhole.single h Text.blank_nil
  rwa [List.append_nil] at single

theorem SpellsWhole.blanks {v : Value} {ws cs : List Char} (hws : Blank ws) (h : SpellsWhole v cs) :
    SpellsWhole v (ws ++ cs) := by
  cases h with
  | single h hvs =>
    rw [← List.append_assoc]
    exact .single (h.blanks hws) hvs
  | tuple h hvs hrest =>
    rw [← List.append_assoc]
    exact .tuple (h.blanks hws) hvs hrest

/-! ## Rows without brackets -/

theorem topItems_value {fuel : Nat} {cs tail rest : List Char} {c : Char} {v : Value}
    (hc : trimLeft cs = c :: tail) (hv : value (fuel + 1) cs = .ok (v, rest)) :
    topItems (fuel + 2) cs = match trimLeft rest with
      | ',' :: rest =>
        match topItems (fuel + 1) rest with
        | .error f => .error f
        | .ok (vs, rest) => .ok (v :: vs, rest)
      | rest => .ok ([v], rest) := by
  rw [topItems, hc]
  dsimp only
  rewrite [← value_of_trimLeft hc, hv]
  rfl

/-- A row of literals at the end of a text is taken whole. -/
theorem SpellsTop.read {vs : List Value} {cs : List Char} (h : SpellsTop vs cs) :
    ∀ {fuel : Nat}, 3 * cs.length + 2 ≤ fuel → topItems fuel cs = .ok (vs, []) := by
  induction h with
  | nil hws =>
    intro fuel hf
    obtain ⟨fuel, rfl⟩ : ∃ f, fuel = f + 1 := ⟨fuel - 1, by omega⟩
    rw [topItems, Text.trimLeft_of_blank hws]
  | @last v cs ws h hws =>
    intro fuel hf
    obtain ⟨fuel, rfl⟩ : ∃ f, fuel = f + 2 := ⟨fuel - 2, by omega⟩
    obtain ⟨c, tail, hc, -⟩ := h.head_append ws
    have stops : Stops ws := by
      have := stops_nil.blank hws
      rwa [List.append_nil] at this
    have hv : value (fuel + 1) (cs ++ ws) = .ok (v, ws) := h.read stops (by omega)
    rw [topItems_value hc hv, Text.trimLeft_of_blank hws]
  | @more v vs cs ws rest h hws hrest ih =>
    intro fuel hf
    obtain ⟨fuel, rfl⟩ : ∃ f, fuel = f + 2 := ⟨fuel - 2, by omega⟩
    obtain ⟨c, tail, hc, -⟩ := h.head_append (ws ++ ',' :: rest)
    have hv : value (fuel + 1) (cs ++ (ws ++ ',' :: rest)) = .ok (v, ws ++ ',' :: rest) :=
      h.read ((stops_cons rfl rest).blank hws) (by omega)
    have hvs : topItems (fuel + 1) rest = .ok (vs, []) :=
      ih (by simp only [List.length_append, List.length_cons] at hf; omega)
    rw [topItems_value hc hv, trimLeft_blank_cons hws rfl]
    show (match topItems (fuel + 1) rest with | .error f => _ | .ok (vs, rest) => _) = _
    rw [hvs]

/-- What the reader of rows takes up to the end of a text is a row of literals. -/
theorem topItems_ok : ∀ (fuel : Nat) {cs rest : List Char} {vs : List Value},
    topItems fuel cs = .ok (vs, rest) → trimLeft rest = [] → SpellsTop vs cs
  | 0, _, _, _, h, _ => by cases h
  | fuel + 1, cs, rest, vs, h, hrest => by
    rw [topItems] at h
    split at h
    · next ht =>
      cases h
      exact .nil (Text.blank_of_trimLeft ht)
    · cases hv : value fuel (trimLeft cs) with
      | error f => rw [hv] at h; cases h
      | ok r =>
        obtain ⟨v, behind⟩ := r
        rw [hv] at h
        dsimp only at h
        split at h
        · next more ht =>
          obtain ⟨used, ws, rfl, hspells, hws⟩ := (sound fuel).before_trimLeft hv ht
          cases hm : topItems fuel more with
          | error f => rw [hm] at h; cases h
          | ok r =>
            rw [hm] at h
            cases h
            exact .more hspells hws (topItems_ok fuel hm hrest)
        · cases h
          rw [Text.trimLeft_trimLeft] at hrest
          obtain ⟨front, hfront, hcs⟩ := Text.exists_blank_append cs
          obtain ⟨used, heq, hspells⟩ := (sound fuel).value hv
          rw [heq, ← List.append_assoc] at hcs
          rw [hcs]
          exact .last (hspells.blanks hfront) (Text.blank_of_trimLeft hrest)

/-! ## Whole texts -/

/-- A literal without the blanks in front of it. -/
theorem Spells.bare {v : Value} {cs : List Char} (h : Spells v cs) :
    ∃ c tail, isBlank c = false ∧ Spells v (c :: tail) ∧
      ∀ more, trimLeft (cs ++ more) = c :: (tail ++ more) := by
  induction cs with
  | nil =>
    obtain ⟨c, rest, heq, -⟩ := h.head
    cases heq
  | cons c cs ih =>
    cases hc : isBlank c with
    | false => exact ⟨c, cs, hc, h, fun more => Text.trimLeft_cons_ink hc _⟩
    | true =>
      have inner : Spells v cs := by
        cases h with
        | blank _ h => exact h
        | lexeme h =>
          obtain ⟨d, rest, heq, hd⟩ := h.head
          cases heq
          have := cannotStart_of_startsLexeme hd
          rw [cannotStart, hc] at this
          cases this
        | _ => cases hc
      obtain ⟨d, rest, hd, hrest, heq⟩ := ih inner
      refine ⟨d, rest, hd, hrest, fun more => ?_⟩
      rw [List.cons_append, Text.trimLeft_cons_blank hc, heq]

theorem read_trimLeft (cs : List Char) : read (trimLeft cs) = read cs := by
  rw [read, read, Text.trimLeft_trimLeft]

/-- What follows the first literal of a whole text decides about it. -/
theorem read_value {c : Char} {tail rest : List Char} {v : Value} (hc : isBlank c = false)
    (hv : value (fuelFor (c :: tail)) (c :: tail) = .ok (v, rest)) :
    read (c :: tail) = match (match trimLeft rest with
      | ',' :: rest =>
        match topItems (fuelFor (c :: tail)) rest with
        | .error f => .error f
        | .ok (vs, rest) => .ok (.list (v :: vs), rest)
      | rest => .ok (v, rest) : Read Value) with
    | .error f => .error f
    | .ok (v, rest) =>
      match trimLeft rest with
      | [] => .ok v
      | rest => .error (.problem .trailingInput rest.length) := by
  rw [read, Text.trimLeft_cons_ink hc]
  dsimp only
  rewrite [hv]
  rfl

theorem SpellsWhole.read {v : Value} {cs : List Char} (h : SpellsWhole v cs) :
    Literal.read cs = .ok v := by
  cases h with
  | @single _ cs ws h hws =>
    obtain ⟨c, tail, hc, hspells, heq⟩ := h.bare
    have stops : Stops ws := by
      have := stops_nil.blank hws
      rwa [List.append_nil] at this
    have hv : value (fuelFor (c :: (tail ++ ws))) (c :: (tail ++ ws)) = .ok (v, ws) :=
      hspells.read stops (by simp [fuelFor])
    rw [← read_trimLeft, heq, read_value hc hv, Text.trimLeft_of_blank hws]
    rfl
  | @tuple v vs cs ws rest h hws hrest =>
    obtain ⟨c, tail, hc, hspells, heq⟩ := h.bare
    have hv : value (fuelFor (c :: (tail ++ (ws ++ ',' :: rest)))) (c :: (tail ++ (ws ++ ',' :: rest)))
        = .ok (v, ws ++ ',' :: rest) :=
      hspells.read ((stops_cons rfl rest).blank hws) (by simp [fuelFor])
    have hvs : topItems (fuelFor (c :: (tail ++ (ws ++ ',' :: rest)))) rest = .ok (vs, []) :=
      hrest.read (by simp only [fuelFor, List.length_append, List.length_cons]; omega)
    rw [← read_trimLeft, heq, read_value hc hv, trimLeft_blank_cons hws rfl]
    show (match (match topItems _ rest with | .error f => _ | .ok (vs, rest) => _ : Read Value) with
      | .error f => _ | .ok (v, rest) => _) = _
    rw [hvs]
    rfl

/-- A whole text begins with a literal. -/
theorem value_of_read {c : Char} {tail : List Char} {v : Value} (hc : isBlank c = false)
    (h : read (c :: tail) = .ok v) :
    ∃ first behind, value (fuelFor (c :: tail)) (c :: tail) = .ok (first, behind) := by
  cases hv : value (fuelFor (c :: tail)) (c :: tail) with
  | ok r => exact ⟨r.1, r.2, rfl⟩
  | error f =>
    rw [read, Text.trimLeft_cons_ink hc] at h
    dsimp only at h
    rw [hv] at h
    cases h

/-- Behind the first literal of a whole text there is a comma and more literals, or nothing. -/
theorem read_cases {c : Char} {tail behind : List Char} {first v : Value} (hc : isBlank c = false)
    (hv : value (fuelFor (c :: tail)) (c :: tail) = .ok (first, behind))
    (h : read (c :: tail) = .ok v) :
    (∃ more vs rest, trimLeft behind = ',' :: more ∧
      topItems (fuelFor (c :: tail)) more = .ok (vs, rest) ∧ trimLeft rest = [] ∧
      v = .list (first :: vs)) ∨
    (trimLeft behind = [] ∧ v = first) := by
  rw [read_value hc hv] at h
  by_cases hcomma : ∃ more, trimLeft behind = ',' :: more
  · obtain ⟨more, hm⟩ := hcomma
    rw [hm] at h
    cases htop : topItems (fuelFor (c :: tail)) more with
    | error f => simp only [htop] at h; cases h
    | ok r =>
      obtain ⟨vs, rest⟩ := r
      simp only [htop] at h
      cases hrest : trimLeft rest with
      | nil =>
        rw [hrest] at h
        cases h
        exact .inl ⟨more, vs, rest, hm, htop, hrest, rfl⟩
      | cons d more => rw [hrest] at h; cases h
  · split at h
    · next hm =>
      split at hm
      · next more hcons => exact absurd ⟨more, hcons⟩ hcomma
      · cases hm
    · next hm =>
      split at hm
      · next more hcons => exact absurd ⟨more, hcons⟩ hcomma
      · cases hm
        rw [Text.trimLeft_trimLeft] at h
        cases hrest : trimLeft behind with
        | nil =>
          rw [hrest] at h
          cases h
          exact .inr ⟨rfl, rfl⟩
        | cons d more => rw [hrest] at h; cases h

theorem spellsWhole_of_read {cs : List Char} {v : Value} (h : read cs = .ok v) :
    SpellsWhole v cs := by
  obtain ⟨front, hfront, hcs⟩ := Text.exists_blank_append cs
  cases ht : trimLeft cs with
  | nil => rw [read, ht] at h; cases h
  | cons c tail =>
    rw [ht] at hcs
    subst hcs
    rw [← read_trimLeft, ht] at h
    have hc := Text.isBlank_of_trimLeft ht
    obtain ⟨first, behind, hv⟩ := value_of_read hc h
    refine SpellsWhole.blanks hfront ?_
    rcases read_cases hc hv h with ⟨more, vs, rest, hm, htop, hrest, rfl⟩ | ⟨hrest, rfl⟩
    · obtain ⟨used, ws, heq, hspells, hws⟩ := (sound _).before hv hm
      rw [heq]
      exact .tuple hspells hws (topItems_ok _ htop hrest)
    · obtain ⟨used, heq, hspells⟩ := (sound _).value hv
      rw [heq]
      exact .single hspells (Text.blank_of_trimLeft hrest)

/-- The reader of whole texts reads what the grammar spells, and nothing else. -/
theorem read_eq_ok_iff {cs : List Char} {v : Value} : read cs = .ok v ↔ SpellsWhole v cs :=
  ⟨spellsWhole_of_read, SpellsWhole.read⟩

theorem parse_eq_ok_iff {source : String} {v : Value} :
    parse source = .ok v ↔ SpellsWhole v source.toList := by
  rw [← read_eq_ok_iff, parse]
  cases read source.toList with
  | error f => exact ⟨fun h => (by cases h), fun h => (by cases h)⟩
  | ok w => exact ⟨fun h => (by cases h; rfl), fun h => (by cases h; rfl)⟩

/-! ## Blanks around whole texts -/

theorem SpellsTop.append_blank {vs : List Value} {cs ws : List Char} (h : SpellsTop vs cs)
    (hws : Blank ws) : SpellsTop vs (cs ++ ws) := by
  induction h with
  | nil hvs => exact .nil (hvs.append hws)
  | last h hvs =>
    rw [List.append_assoc]
    exact .last h (hvs.append hws)
  | more h hvs _ ih =>
    rw [List.append_assoc, List.append_assoc]
    exact .more h hvs ih

theorem SpellsWhole.append_blank {v : Value} {cs ws : List Char} (h : SpellsWhole v cs)
    (hws : Blank ws) : SpellsWhole v (cs ++ ws) := by
  cases h with
  | single h hvs =>
    rw [List.append_assoc]
    exact .single h (hvs.append hws)
  | tuple h hvs hrest =>
    rw [List.append_assoc, List.append_assoc]
    exact .tuple h hvs (hrest.append_blank hws)

theorem trimRight_comma (cs ws rest : List Char) :
    Text.trimRight (cs ++ (ws ++ ',' :: rest)) = cs ++ (ws ++ ',' :: Text.trimRight rest) := by
  rw [← List.append_assoc, Text.trimRight_append_ink _ rfl, List.append_assoc]

theorem SpellsTop.trimRight {vs : List Value} {cs : List Char} (h : SpellsTop vs cs) :
    SpellsTop vs (Text.trimRight cs) := by
  induction h with
  | nil hws =>
    rw [Text.trimRight_of_blank hws]
    exact .nil Text.blank_nil
  | @last v cs ws h hws =>
    rw [Text.trimRight_append_blank h.ends hws, ← List.append_nil cs]
    exact .last h Text.blank_nil
  | more h hws _ ih =>
    rw [trimRight_comma]
    exact .more h hws ih

theorem SpellsWhole.trimRight {v : Value} {cs : List Char} (h : SpellsWhole v cs) :
    SpellsWhole v (Text.trimRight cs) := by
  cases h with
  | @single _ cs ws h hws =>
    rw [Text.trimRight_append_blank h.ends hws, ← List.append_nil cs]
    exact .single h Text.blank_nil
  | tuple h hws hrest =>
    rw [trimRight_comma]
    exact .tuple h hws hrest.trimRight

theorem spellsWhole_trimRight_iff {v : Value} {cs : List Char} :
    SpellsWhole v (Text.trimRight cs) ↔ SpellsWhole v cs := by
  constructor
  · intro h
    have whole := Text.dropRightWhile_append_takeWhile isBlank cs
    have back : Blank (cs.reverse.takeWhile isBlank).reverse := fun c hc =>
      mem_takeWhile (List.mem_reverse.mp hc)
    rw [← whole]
    exact h.append_blank back
  · exact SpellsWhole.trimRight

/-- Blanks around a whole text do not matter. -/
theorem spellsWhole_trim_iff {v : Value} {cs : List Char} :
    SpellsWhole v (Text.trim cs) ↔ SpellsWhole v cs := by
  rw [Text.trim, spellsWhole_trimRight_iff, ← read_eq_ok_iff, read_trimLeft, read_eq_ok_iff]

end Literal

end PageScript

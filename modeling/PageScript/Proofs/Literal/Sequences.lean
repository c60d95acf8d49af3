import Mathlib.Data.List.Forall2
import PageScript.Proofs.Literal.Whole

/-!
# Rows of literals

A row of literals with commas between them can stand in brackets, in parentheses, in braces or
alone, and a comma may follow the last one.  All these texts are the same list; only parentheses
around one literal without a comma are that literal, and braces leave out what is a duplicate of an
item before (`Literal.sequences_agree`).

Each way of writing a row has a reader of its own.  The grammar has two rows, `SpellsItems` up to a
closing mark and `SpellsTop` up to the end of the text, and the rest follows by the rule for the
first literal.
-/

namespace PageScript

namespace Double

/-- Equality as numbers goes on along equal numbers. -/
theorem same_trans {x y z : Double} (hxy : x.same y = true) (hyz : y.same z = true) :
    x.same z = true := by
  match x, y, z, hxy, hyz with
  | .finite s m e, .finite t n f, .finite u p g, hxy, hyz =>
    simp only [same] at hxy hyz ⊢
    split at hxy <;> split at hyz <;> simp_all
  | .infinite s, .infinite t, .infinite u, hxy, hyz =>
    simp only [same, beq_iff_eq] at hxy hyz ⊢
    exact hxy.trans hyz

end Double

namespace Value

/-! ## Equal values -/

theorem sameFields_iff {fs gs : List (String × Value)} : sameFields fs gs = true ↔
    ∀ f ∈ fs, ∃ w, gs.lookup f.1 = some w ∧ f.2.same w = true := by
  induction fs with
  | nil => simp [sameFields]
  | cons f fs ih =>
    obtain ⟨k, v⟩ := f
    rw [sameFields, Bool.and_eq_true, ih, List.forall_mem_cons]
    refine and_congr_left fun _ => ?_
    cases gs.lookup k <;> simp

mutual

/-- Equality of values goes on along equal values. -/
theorem same_trans : ∀ {u v w : Value}, u.same v = true → v.same w = true → u.same w = true
  | .null, .null, _, _, h' => h'
  | .bool a, .bool b, .bool c, h, h' => by
    simp only [same, beq_iff_eq] at h h' ⊢
    exact h.trans h'
  | .number (.integer a), .number (.integer b), .number (.integer c), h, h' => by
    simp only [same, Number.same, beq_iff_eq] at h h' ⊢
    exact h.trans h'
  | .number (.real a), .number (.real b), .number (.real c), h, h' => Double.same_trans h h'
  | .text a, .text b, .text c, h, h' => by
    simp only [same, beq_iff_eq] at h h' ⊢
    exact h.trans h'
  | .list xs, .list ys, .list zs, h, h' => by
    rw [same] at h h' ⊢
    exact sameList_trans h h'
  | .object fs, .object gs, .object hs, h, h' => by
    simp only [same, Bool.and_eq_true, beq_iff_eq] at h h' ⊢
    exact ⟨h.1.trans h'.1, sameFields_trans h.2 h'.2⟩

theorem sameList_trans : ∀ {us vs ws : List Value}, sameList us vs = true → sameList vs ws = true →
    sameList us ws = true
  | [], [], _, _, h' => h'
  | u :: us, v :: vs, w :: ws, h, h' => by
    simp only [sameList, Bool.and_eq_true] at h h' ⊢
    exact ⟨same_trans h.1 h'.1, sameList_trans h.2 h'.2⟩

theorem sameFields_trans : ∀ {fs gs hs : List (String × Value)}, sameFields fs gs = true →
    sameFields gs hs = true → sameFields fs hs = true
  | [], _, _, _, _ => rfl
  | (k, v) :: fs, gs, hs, h, h' => by
    obtain ⟨w, hw, hvw⟩ := sameFields_iff.mp h (k, v) List.mem_cons_self
    obtain ⟨front, back, hgs, -⟩ := List.lookup_eq_some_iff.mp hw
    obtain ⟨u, hu, hwu⟩ := sameFields_iff.mp h' (k, w) (by simp [hgs])
    rw [sameFields, Bool.and_eq_true] at h ⊢
    rw [hu]
    exact ⟨same_trans hvw hwu, sameFields_trans h.2 h'⟩

end

end Value

namespace Literal

open Text (Blank blank_nil)

/-! ## Duplicates -/

/-- The items that are no duplicates of items in front of them; some stand in front of all. -/
def firstsBehind : List Value → List Value → List Value
  | _, [] => []
  | before, v :: vs =>
    if before.any (·.same v) then firstsBehind (before ++ [v]) vs
    else v :: firstsBehind (before ++ [v]) vs

/-- The items that are no duplicates of items before them, in order. -/
def firsts (vs : List Value) : List Value := firstsBehind [] vs

/-- The items that are kept have the same duplicates as all items. -/
theorem distinct_eq_firstsBehind {kept : List Value} (before : List Value)
    (h : ∀ v, kept.any (·.same v) = before.any (·.same v)) (vs : List Value) :
    (vs.foldl (fun kept v => if kept.any (·.same v) then kept else v :: kept) kept).reverse
      = kept.reverse ++ firstsBehind before vs := by
  induction vs generalizing kept before with
  | nil => simp [firstsBehind]
  | cons v vs ih =>
    rw [List.foldl_cons, firstsBehind, h v]
    cases hv : before.any (·.same v) with
    | false =>
      rw [if_neg (by simp), if_neg (by simp), ih (before ++ [v]), List.reverse_cons,
        List.append_assoc]
      · rfl
      · intro w
        rw [List.any_cons, List.any_append, h w, Bool.or_comm]
        simp
    | true =>
      rw [if_pos rfl, if_pos rfl, ih (before ++ [v])]
      intro w
      rw [List.any_append, h w]
      -- a duplicate of the item left out is one of an item before it
      cases hw : v.same w with
      | false => simp [hw]
      | true =>
        obtain ⟨u, hu, huv⟩ := List.any_eq_true.mp hv
        have earlier : before.any (·.same w) = true :=
          List.any_eq_true.mpr ⟨u, hu, Value.same_trans huv hw⟩
        rw [earlier, Bool.true_or]

theorem distinct_eq_firsts (vs : List Value) : distinct vs = firsts vs := by
  rw [distinct, distinct_eq_firstsBehind [] fun _ => rfl]
  rfl

/-! ## Rows -/

/-- The reader of values takes the whole text, blanks at its end apart. -/
def TakesWhole (v : Value) (text : List Char) : Prop :=
  ∃ rest, value (fuelFor text) text = .ok (v, rest) ∧ Blank rest

theorem TakesWhole.spells {v : Value} {text : List Char} (h : TakesWhole v text) :
    ∃ cs ws, text = cs ++ ws ∧ Spells v cs ∧ Blank ws := by
  obtain ⟨rest, hv, hrest⟩ := h
  obtain ⟨used, hused, hspells⟩ := (sound _).value hv
  exact ⟨used, rest, hused, hspells, hrest⟩

/-- Texts of literals with commas between them are a row of any kind that goes on behind a comma and
ends with the last literal and what follows it. -/
theorem row_intercalate {Row : List Value → List Char → Prop} {tail : List Char}
    (hmore : ∀ {v vs cs ws rest}, Spells v cs → Blank ws → Row vs rest →
      Row (v :: vs) (cs ++ (ws ++ ',' :: rest)))
    (hlast : ∀ {v cs ws}, Spells v cs → Blank ws → Row [v] (cs ++ (ws ++ tail)))
    {vs : List Value} {texts : List (List Char)} (h : List.Forall₂ TakesWhole vs texts)
    (hne : texts ≠ []) : Row vs (List.intercalate [','] texts ++ tail) := by
  induction h with
  | nil => exact absurd rfl hne
  | @cons v text vs texts hv hvs ih =>
    obtain ⟨cs, ws, rfl, hspells, hws⟩ := hv.spells
    cases texts with
    | nil =>
      cases hvs
      rw [List.intercalate_singleton, List.append_assoc]
      exact hlast hspells hws
    | cons second texts =>
      have row := hmore hspells hws (ih (List.cons_ne_nil _ _))
      rw [List.intercalate_cons_cons]
      simpa using row

section

variable {vs : List Value} {texts : List (List Char)} (h : List.Forall₂ TakesWhole vs texts)
  (hne : texts ≠ [])

include h hne

theorem spellsItems_intercalate (close : Char) :
    SpellsItems close vs (List.intercalate [','] texts ++ [close]) :=
  row_intercalate .more .last h hne

theorem spellsItems_intercalate_comma (close : Char) :
    SpellsItems close vs (List.intercalate [','] texts ++ [',', close]) :=
  row_intercalate .more (fun hv hws => .more hv hws (.close blank_nil)) h hne

theorem spellsTop_intercalate_end : SpellsTop vs (List.intercalate [','] texts ++ []) :=
  row_intercalate .more (fun hv hws => by rw [List.append_nil]; exact .last hv hws) h hne

theorem spellsTop_intercalate_comma : SpellsTop vs (List.intercalate [','] texts ++ [',']) :=
  row_intercalate .more (fun hv hws => .more hv hws (.nil blank_nil)) h hne

end

/-- The texts that are the list of a row: the row in brackets, in parentheses with a comma at its
end, alone with a comma at its end, and in braces, where it loses its duplicates.  Without the comma,
several literals in parentheses and alone are the list, too, and parentheses around a single literal
are that literal. -/
structure Holds (vs : List Value) (row : List Char) : Prop where
  brackets : Spells (.list vs) ('[' :: (row ++ [']']))
  bracketsComma : Spells (.list vs) ('[' :: (row ++ [',', ']']))
  parensComma : Spells (.list vs) ('(' :: (row ++ [',', ')']))
  bareComma : SpellsWhole (.list vs) (row ++ [','])
  braces : Spells (.list (firsts vs)) ('{' :: (row ++ ['}']))
  bracesComma : Spells (.list (firsts vs)) ('{' :: (row ++ [',', '}']))
  parens : 2 ≤ vs.length → Spells (.list vs) ('(' :: (row ++ [')']))
  bare : 2 ≤ vs.length → SpellsWhole (.list vs) row
  parensSingle : ∀ v, vs = [v] → Spells v ('(' :: (row ++ [')']))

theorem holds_single {v : Value} {text : List Char} (hv : TakesWhole v text) : Holds [v] text := by
  obtain ⟨cs, ws, rfl, hspells, hws⟩ := hv.spells
  have split (tail : List Char) : cs ++ ws ++ tail = cs ++ (ws ++ tail) := List.append_assoc ..
  constructor
  · rw [split]
    exact .list (.last hspells hws)
  · rw [split]
    exact .list (.more hspells hws (.close blank_nil))
  · rw [split]
    exact .tuple hspells hws (.close blank_nil)
  · rw [split]
    exact .tuple hspells hws (.nil blank_nil)
  · rw [split]
    exact .single hspells hws
  · rw [split]
    exact .set hspells hws (.close blank_nil)
  · simp
  · simp
  · rintro _ ⟨⟩
    rw [split]
    exact .group hspells hws

theorem holds_several {v : Value} {vs : List Value} {text : List Char} {texts : List (List Char)}
    (hv : TakesWhole v text) (hvs : List.Forall₂ TakesWhole vs texts) (hne : texts ≠ []) :
    Holds (v :: vs) (List.intercalate [','] (text :: texts)) := by
  obtain ⟨cs, ws, rfl, hspells, hws⟩ := hv.spells
  have split (tail : List Char) : List.intercalate [','] ((cs ++ ws) :: texts) ++ tail
      = cs ++ (ws ++ ',' :: (List.intercalate [','] texts ++ tail)) := by
    obtain ⟨second, rest, rfl⟩ := List.exists_cons_of_ne_nil hne
    simp [List.intercalate_cons_cons]
  constructor
  · rw [split]
    exact .list (.more hspells hws (spellsItems_intercalate hvs hne ']'))
  · rw [split]
    exact .list (.more hspells hws (spellsItems_intercalate_comma hvs hne ']'))
  · rw [split]
    exact .tuple hspells hws (spellsItems_intercalate_comma hvs hne ')')
  · rw [split]
    exact .tuple hspells hws (spellsTop_intercalate_comma hvs hne)
  · rw [split, ← distinct_eq_firsts]
    exact .set hspells hws (spellsItems_intercalate hvs hne '}')
  · rw [split, ← distinct_eq_firsts]
    exact .set hspells hws (spellsItems_intercalate_comma hvs hne '}')
  · intro _
    rw [split]
    exact .tuple hspells hws (spellsItems_intercalate hvs hne ')')
  · intro _
    rw [← List.append_nil (List.intercalate _ _), split]
    exact .tuple hspells hws (spellsTop_intercalate_end hvs hne)
  · rintro w ⟨⟩
    cases hvs
    exact absurd rfl hne

theorem holds_intercalate {vs : List Value} {texts : List (List Char)}
    (h : List.Forall₂ TakesWhole vs texts) (hne : texts ≠ []) :
    Holds vs (List.intercalate [','] texts) := by
  cases h with
  | nil => exact absurd rfl hne
  | @cons v text vs texts hv hvs =>
    cases texts with
    | nil =>
      cases hvs
      rw [List.intercalate_singleton]
      exact holds_single hv
    | cons second texts => exact holds_several hv hvs (List.cons_ne_nil second texts)

/-- The ways to write a row agree, whatever texts it holds that the reader of values takes whole. -/
theorem sequences_agree {vs : List Value} {texts : List String} (hne : texts ≠ [])
    (h : List.Forall₂ (fun v text => TakesWhole v text.toList) vs texts) :
    let row := String.intercalate "," texts
    parse ("[" ++ row ++ "]") = .ok (.list vs) ∧
    parse ("[" ++ row ++ ",]") = .ok (.list vs) ∧
    parse ("(" ++ row ++ ",)") = .ok (.list vs) ∧
    parse (row ++ ",") = .ok (.list vs) ∧
    (2 ≤ texts.length → parse ("(" ++ row ++ ")") = .ok (.list vs) ∧ parse row = .ok (.list vs)) ∧
    (∀ v, vs = [v] → parse ("(" ++ row ++ ")") = .ok v) ∧
    parse ("\x7b" ++ row ++ "\x7d") = .ok (.list (firsts vs)) ∧
    parse ("\x7b" ++ row ++ ",\x7d") = .ok (.list (firsts vs)) := by
  intro row
  have holds : Holds vs row.toList := by
    rw [String.toList_intercalate]
    exact holds_intercalate (List.forall₂_map_right_iff.mpr h) (by simpa using hne)
  have enclosed {v : Value} {cs : List Char} {source : String} (hspells : SpellsWhole v cs)
      (hsource : source.toList = cs) : parse source = .ok v := by
    rw [parse_eq_ok_iff, hsource]
    exact hspells
  have length : texts.length = vs.length := h.length_eq.symm
  rw [length]
  refine ⟨enclosed holds.brackets.whole ?_, enclosed holds.bracketsComma.whole ?_,
    enclosed holds.parensComma.whole ?_, enclosed holds.bareComma ?_, fun several =>
      ⟨enclosed (holds.parens several).whole ?_, enclosed (holds.bare several) rfl⟩,
    fun v hv => enclosed (holds.parensSingle v hv).whole ?_, enclosed holds.braces.whole ?_,
    enclosed holds.bracesComma.whole ?_⟩ <;>
  simp

/-- A number, a text between blanks and the number again. -/
theorem sequences_agree_duplicate :
    let texts := ["1", " 'a' ", "1"]
    let vs : List Value := [.int 1, .text "a", .int 1]
    texts ≠ [] ∧ List.Forall₂ (fun v text => TakesWhole v text.toList) vs texts ∧
      String.intercalate "," texts = "1, 'a' ,1" ∧
      parse "[1, 'a' ,1]" = .ok (.list vs) ∧ parse "1, 'a' ,1" = .ok (.list vs) ∧
      parse "\x7b1, 'a' ,1,\x7d" = .ok (.list [.int 1, .text "a"]) := by
  intro texts vs
  have one : TakesWhole (.int 1) "1".toList := ⟨[], rfl, blank_nil⟩
  have letter : TakesWhole (.text "a") " 'a' ".toList :=
    ⟨[' '], rfl, blank_nil.cons rfl⟩
  have hne : texts ≠ [] := by simp [texts]
  have taken : List.Forall₂ (fun v text => TakesWhole v text.toList) vs texts :=
    .cons one (.cons letter (.cons one .nil))
  obtain ⟨brackets, -, -, -, bare, -, -, braces⟩ := sequences_agree hne taken
  exact ⟨hne, taken, by decide, brackets, (bare (by decide)).2, braces⟩

end Literal

end PageScript

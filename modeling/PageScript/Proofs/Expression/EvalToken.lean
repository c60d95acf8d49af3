import PageScript.Expression.Resolver
import PageScript.Proofs.Literal.Nesting
import PageScript.Proofs.Run.Lockstep
import PageScript.Proofs.Token.Scanning

/-!
# Literals in tokens

A literal is read twice when it stands in a token: the scanner looks for the end of the token, and
the parser reads what is in front of it.  The two do not agree about strings, because the scanner
takes a quote behind a backslash for a closing one.

The token of a literal resolves to its value exactly when the scanner passes the literal, that is
when the literal is `Token.Closed`.  A literal without its own quotes behind backslashes is.
-/

namespace PageScript

open Literal (SpellsWhole Nest Place QuotesBare)
open Token (Stand Closed Ends)

/-! ## The two machines -/

/-- The open quote at a place. -/
def Literal.Place.quote? : Place → Option Char
  | .outside => none
  | .inside q => some q
  | .escaped q => some q

/-- What the scanner knows where a literal is followed without mistakes. -/
def Literal.Nest.stand (n : Nest) : Stand := ⟨n.place.quote?, n.due.count ')'⟩

/-- Outside strings only quotes and parentheses change where the scanner stands. -/
theorem Token.Stand.pass_other {c : Char} (hq : Literal.isQuote c = false) (hp : c ≠ '(')
    (hr : c ≠ ')') (depth : Nat) : Stand.pass ⟨none, depth⟩ c = ⟨none, depth⟩ := by
  have quote : ¬ (c = '\'' ∨ c = '"') := by simpa [Literal.isQuote] using hq
  simp [Stand.pass, quote, hp, hr]

/-- Outside strings the scanner counts the parentheses that are due. -/
theorem Literal.Nest.stand_mark {due : List Char} {c : Char} {m : Nest}
    (h : Nest.mark due c = some m) : (Nest.stand ⟨.outside, due⟩).pass c = m.stand := by
  unfold Nest.mark at h
  split at h
  · next hq =>
    cases h
    have quote : c = '\'' ∨ c = '"' := by simpa [Literal.isQuote] using hq
    exact if_pos quote
  · next hq =>
    have hq : Literal.isQuote c = false := Bool.eq_false_iff.mpr hq
    split at h
    · next hp =>
      cases h
      subst hp
      simp [Nest.stand, Place.quote?, Stand.pass]
    · next hp =>
      have other : c ≠ ')' → (Nest.stand ⟨.outside, due⟩).pass c = Nest.stand ⟨.outside, due⟩ :=
        fun hr => Stand.pass_other hq hp hr _
      split at h
      · next hl =>
        cases h
        subst hl
        exact other (by decide)
      · split at h
        · next hb =>
          cases h
          subst hb
          exact other (by decide)
        · split at h
          · cases due with
            | nil => cases h
            | cons d due =>
              dsimp only at h
              split at h
              · next hd =>
                cases h
                subst hd
                by_cases hr : c = ')'
                · subst hr
                  simp [Nest.stand, Place.quote?, Stand.pass]
                · rw [other hr]
                  simp [Nest.stand, hr]
              · cases h
          · next hc =>
            cases h
            exact other (by rintro rfl; exact hc rfl)

/-- One character keeps the scanner in step, unless it is a quote behind a backslash. -/
theorem Literal.Nest.stand_step {n m : Nest} {c : Char} (hc : n.place ≠ .escaped c)
    (h : n.step c = some m) : n.stand.pass c = m.stand := by
  obtain ⟨place, due⟩ := n
  cases place with
  | outside => exact stand_mark h
  | inside q =>
    by_cases hq : c = q
    · subst hq
      rw [Nest.step_close] at h
      cases h
      simp [Nest.stand, Place.quote?, Stand.pass]
    · by_cases hb : c = '\\'
      · subst hb
        rw [Nest.step_backslash hq] at h
        cases h
        simp [Nest.stand, Place.quote?, Stand.pass, hq]
      · rw [Nest.step_inside hq hb] at h
        cases h
        simp [Nest.stand, Place.quote?, Stand.pass, hq]
  | escaped q =>
    cases h
    have hq : c ≠ q := by
      rintro rfl
      exact hc rfl
    simp [Nest.stand, Place.quote?, Stand.pass, hq]

theorem Literal.Nest.stand_through : ∀ (cs : List Char) {n m : Nest},
    (∀ front q back due, cs = front ++ q :: back → n.through front ≠ some ⟨.escaped q, due⟩) →
    n.through cs = some m → n.stand.behind cs = m.stand
  | [], n, m, _, h => by
    cases h
    rfl
  | c :: cs, n, m, hbare, h => by
    rw [Nest.through_cons] at h
    cases hs : n.step c with
    | none => rw [hs] at h; cases h
    | some n' =>
      rw [hs, Option.bind_some] at h
      have place : n.place ≠ .escaped c := by
        intro hp
        refine hbare [] c cs n.due rfl ?_
        rw [← hp]
        rfl
      rw [Stand.behind_cons, stand_step place hs]
      refine stand_through cs (fun front q back due heq hf => ?_) h
      refine hbare (c :: front) q back due (by rw [heq]; rfl) ?_
      rw [Nest.through_cons, hs]
      exact hf

/-- The scanner passes a literal that holds no quote of its own behind a backslash. -/
theorem Literal.SpellsWhole.closed {v : Value} {cs : List Char} (h : SpellsWhole v cs)
    (hbare : QuotesBare cs) : Closed cs := by
  refine ⟨Nest.stand_through cs hbare (h.level []), fun front back heq hstart => ?_⟩
  have whole := h.level []
  rw [heq, Nest.through_append] at whole
  cases hf : Nest.start.through front with
  | none =>
    rw [Nest.start] at hf
    rw [hf] at whole
    cases whole
  | some n =>
    have bare : ∀ f q b due, front = f ++ q :: b → Nest.start.through f ≠ some ⟨.escaped q, due⟩ := by
      rintro f q b due rfl
      exact hbare f q (b ++ ')' :: ')' :: back) due (by rw [heq]; simp)
    rw [← Nest.start, hf, Option.bind_some, Nest.through_cons] at whole
    have stand := Nest.stand_through front bare hf
    have at_start : n.stand = .start := stand.symm.trans hstart
    obtain ⟨place, due⟩ := n
    rw [Nest.stand, Stand.start, Stand.mk.injEq] at at_start
    cases place with
    | inside q => cases at_start.1
    | escaped q => cases at_start.1
    | outside =>
      -- the closing mark is not due where no parenthesis is
      cases due with
      | nil => cases whole
      | cons d due =>
        by_cases hd : ')' = d
        · subst hd
          simp at at_start
        · have refused : Nest.step ⟨.outside, d :: due⟩ ')' = none := if_neg hd
          rw [refused] at whole
          cases whole

/-! ## The token of a literal -/

/-- The token that asks for the value of a source text. -/
def evalToken (source : String) : String := "(( eval|" ++ source ++ " ))"

/-- The tag has one more record, with this value, and nothing else has changed. -/
structure Namespace.Gains (before after : Namespace) (tag : String) (v : Value) : Prop where
  own : after.history tag = before.history tag ++ [v]
  others : ∀ other, other ≠ tag → after.history other = before.history other
  imports : after.imported = before.imported

/-- The token of the source text resolves to the value, which is recorded. -/
def Resolver.Evaluates (r : Resolver) (source : String) (v : Value) (scope : Scope) : Prop :=
  ∃ after, r.resolveScalar (.text (evalToken source)) scope = (.ok v, after) ∧
    scope.names.Gains after.names "eval" v

theorem Namespace.gains_record (ns : Namespace) (tag : String) (v : Value) :
    ns.Gains (ns.record tag v) tag v where
  own := ns.history_record_self tag v
  others _ h := Namespace.history_record_ne h ns v
  imports := rfl

theorem Namespace.Gains.ne {before after : Namespace} {tag : String} {v : Value}
    (h : before.Gains after tag v) : after ≠ before := by
  rintro rfl
  have := congrArg List.length h.own
  rw [List.length_append, List.length_singleton] at this
  omega

/-- What the body of a token holds behind the bar of the tag. -/
def evalBody (front : List Char) : List Char := "eval|".toList ++ Text.trimRight front

theorem trim_evalBody (front : List Char) : Text.trim (" eval|".toList ++ front) = evalBody front :=
  Text.trimRight_append_ink "eval".toList rfl front

theorem find_evalToken (source : String) {body : List Char} :
    Token.find (evalToken source).toList = some body ↔
      ∃ front, body = evalBody front ∧ Ends .start (source.toList ++ [' ', ')', ')']) front := by
  have text : (evalToken source).toList
      = "(( eval|".toList ++ (source.toList ++ [' ', ')', ')']) := by
    simp [evalToken, String.toList_append]
  have scanned : Token.find ("(( eval|".toList ++ (source.toList ++ [' ', ')', ')'])) =
      (Token.scan none 0 " eval|".toList.reverse (source.toList ++ [' ', ')', ')'])).map
        Text.trim := rfl
  rw [text, scanned, Option.map_eq_some_iff]
  constructor
  · rintro ⟨front, hscan, rfl⟩
    obtain ⟨front, rfl, hends⟩ := (Token.scan_eq_some_iff _ .start _).mp hscan
    exact ⟨front, trim_evalBody front, hends⟩
  · rintro ⟨front, rfl, hends⟩
    exact ⟨_, (Token.scan_eq_some_iff _ .start _).mpr ⟨front, rfl, hends⟩, trim_evalBody front⟩

theorem body?_evalToken (source : String) {body : String} :
    Token.body? (evalToken source) = some body ↔
      ∃ front, body = String.ofList (evalBody front) ∧
        Ends .start (source.toList ++ [' ', ')', ')']) front := by
  rw [Token.body?, Option.map_eq_some_iff]
  constructor
  · rintro ⟨body, hfind, rfl⟩
    obtain ⟨front, rfl, hends⟩ := (find_evalToken source).mp hfind
    exact ⟨front, rfl, hends⟩
  · rintro ⟨front, rfl, hends⟩
    exact ⟨_, (find_evalToken source).mpr ⟨front, rfl, hends⟩, rfl⟩

theorem parts_evalBody (front : List Char) :
    Resolver.parts (String.ofList (evalBody front))
      = ("eval", String.ofList (Text.trim (Text.trimRight front))) := by
  rw [Resolver.parts, String.toList_ofList]
  rfl

theorem Resolver.evaluate_eval (r : Resolver) (rest : String) (scope : Scope) :
    r.evaluate "eval" rest scope = (Literal.parse rest, scope) := by
  simp only [evaluate]
  cases h : Literal.parse rest with
  | ok v => rfl
  | error e => rfl

/-- Resolving the body reads the literal and records it. -/
theorem Resolver.resolve_evalBody (r : Resolver) (front : List Char) (scope : Scope) :
    r.resolve (String.ofList (evalBody front)) scope =
      match Literal.parse (String.ofList (Text.trim (Text.trimRight front))) with
      | .ok v => (.ok v, { scope with names := scope.names.record "eval" v })
      | .error e => (.error e, scope) := by
  have evaluated := r.evaluate_eval (String.ofList (Text.trim (Text.trimRight front))) scope
  rw [resolve, parts_evalBody]
  show (r.evaluate "eval" _ >>= _) scope = _
  cases h : Literal.parse (String.ofList (Text.trim (Text.trimRight front))) with
  | ok v =>
    rw [h] at evaluated
    rw [Lockstep.bind_ok evaluated]
    rfl
  | error e =>
    rw [h] at evaluated
    rw [Lockstep.bind_error evaluated]

/-- What the body is read as. -/
theorem parse_evalBody {front : List Char} {v : Value} :
    Literal.parse (String.ofList (Text.trim (Text.trimRight front))) = .ok v ↔
      SpellsWhole v front := by
  rw [Literal.parse_eq_ok_iff, String.toList_ofList, Literal.spellsWhole_trim_iff,
    Literal.spellsWhole_trimRight_iff]

/-- Where the token ends behind the literal, it resolves to the value. -/
theorem Resolver.evaluates_of_closed (r : Resolver) {source : String} {v : Value}
    (h : Literal.parse source = .ok v) (hclosed : Closed source.toList) (scope : Scope) :
    r.Evaluates source v scope := by
  have body : Token.body? (evalToken source)
      = some (String.ofList (evalBody (source.toList ++ [' ']))) :=
    (body?_evalToken source).mpr ⟨_, rfl, Token.closed_iff_ends.mp hclosed⟩
  have spells : SpellsWhole v (source.toList ++ [' ']) :=
    (Literal.parse_eq_ok_iff.mp h).append_blank fun c hc => by
      rw [List.mem_singleton.mp hc]
      rfl
  refine ⟨{ scope with names := scope.names.record "eval" v }, ?_,
    scope.names.gains_record "eval" v⟩
  rw [resolveScalar, body]
  show r.resolve _ scope = _
  rw [r.resolve_evalBody, parse_evalBody.mpr spells]

/-- A token that resolves to the value of the literal ends behind the literal. -/
theorem Resolver.Evaluates.closed {r : Resolver} {source : String} {v : Value} {scope : Scope}
    (h : Literal.parse source = .ok v) (hr : r.Evaluates source v scope) :
    Closed source.toList := by
  obtain ⟨after, hres, hgains⟩ := hr
  rw [resolveScalar] at hres
  cases hbody : Token.body? (evalToken source) with
  | none =>
    -- without a token nothing is recorded
    rw [hbody] at hres
    cases hres
    exact absurd rfl hgains.ne
  | some body =>
    obtain ⟨front, rfl, hends⟩ := (body?_evalToken source).mp hbody
    rw [hbody] at hres
    obtain ⟨back, hmark⟩ := hends.mark
    rcases Token.end_cases hmark with rfl | ⟨more, heq⟩
    · exact Token.closed_iff_ends.mpr hends
    · -- a token that ends inside the literal holds no literal
      have hparse : ∃ w, Literal.parse (String.ofList (Text.trim (Text.trimRight front))) = .ok w := by
        have hres : r.resolve (String.ofList (evalBody front)) scope = (.ok v, after) := hres
        rw [r.resolve_evalBody] at hres
        cases hp : Literal.parse (String.ofList (Text.trim (Text.trimRight front))) with
        | ok w => exact ⟨w, rfl⟩
        | error e => rw [hp] at hres; cases hres
      obtain ⟨w, hw⟩ := hparse
      have whole := Literal.parse_eq_ok_iff.mp h
      rw [heq] at whole
      exact absurd whole (parse_evalBody.mp hw).not_closed

/-- The token of a literal resolves to its value, and records it, exactly when the scanner passes
the literal; it does if no string of the literal holds its own quote behind a backslash. -/
theorem evaluates_iff_closed {source : String} {v : Value} (h : Literal.parse source = .ok v) :
    (∀ (r : Resolver) (scope : Scope), r.Evaluates source v scope ↔ Closed source.toList) ∧
      (QuotesBare source.toList → Closed source.toList) := by
  refine ⟨fun r scope => ⟨fun hr => hr.closed h, fun hc => r.evaluates_of_closed h hc scope⟩, ?_⟩
  exact (Literal.parse_eq_ok_iff.mp h).closed

/-- A raw string with a backslash and a closing mark inside is passed. -/
theorem evaluates_raw_mark :
    Literal.parse "r'\\))'" = .ok (.text "\\))") ∧
      ∀ (r : Resolver) (scope : Scope), r.Evaluates "r'\\))'" (.text "\\))") scope := by
  have h : Literal.parse "r'\\))'" = .ok (.text "\\))") := rfl
  have closed : Closed "r'\\))'".toList := by decide +kernel
  refine ⟨h, fun r scope => ?_⟩
  exact ((evaluates_iff_closed h).1 r scope).mpr closed

/-- An escaped quote hides the end of the token: the text stays, and nothing is recorded. -/
theorem escaped_quote_not_evaluated :
    Literal.parse "'it\\'s'" = .ok (.text "it's") ∧
      ∀ (r : Resolver) (scope : Scope), ¬ r.Evaluates "'it\\'s'" (.text "it's") scope := by
  refine ⟨rfl, fun r scope => ?_⟩
  rintro ⟨after, hres, hgains⟩
  have body : Token.body? (evalToken "'it\\'s'") = none := by decide +kernel
  rw [Resolver.resolveScalar, body] at hres
  have same : scope = after := congrArg Prod.snd hres
  exact hgains.ne (congrArg Scope.names same.symm)

end PageScript

import PageScript.Proofs.Literal.Whole

/-!
# Calls of the readers

The readers of values, items, tuples, braces and fields call each other, and the fuel bounds how deep
the calls go.  A `Call` is one of these readers with its arguments, and `Makes` says which calls it
makes with the fuel that it passes on.

* `Makes.suffix`: the text of a call that is made is an end of the text of the call that makes it.
* `Makes.need_lt`: it needs less fuel, so there is no endless chain of calls.
* `Call.answer_add`: a call with the fuel it needs answers the same with any more of it.  Its answer is
  that of readers without fuel, and the fuel is never what ends them.

A value that is read takes at least one character (`value_length`), which is what the need of the
calls behind it rests on.
-/

namespace PageScript

namespace Literal

open Text (trimLeft)

/-! ## What is left of a text -/

theorem trimLeft_suffix (cs : List Char) : trimLeft cs <:+ cs := List.dropWhile_suffix _

/-- What stands behind the first mark of a text. -/
theorem suffix_of_trimLeft {cs rest : List Char} {c : Char} (h : trimLeft cs = c :: rest) :
    rest <:+ cs :=
  (List.suffix_cons c rest).trans (h ▸ trimLeft_suffix cs)

theorem length_of_trimLeft {cs rest : List Char} {c : Char} (h : trimLeft cs = c :: rest) :
    rest.length < cs.length :=
  (h ▸ trimLeft_suffix cs : c :: rest <:+ cs).length_le

theorem value_suffix {fuel : Nat} {cs rest : List Char} {v : Value}
    (h : value fuel cs = .ok (v, rest)) : rest <:+ cs := by
  obtain ⟨used, rfl, -⟩ := (sound fuel).value h
  exact List.suffix_append used rest

/-- A value that is read takes at least one character. -/
theorem value_length {fuel : Nat} {cs rest : List Char} {v : Value}
    (h : value fuel cs = .ok (v, rest)) : rest.length < cs.length := by
  obtain ⟨used, rfl, hspells⟩ := (sound fuel).value h
  obtain ⟨c, tail, ht, -⟩ := hspells.head
  have := length_of_trimLeft ht
  rw [List.length_append]
  omega

theorem topItems_suffix : ∀ {fuel : Nat} {cs rest : List Char} {vs : List Value},
    topItems fuel cs = .ok (vs, rest) → rest <:+ cs
  | 0, _, _, _, h => by cases h
  | fuel + 1, cs, rest, vs, h => by
    rw [topItems] at h
    split at h
    · cases h
      exact List.nil_suffix
    · cases hv : value fuel (trimLeft cs) with
      | error f => rw [hv] at h; cases h
      | ok r =>
        obtain ⟨v, behind⟩ := r
        rw [hv] at h
        dsimp only at h
        have hbehind : behind <:+ cs := (value_suffix hv).trans (trimLeft_suffix cs)
        split at h
        · next more ht =>
          cases hm : topItems fuel more with
          | error f => rw [hm] at h; cases h
          | ok r =>
            rw [hm] at h
            cases h
            exact (topItems_suffix hm).trans ((suffix_of_trimLeft ht).trans hbehind)
        · cases h
          exact (trimLeft_suffix behind).trans hbehind

theorem string_length {raw : Bool} {quote : Char} {mode : Mode} {done cs s rest : List Char}
    (h : string raw quote mode done cs = .ok (s, rest)) : rest.length < cs.length := by
  obtain ⟨body, rfl, -⟩ := string_ok cs mode done h
  rw [List.length_append, List.length_cons]
  omega

/-- There are no more adjacent strings than characters. -/
theorem strings_add (more : Nat) : ∀ {fuel : Nat} (quote : Char) {cs : List Char},
    cs.length ≤ fuel → strings (fuel + more) quote cs = strings fuel quote cs
  | 0, quote, cs, h => by
    obtain rfl : cs = [] := List.length_eq_zero_iff.mp (Nat.le_zero.mp h)
    cases more <;> rfl
  | fuel + 1, quote, cs, h => by
    rw [Nat.add_right_comm, strings, strings]
    cases hs : string false quote .plain [] cs with
    | error f => rfl
    | ok r =>
      obtain ⟨s, rest⟩ := r
      have hrest := string_length hs
      dsimp only
      cases ht : trimLeft rest with
      | nil => rfl
      | cons q tail =>
        have htail := length_of_trimLeft ht
        dsimp only
        rw [strings_add more q (by omega)]

/-! ## Calls -/

/-- One of the readers that call each other, with its arguments but for the fuel. -/
inductive Call where
  | value (cs : List Char)
  | items (close : Char) (cs : List Char)
  | itemsFrom (close : Char) (cs : List Char)
  | tuple (cs : List Char)
  | braces (cs : List Char)
  | fields (key : Value) (done : List (String × Value)) (cs : List Char)
  | topItems (cs : List Char)

namespace Call

/-- The text that is still unread at the call. -/
def text : Call → List Char
  | .value cs => cs
  | .items _ cs => cs
  | .itemsFrom _ cs => cs
  | .tuple cs => cs
  | .braces cs => cs
  | .fields _ _ cs => cs
  | .topItems cs => cs

/-- What the reader gives for what it took. -/
def Result : Call → Type
  | .value _ => Value
  | .items _ _ => List Value
  | .itemsFrom _ _ => List Value
  | .tuple _ => Value
  | .braces _ => Value
  | .fields _ _ _ => List (String × Value)
  | .topItems _ => List Value

/-- What the reader answers. -/
def answer (fuel : Nat) : (c : Call) → Read c.Result
  | .value cs => Literal.value fuel cs
  | .items close cs => Literal.items fuel close cs
  | .itemsFrom close cs => Literal.itemsFrom fuel close cs
  | .tuple cs => Literal.tuple fuel cs
  | .braces cs => Literal.braces fuel cs
  | .fields key done cs => Literal.fields fuel key done cs
  | .topItems cs => Literal.topItems fuel cs

/-- Fuel that is enough for the call.  A value needs the least, as the others read one from the same
text; items need one more, as they become items that have begun. -/
def need : Call → Nat
  | .value cs => 3 * cs.length + 1
  | .items _ cs => 3 * cs.length + 3
  | .itemsFrom _ cs => 3 * cs.length + 2
  | .tuple cs => 3 * cs.length + 2
  | .braces cs => 3 * cs.length + 2
  | .fields _ _ cs => 3 * cs.length + 2
  | .topItems cs => 3 * cs.length + 2

theorem need_pos (c : Call) : 0 < c.need := by
  cases c <;> exact Nat.succ_pos _

theorem need_le_fuelFor (c : Call) : c.need ≤ fuelFor c.text := by
  cases c <;> simp only [need, fuelFor, text] <;> omega

/-- What a reader leaves unread is an end of its text. -/
theorem suffix_of_answer {fuel : Nat} {c : Call} {r : c.Result} {rest : List Char}
    (h : c.answer fuel = .ok (r, rest)) : rest <:+ c.text := by
  have of_used {cs : List Char} {Taken : List Char → Prop}
      (taken : ∃ used, cs = used ++ rest ∧ Taken used) : rest <:+ cs := by
    obtain ⟨used, rfl, -⟩ := taken
    exact List.suffix_append used rest
  cases c with
  | value cs => exact value_suffix h
  | items close cs => exact of_used ((sound fuel).items h)
  | itemsFrom close cs => exact of_used ((sound fuel).itemsFrom h)
  | tuple cs => exact of_used ((sound fuel).tuple h)
  | braces cs => exact of_used ((sound fuel).braces h)
  | fields key done cs => exact of_used ((sound fuel).fields h)
  | topItems cs => exact topItems_suffix h

end Call

/-- With one more than this fuel, the first call makes the second one, which has the fuel. -/
inductive Makes (fuel : Nat) : Call → Call → Prop where
  | list {cs rest : List Char} (h : trimLeft cs = '[' :: rest) :
      Makes fuel (.value cs) (.items ']' rest)
  | tuple {cs rest : List Char} (h : trimLeft cs = '(' :: rest) :
      Makes fuel (.value cs) (.tuple rest)
  | braces {cs rest : List Char} (h : trimLeft cs = '{' :: rest) :
      Makes fuel (.value cs) (.braces rest)
  | begin {close : Char} {cs : List Char} (h : ∀ rest, trimLeft cs ≠ close :: rest) :
      Makes fuel (.items close cs) (.itemsFrom close (trimLeft cs))
  | item {close : Char} {cs : List Char} : Makes fuel (.itemsFrom close cs) (.value cs)
  | items {close : Char} {cs behind rest : List Char} {v : Value}
      (hv : value fuel cs = .ok (v, behind)) (h : trimLeft behind = ',' :: rest) :
      Makes fuel (.itemsFrom close cs) (.items close rest)
  | inner {cs : List Char} (h : ∀ rest, trimLeft cs ≠ ')' :: rest) :
      Makes fuel (.tuple cs) (.value (trimLeft cs))
  | tupleItems {cs behind rest : List Char} {v : Value}
      (hv : value fuel (trimLeft cs) = .ok (v, behind)) (h : trimLeft behind = ',' :: rest) :
      Makes fuel (.tuple cs) (.items ')' rest)
  | first {cs : List Char} (h : ∀ rest, trimLeft cs ≠ '}' :: rest) :
      Makes fuel (.braces cs) (.value (trimLeft cs))
  | dict {cs behind rest : List Char} {key : Value}
      (hv : value fuel (trimLeft cs) = .ok (key, behind)) (h : trimLeft behind = ':' :: rest) :
      Makes fuel (.braces cs) (.fields key [] rest)
  | setItems {cs behind rest : List Char} {v : Value}
      (hv : value fuel (trimLeft cs) = .ok (v, behind)) (h : trimLeft behind = ',' :: rest) :
      Makes fuel (.braces cs) (.items '}' rest)
  | field {key : Value} {done : List (String × Value)} {cs : List Char} :
      Makes fuel (.fields key done cs) (.value cs)
  | key {key v : Value} {k : String} {done : List (String × Value)} {cs behind rest : List Char}
      (hk : keyText? key = some k) (hv : value fuel cs = .ok (v, behind))
      (h : trimLeft behind = ',' :: rest) (hrest : ∀ more, trimLeft rest ≠ '}' :: more) :
      Makes fuel (.fields key done cs) (.value (trimLeft rest))
  | fields {key v next : Value} {k : String} {done : List (String × Value)}
      {cs behind rest beyond more : List Char} (hk : keyText? key = some k)
      (hv : value fuel cs = .ok (v, behind)) (h : trimLeft behind = ',' :: rest)
      (hn : value fuel (trimLeft rest) = .ok (next, beyond)) (hm : trimLeft beyond = ':' :: more) :
      Makes fuel (.fields key done cs) (.fields next (Value.insertField k v done) more)
  | top {cs : List Char} (h : trimLeft cs ≠ []) : Makes fuel (.topItems cs) (.value (trimLeft cs))
  | row {cs behind rest : List Char} {v : Value}
      (hv : value fuel (trimLeft cs) = .ok (v, behind)) (h : trimLeft behind = ',' :: rest) :
      Makes fuel (.topItems cs) (.topItems rest)

/-- What stands behind the mark behind a value. -/
theorem suffix_of_value {fuel : Nat} {cs behind rest : List Char} {v : Value} {c : Char}
    (hv : value fuel cs = .ok (v, behind)) (h : trimLeft behind = c :: rest) : rest <:+ cs :=
  (suffix_of_trimLeft h).trans (value_suffix hv)

/-- The value and the mark behind it are two characters. -/
theorem length_of_value {fuel : Nat} {cs behind rest : List Char} {v : Value} {c : Char}
    (hv : value fuel cs = .ok (v, behind)) (h : trimLeft behind = c :: rest) :
    rest.length + 2 ≤ cs.length := by
  have := value_length hv
  have := length_of_trimLeft h
  omega

theorem Makes.suffix {fuel : Nat} {c d : Call} (h : Makes fuel c d) : d.text <:+ c.text := by
  cases h with
  | list h | tuple h | braces h => exact suffix_of_trimLeft h
  | begin | inner | first | top => exact trimLeft_suffix _
  | item | field => exact List.suffix_rfl
  | items hv h => exact suffix_of_value hv h
  | tupleItems hv h | dict hv h | setItems hv h | row hv h =>
    exact (suffix_of_value hv h).trans (trimLeft_suffix _)
  | key _ hv h => exact (trimLeft_suffix _).trans (suffix_of_value hv h)
  | fields _ hv h hn hm =>
    exact (suffix_of_value hn hm).trans ((trimLeft_suffix _).trans (suffix_of_value hv h))

theorem Makes.need_lt {fuel : Nat} {c d : Call} (h : Makes fuel c d) : d.need < c.need := by
  have trimmed (cs : List Char) : (trimLeft cs).length ≤ cs.length := (trimLeft_suffix cs).length_le
  cases h with
  | list h | tuple h | braces h =>
    have := length_of_trimLeft h
    simp only [Call.need]
    omega
  | @begin _ cs | @inner cs | @first cs | @top cs =>
    have := trimmed cs
    simp only [Call.need]
    omega
  | item | field => simp only [Call.need]; omega
  | items hv h =>
    have := length_of_value hv h
    simp only [Call.need]
    omega
  | @tupleItems cs _ _ _ hv h | @dict cs _ _ _ hv h | @setItems cs _ _ _ hv h | @row cs _ _ _ hv h =>
    have := length_of_value hv h
    have := trimmed cs
    simp only [Call.need]
    omega
  | @key _ _ _ _ _ _ rest _ hv h =>
    have := length_of_value hv h
    have := trimmed rest
    simp only [Call.need]
    omega
  | @fields _ _ _ _ _ _ _ rest _ _ _ hv h hn hm =>
    have := length_of_value hv h
    have := trimmed rest
    have := length_of_value hn hm
    simp only [Call.need]
    omega

/-! ## Answers with more fuel -/

theorem eq_of_opens {c : Char} (h : opens c = true) : c = '[' ∨ c = '(' ∨ c = '{' := by
  simpa [opens, or_assoc] using h

section

variable {fuel more : Nat}

theorem value_congr {cs : List Char}
    (h : ∀ d, Makes fuel (.value cs) d → d.answer fuel = d.answer more) :
    value (fuel + 1) cs = value (more + 1) cs := by
  cases ht : trimLeft cs with
  | nil => rw [value, value, ht]
  | cons c rest =>
    rw [value_of_trimLeft ht, value_of_trimLeft ht]
    cases ho : opens c with
    | false =>
      have hb := Text.isBlank_of_trimLeft ht
      rw [value_lexeme hb ho, value_lexeme hb ho]
    | true =>
      rcases eq_of_opens ho with rfl | rfl | rfl
      · have hi : items fuel ']' rest = items more ']' rest := h _ (.list ht)
        rw [value_list, value_list, hi]
      · exact h _ (.tuple ht)
      · exact h _ (.braces ht)

theorem items_congr {close : Char} {cs : List Char}
    (h : ∀ d, Makes fuel (.items close cs) d → d.answer fuel = d.answer more) :
    items (fuel + 1) close cs = items (more + 1) close cs := by
  rw [items, items]
  cases ht : trimLeft cs with
  | nil =>
    have := h _ (.begin (by simp [ht]))
    rw [ht] at this
    exact this
  | cons c rest =>
    dsimp only
    by_cases hc : c = close
    · rw [if_pos hc, if_pos hc]
    · have := h _ (.begin (by simp [ht, hc]))
      rw [ht] at this
      rw [if_neg hc, if_neg hc]
      exact this

theorem itemsFrom_congr {close : Char} {cs : List Char}
    (h : ∀ d, Makes fuel (.itemsFrom close cs) d → d.answer fuel = d.answer more) :
    itemsFrom (fuel + 1) close cs = itemsFrom (more + 1) close cs := by
  have hvalue : value fuel cs = value more cs := h _ .item
  rw [itemsFrom, itemsFrom, ← hvalue]
  cases hv : value fuel cs with
  | error f => rfl
  | ok r =>
    obtain ⟨v, behind⟩ := r
    dsimp only
    cases ht : trimLeft behind with
    | nil => rfl
    | cons c rest =>
      by_cases hcomma : c = ','
      · have hi : items fuel close rest = items more close rest := h _ (.items hv (hcomma ▸ ht))
        simp only [hi]
      · simp only [if_neg hcomma]

theorem tuple_congr {cs : List Char}
    (h : ∀ d, Makes fuel (.tuple cs) d → d.answer fuel = d.answer more) :
    tuple (fuel + 1) cs = tuple (more + 1) cs := by
  rw [tuple, tuple]
  split
  · rfl
  · next hne =>
    have hvalue : value fuel (trimLeft cs) = value more (trimLeft cs) := h _ (.inner hne)
    rw [← hvalue]
    cases hv : value fuel (trimLeft cs) with
    | error f => rfl
    | ok r =>
      obtain ⟨v, behind⟩ := r
      dsimp only
      cases ht : trimLeft behind with
      | nil => rfl
      | cons c rest =>
        by_cases hcomma : c = ','
        · have hi : items fuel ')' rest = items more ')' rest := h _ (.tupleItems hv (hcomma ▸ ht))
          simp only [hi]
        · simp only [if_neg hcomma]

theorem braces_congr {cs : List Char}
    (h : ∀ d, Makes fuel (.braces cs) d → d.answer fuel = d.answer more) :
    braces (fuel + 1) cs = braces (more + 1) cs := by
  rw [braces, braces]
  split
  · rfl
  · next hne =>
    have hvalue : value fuel (trimLeft cs) = value more (trimLeft cs) := h _ (.first hne)
    rw [← hvalue]
    cases hv : value fuel (trimLeft cs) with
    | error f => rfl
    | ok r =>
      obtain ⟨v, behind⟩ := r
      dsimp only
      cases ht : trimLeft behind with
      | nil => rfl
      | cons c rest =>
        by_cases hcolon : c = ':'
        · have hf : fields fuel v [] rest = fields more v [] rest := h _ (.dict hv (hcolon ▸ ht))
          simp only [if_pos hcolon, hf]
        · by_cases hcomma : c = ','
          · have hi : items fuel '}' rest = items more '}' rest := h _ (.setItems hv (hcomma ▸ ht))
            simp only [if_neg hcolon, hi]
          · simp only [if_neg hcolon, if_neg hcomma]

theorem fields_congr {key : Value} {done : List (String × Value)} {cs : List Char}
    (h : ∀ d, Makes fuel (.fields key done cs) d → d.answer fuel = d.answer more) :
    fields (fuel + 1) key done cs = fields (more + 1) key done cs := by
  have hvalue : value fuel cs = value more cs := h _ .field
  rw [fields, fields, ← hvalue]
  cases hv : value fuel cs with
  | error f => rfl
  | ok r =>
    obtain ⟨v, behind⟩ := r
    dsimp only
    cases hk : keyText? key with
    | none => rfl
    | some k =>
      dsimp only
      cases ht : trimLeft behind with
      | nil => rfl
      | cons c rest =>
        by_cases hcomma : c = ','
        · subst hcomma
          simp only [Char.reduceEq, reduceIte]
          split
          · rfl
          · next hne =>
            have hnext : value fuel (trimLeft rest) = value more (trimLeft rest) :=
              h _ (.key hk hv ht hne)
            rw [← hnext]
            cases hn : value fuel (trimLeft rest) with
            | error f => rfl
            | ok r =>
              obtain ⟨next, beyond⟩ := r
              dsimp only
              split
              · next tail hm => exact h _ (.fields hk hv ht hn hm)
              · rfl
        · simp only [if_neg hcomma]

theorem topItems_congr {cs : List Char}
    (h : ∀ d, Makes fuel (.topItems cs) d → d.answer fuel = d.answer more) :
    topItems (fuel + 1) cs = topItems (more + 1) cs := by
  rw [topItems, topItems]
  split
  · rfl
  · next hne =>
    have hvalue : value fuel (trimLeft cs) = value more (trimLeft cs) := h _ (.top hne)
    rw [← hvalue]
    cases hv : value fuel (trimLeft cs) with
    | error f => rfl
    | ok r =>
      obtain ⟨v, behind⟩ := r
      dsimp only
      split
      · next rest ht =>
        have hr : topItems fuel rest = topItems more rest := h _ (.row hv ht)
        simp only [hr]
      · rfl

/-- What a call answers depends on the fuel only through the calls that it makes. -/
theorem Call.answer_congr (c : Call) (h : ∀ d, Makes fuel c d → d.answer fuel = d.answer more) :
    c.answer (fuel + 1) = c.answer (more + 1) := by
  cases c with
  | value cs => exact value_congr h
  | items close cs => exact items_congr h
  | itemsFrom close cs => exact itemsFrom_congr h
  | tuple cs => exact tuple_congr h
  | braces cs => exact braces_congr h
  | fields key done cs => exact fields_congr h
  | topItems cs => exact topItems_congr h

end

theorem Call.answer_succ {fuel : Nat} {c : Call} (h : c.need ≤ fuel) :
    c.answer (fuel + 1) = c.answer fuel := by
  induction fuel generalizing c with
  | zero => exact absurd h (Nat.not_le.mpr c.need_pos)
  | succ fuel ih =>
    refine (c.answer_congr fun d made => ?_).symm
    -- the fuel and the need of the call that is made are both smaller by one at least
    have := made.need_lt
    exact (ih (by omega)).symm

/-- A call with the fuel it needs answers the same with any more of it. -/
theorem Call.answer_add {fuel : Nat} {c : Call} (h : c.need ≤ fuel) (more : Nat) :
    c.answer (fuel + more) = c.answer fuel := by
  induction more with
  | zero => rfl
  | succ more ih =>
    rw [← ih]
    exact answer_succ (Nat.le_trans h (Nat.le_add_right fuel more))

end Literal

end PageScript

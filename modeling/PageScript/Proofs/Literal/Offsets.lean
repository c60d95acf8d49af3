import PageScript.Proofs.Literal.Calls

/-!
# Places of faults

A fault keeps how much of its text was unread.  `Fault.Within` says that this place lies in the text,
so the offset of the message is a place of the source and is what was read, not a difference that
stops at zero.  A reader adds faults of its own only at places of its text; all others come from the
calls that it makes (`Call.within_succ`), whose texts are ends of that text.

`Reached` has the calls that are made while a source is read.  Each of them keeps its text inside the
source and has the fuel that it needs (`Reached.text_and_need`), and with that everything that
`Call.Stays` asks for.  `parse_stays_within` states all of this for a whole source.
-/

namespace PageScript

namespace Literal

open Text (trimLeft)

/-- The place of the fault lies in the text, whose end is the end of the source.  The other faults have
no place and name a value that is no key. -/
def Fault.Within (cs : List Char) : Fault → Prop
  | .problem _ left => left ≤ cs.length
  | .unhashableKey key => keyText? key = none

theorem Fault.Within.mono {f : Fault} {front cs : List Char} (h : f.Within front)
    (hend : front <:+ cs) : f.Within cs := by
  cases f with
  | problem what left => exact Nat.le_trans h hend.length_le
  | unhashableKey key => exact h

theorem within_end (what : Problem) (cs : List Char) : (Fault.problem what 0).Within cs :=
  Nat.zero_le _

theorem within_suffix (what : Problem) {rest cs : List Char} (h : rest <:+ cs) :
    (Fault.problem what rest.length).Within cs := h.length_le

/-! ## Words -/

section

variable {f : Fault}

theorem string_within {raw : Bool} {quote : Char} : ∀ (cs : List Char) (mode : Mode)
    (done : List Char), string raw quote mode done cs = .error f → f.Within cs
  | [], mode, done, h => by
    cases mode <;> (cases h; exact within_end _ [])
  | c :: cs, mode, done, h => by
    have more {next : Mode} {after : List Char}
        (h : string raw quote next after cs = .error f) : f.Within (c :: cs) :=
      (string_within cs next after h).mono (List.suffix_cons c cs)
    cases mode with
    | plain =>
      rw [string] at h
      split at h
      · cases h
      · split at h <;> exact more h
    | escape =>
      obtain ⟨next, after, -, hstep⟩ := string_escape raw quote c done
      rw [hstep] at h
      exact more h
    | hex missing code =>
      rw [string] at h
      split at h
      · cases h
        exact within_suffix _ (List.suffix_cons c cs)
      · dsimp only at h
        split at h
        · exact more h
        · split at h
          · exact more h
          · cases h
            exact within_suffix _ (List.suffix_cons c cs)

theorem strings_within : ∀ (fuel : Nat) (quote : Char) (cs : List Char),
    strings fuel quote cs = .error f → f.Within cs
  | 0, quote, cs, h => string_within cs .plain [] h
  | fuel + 1, quote, cs, h => by
    rw [strings] at h
    cases hs : string false quote .plain [] cs with
    | error g =>
      rw [hs] at h
      cases h
      exact string_within cs .plain [] hs
    | ok r =>
      obtain ⟨s, rest⟩ := r
      obtain ⟨body, rfl, -⟩ := string_ok cs .plain [] hs
      rw [hs] at h
      dsimp only at h
      cases ht : trimLeft rest with
      | nil => rw [ht] at h; cases h
      | cons q more =>
        rw [ht] at h
        dsimp only at h
        split at h
        · cases hm : strings fuel q more with
          | ok r => rw [hm] at h; cases h
          | error g =>
            rw [hm] at h
            cases h
            have hmore := (suffix_of_trimLeft ht).trans (List.suffix_cons quote rest)
            exact (strings_within fuel q more hm).mono (hmore.trans (List.suffix_append body _))
        · cases h

theorem hexNumber_within {negative : Bool} {cs : List Char} (h : hexNumber negative cs = .error f) :
    f.Within cs := by
  have hrest : cs.dropWhile isHexPart <:+ cs := List.dropWhile_suffix _
  rw [hexNumber] at h
  split at h
  · split at h
    · cases h
    · cases h
      exact within_suffix _ hrest
  · cases h
    exact within_suffix _ hrest

theorem decimalNumber_within {negative : Bool} {cs : List Char}
    (h : decimalNumber negative cs = .error f) : f.Within cs := by
  obtain ⟨front, rest, real, hs⟩ : ∃ f t b, spanNumber false false cs = (f, t, b) := ⟨_, _, _, rfl⟩
  obtain ⟨rfl, -⟩ := spanNumber_eq cs false false hs
  have hrest : rest <:+ front ++ rest := List.suffix_append front rest
  simp only [decimalNumber, hs] at h
  split at h
  · cases h
    exact within_suffix _ hrest
  · split at h
    · cases h
    · split at h
      · cases h
        exact within_suffix _ hrest
      · split at h
        · cases h
        · cases h
          exact within_suffix _ hrest

theorem number_within {negative : Bool} {cs : List Char} (h : number negative cs = .error f) :
    f.Within cs := by
  by_cases hx : HexMarked cs
  · obtain ⟨x, rest, hx, rfl⟩ := hx
    rw [number_hex hx] at h
    exact (hexNumber_within h).mono ((List.suffix_cons x rest).trans (List.suffix_cons '0' _))
  · rw [number_decimal hx] at h
    exact decimalNumber_within h

/-- A word that is no constant is a fault where the word begins. -/
theorem constant_within {word cs rest : List Char}
    (h : (if word = "True".toList then .ok (.bool true, rest)
      else if word = "False".toList then .ok (.bool false, rest)
      else if word = "None".toList then .ok (.null, rest)
      else .error (.problem (.notALiteral (String.ofList word)) cs.length) : Read Value)
        = .error f) : f.Within cs := by
  split at h
  · cases h
  · split at h
    · cases h
    · split at h
      · cases h
      · cases h
        exact within_suffix _ List.suffix_rfl

theorem name_within {cs : List Char} (h : name cs = .error f) : f.Within cs := by
  simp only [name] at h
  cases hd : cs.dropWhile isNameChar with
  | nil =>
    rw [hd] at h
    exact constant_within h
  | cons q body =>
    have hbody : q :: body <:+ cs := hd ▸ List.dropWhile_suffix _
    rw [hd] at h
    dsimp only at h
    split at h
    · split at h
      · next hs =>
        cases h
        exact (string_within body .plain [] hs).mono ((List.suffix_cons q body).trans hbody)
      · cases h
    · exact constant_within h

/-- The readers of literals that hold no others. -/
theorem lexemeFrom_within {c : Char} {cs : List Char} (h : lexemeFrom c cs = .error f) :
    f.Within (c :: cs) := by
  have hcs : cs <:+ c :: cs := List.suffix_cons c cs
  unfold lexemeFrom at h
  split at h
  · cases hs : strings cs.length c cs with
    | ok r => rw [hs] at h; cases h
    | error g =>
      rw [hs] at h
      cases h
      exact (strings_within _ c cs hs).mono hcs
  · split at h
    · exact number_within h
    · split at h
      · cases ht : trimLeft cs with
        | nil =>
          rw [ht] at h
          cases h
          exact within_end _ _
        | cons d rest =>
          have hrest : d :: rest <:+ c :: cs := (ht ▸ trimLeft_suffix cs).trans hcs
          rw [ht] at h
          dsimp only at h
          split at h
          · exact (number_within h).mono hrest
          · cases h
            exact within_suffix _ hrest
      · split at h
        · exact name_within h
        · cases h
          exact within_suffix _ List.suffix_rfl

end

/-! ## Calls -/

section

variable {fuel : Nat} {f : Fault}

/-- The place behind a value and the blanks that follow it. -/
theorem within_behind (what : Problem) {cs behind rest : List Char} {v : Value}
    (hv : value fuel cs = .ok (v, behind)) (h : trimLeft behind = rest) :
    (Fault.problem what rest.length).Within cs :=
  within_suffix what ((h ▸ trimLeft_suffix behind).trans (value_suffix hv))

theorem value_within {cs : List Char}
    (ih : ∀ d, Makes fuel (.value cs) d → d.answer fuel = .error f → f.Within cs)
    (h : value (fuel + 1) cs = .error f) : f.Within cs := by
  cases ht : trimLeft cs with
  | nil =>
    rw [value, ht] at h
    cases h
    exact within_end _ cs
  | cons c rest =>
    rw [value_of_trimLeft ht] at h
    cases ho : opens c with
    | false =>
      rw [value_lexeme (Text.isBlank_of_trimLeft ht) ho] at h
      exact (lexemeFrom_within h).mono (ht ▸ trimLeft_suffix cs)
    | true =>
      rcases eq_of_opens ho with rfl | rfl | rfl
      · rw [value_list] at h
        split at h
        · next hi =>
          cases h
          exact ih _ (.list ht) hi
        · cases h
      · exact ih _ (.tuple ht) h
      · exact ih _ (.braces ht) h

theorem items_within {close : Char} {cs : List Char}
    (ih : ∀ d, Makes fuel (.items close cs) d → d.answer fuel = .error f → f.Within cs)
    (h : items (fuel + 1) close cs = .error f) : f.Within cs := by
  rw [items] at h
  cases ht : trimLeft cs with
  | nil =>
    have := ih _ (.begin (by simp [ht]))
    rw [ht] at h this
    exact this h
  | cons c rest =>
    rw [ht] at h
    dsimp only at h
    split at h
    · cases h
    · next hc =>
      have := ih _ (.begin (by simp [ht, hc]))
      rw [ht] at this
      exact this h

theorem itemsFrom_within {close : Char} {cs : List Char}
    (ih : ∀ d, Makes fuel (.itemsFrom close cs) d → d.answer fuel = .error f → f.Within cs)
    (h : itemsFrom (fuel + 1) close cs = .error f) : f.Within cs := by
  rw [itemsFrom] at h
  split at h
  · next hv =>
    cases h
    exact ih _ .item hv
  · next v behind hv =>
    split at h
    · next c rest ht =>
      split at h
      · cases h
      · split at h
        · next hcomma =>
          split at h
          · next hi =>
            cases h
            exact ih _ (.items hv (hcomma ▸ ht)) hi
          · cases h
        · cases h
          exact within_behind _ hv ht
    · cases h
      exact within_end _ cs

theorem tuple_within {cs : List Char}
    (ih : ∀ d, Makes fuel (.tuple cs) d → d.answer fuel = .error f → f.Within cs)
    (h : tuple (fuel + 1) cs = .error f) : f.Within cs := by
  rw [tuple] at h
  split at h
  · cases h
  · next hne =>
    split at h
    · next hv =>
      cases h
      exact ih _ (.inner hne) hv
    · next v behind hv =>
      split at h
      · next c rest ht =>
        split at h
        · cases h
        · split at h
          · next hcomma =>
            split at h
            · next hi =>
              cases h
              exact ih _ (.tupleItems hv (hcomma ▸ ht)) hi
            · cases h
          · cases h
            exact (within_behind _ hv ht).mono (trimLeft_suffix cs)
      · cases h
        exact within_end _ cs

theorem braces_within {cs : List Char}
    (ih : ∀ d, Makes fuel (.braces cs) d → d.answer fuel = .error f → f.Within cs)
    (h : braces (fuel + 1) cs = .error f) : f.Within cs := by
  rw [braces] at h
  split at h
  · cases h
  · next hne =>
    split at h
    · next hv =>
      cases h
      exact ih _ (.first hne) hv
    · next v behind hv =>
      split at h
      · next c rest ht =>
        split at h
        · next hcolon =>
          split at h
          · next hf =>
            cases h
            exact ih _ (.dict hv (hcolon ▸ ht)) hf
          · cases h
        · split at h
          · cases h
          · split at h
            · next hcomma =>
              split at h
              · next hi =>
                cases h
                exact ih _ (.setItems hv (hcomma ▸ ht)) hi
              · cases h
            · cases h
              exact (within_behind _ hv ht).mono (trimLeft_suffix cs)
      · cases h
        exact within_end _ cs

theorem fields_within {key : Value} {done : List (String × Value)} {cs : List Char}
    (ih : ∀ d, Makes fuel (.fields key done cs) d → d.answer fuel = .error f → f.Within cs)
    (h : fields (fuel + 1) key done cs = .error f) : f.Within cs := by
  rw [fields] at h
  split at h
  · next hv =>
    cases h
    exact ih _ .field hv
  · next v behind hv =>
    split at h
    · next hk =>
      cases h
      exact hk
    · next k hk =>
      dsimp only at h
      split at h
      · next c rest ht =>
        split at h
        · cases h
        · split at h
          · next hcomma =>
            subst hcomma
            split at h
            · cases h
            · next hne =>
              split at h
              · next hn =>
                cases h
                exact ih _ (.key hk hv ht hne) hn
              · next next beyond hn =>
                split at h
                · next tail hm => exact ih _ (.fields hk hv ht hn hm) h
                · -- the colon is missed behind the second value that was read, the next key
                  cases h
                  exact (within_behind _ hn rfl).mono
                    ((trimLeft_suffix rest).trans (suffix_of_value hv ht))
          · cases h
            exact within_behind _ hv ht
      · cases h
        exact within_end _ cs

theorem topItems_within {cs : List Char}
    (ih : ∀ d, Makes fuel (.topItems cs) d → d.answer fuel = .error f → f.Within cs)
    (h : topItems (fuel + 1) cs = .error f) : f.Within cs := by
  rw [topItems] at h
  split at h
  · cases h
  · next hne =>
    split at h
    · next hv =>
      cases h
      exact ih _ (.top hne) hv
    · next v behind hv =>
      split at h
      · next rest ht =>
        split at h
        · next hr =>
          cases h
          exact ih _ (.row hv ht) hr
        · cases h
      · cases h

/-- The faults of a call lie in its text if those of the calls that it makes do: a fault of its own is
noticed where it stands, or behind a value that it has read. -/
theorem Call.within_succ (c : Call)
    (ih : ∀ d, Makes fuel c d → d.answer fuel = .error f → f.Within c.text)
    (h : c.answer (fuel + 1) = .error f) : f.Within c.text := by
  cases c with
  | value cs => exact value_within ih h
  | items close cs => exact items_within ih h
  | itemsFrom close cs => exact itemsFrom_within ih h
  | tuple cs => exact tuple_within ih h
  | braces cs => exact braces_within ih h
  | fields key done cs => exact fields_within ih h
  | topItems cs => exact topItems_within ih h

/-- Without fuel a call is a fault where it stands. -/
theorem Call.within_zero (c : Call) (h : c.answer 0 = .error f) : f.Within c.text := by
  cases c <;> (cases h; exact within_suffix _ List.suffix_rfl)

end

theorem Call.within {fuel : Nat} {c : Call} {f : Fault} (h : c.answer fuel = .error f) :
    f.Within c.text := by
  induction fuel generalizing c with
  | zero => exact c.within_zero h
  | succ fuel ih => exact c.within_succ (fun d made hd => (ih hd).mono made.suffix) h

/-! ## Whole texts -/

theorem read_within {cs : List Char} {f : Fault} (h : read cs = .error f) : f.Within cs := by
  have hcs := trimLeft_suffix cs
  rw [read] at h
  split at h
  · cases h
    exact within_end _ cs
  · split at h
    · next hv =>
      cases h
      have hf : (Call.value (trimLeft cs)).answer (fuelFor (trimLeft cs)) = .error f := hv
      exact (Call.within hf).mono hcs
    · next v behind hv =>
      have hbehind : behind <:+ cs := (value_suffix hv).trans hcs
      dsimp only at h
      split at h
      · next hw =>
        -- the first value is read, so the fault is one of the row behind its comma
        cases h
        split at hw
        · next rest ht =>
          split at hw
          · next htop =>
            cases hw
            have hf : (Call.topItems rest).answer (fuelFor (trimLeft cs)) = .error f := htop
            exact (Call.within hf).mono ((suffix_of_trimLeft ht).trans hbehind)
          · cases hw
        · cases hw
      · next w behind' hw =>
        have hbehind' : behind' <:+ cs := by
          split at hw
          · next rest ht =>
            split at hw
            · cases hw
            · next htop =>
              cases hw
              exact (topItems_suffix htop).trans ((suffix_of_trimLeft ht).trans hbehind)
          · cases hw
            exact (trimLeft_suffix behind).trans hbehind
        split at h
        · cases h
        · cases h
          exact within_suffix _ ((trimLeft_suffix behind').trans hbehind')

/-- The calls that are made while a source is read, with the fuel that they have. -/
inductive Reached (source : List Char) : Nat → Call → Prop where
  | first (h : trimLeft source ≠ []) :
      Reached source (fuelFor (trimLeft source)) (.value (trimLeft source))
  | row {behind rest : List Char} {v : Value}
      (hv : value (fuelFor (trimLeft source)) (trimLeft source) = .ok (v, behind))
      (h : trimLeft behind = ',' :: rest) :
      Reached source (fuelFor (trimLeft source)) (.topItems rest)
  | made {fuel : Nat} {c d : Call} (h : Reached source (fuel + 1) c) (hd : Makes fuel c d) :
      Reached source fuel d

/-- What every call keeps while a source is read. -/
structure Call.Stays (source : List Char) (fuel : Nat) (c : Call) : Prop where
  /-- The call stands in the source. -/
  text : c.text <:+ source
  /-- The fuel that is left is enough. -/
  need : c.need ≤ fuel
  /-- With any more fuel the call answers the same. -/
  more : ∀ more, c.answer (fuel + more) = c.answer fuel
  /-- What it leaves unread is an end of the source. -/
  rest : ∀ r rest, c.answer fuel = .ok (r, rest) → rest <:+ source
  /-- The place of its fault is in the source. -/
  fault : ∀ f, c.answer fuel = .error f → f.Within source

theorem Reached.text_and_need {source : List Char} {fuel : Nat} {c : Call}
    (h : Reached source fuel c) : c.text <:+ source ∧ c.need ≤ fuel := by
  induction h with
  | first h => exact ⟨trimLeft_suffix source, (Call.value _).need_le_fuelFor⟩
  | row hv h =>
    have hlength := length_of_value hv h
    refine ⟨(suffix_of_value hv h).trans (trimLeft_suffix source), ?_⟩
    simp only [Call.need, fuelFor]
    omega
  | made h hd ih =>
    have hneed := hd.need_lt
    exact ⟨hd.suffix.trans ih.1, by omega⟩

theorem Reached.stays {source : List Char} {fuel : Nat} {c : Call} (h : Reached source fuel c) :
    c.Stays source fuel where
  text := h.text_and_need.1
  need := h.text_and_need.2
  more := Call.answer_add h.text_and_need.2
  rest _ _ hr := (Call.suffix_of_answer hr).trans h.text_and_need.1
  fault _ hf := (Call.within hf).mono h.text_and_need.1

/-- What the error of a source says: a value is no key, or what is wrong and after how many characters
of the source. -/
inductive Told (source : String) : Error → Prop where
  | key {key : Value} (h : read source.toList = .error (.unhashableKey key))
      (hk : keyText? key = none) : Told source (.expression ("unhashable dict key: " ++ key.toText))
  | place {what : Problem} {p left : Nat}
      (h : read source.toList = .error (.problem what left)) (hp : p + left = source.toList.length) :
      Told source (.expression
        (what.message ++ " at offset " ++ Nat.repr p ++ " in '" ++ source ++ "'"))

theorem told_of_parse {source : String} {e : Error} (h : parse source = .error e) :
    Told source e := by
  rw [parse] at h
  split at h
  · cases h
  · next f hf =>
    cases h
    have hwithin := read_within hf
    cases f with
    | unhashableKey key => exact .key hf hwithin
    | problem what left => exact .place hf (Nat.sub_add_cancel hwithin)

/-- Reading a source stays in it and ends.  An error tells a place of the source, or a value that is no
key.  Every call that is made stands in the source, leaves an end of it unread or fails at a place of
it, and has the fuel that it needs, so it answers as it would without a bound.  A value that is read
takes at least one character, and adjacent strings are no more than the characters. -/
theorem parse_stays_in_source (source : String) :
    (∀ e, parse source = .error e → Told source e) ∧
    (∀ fuel c, Reached source.toList fuel c → c.Stays source.toList fuel) ∧
    (∀ fuel cs v rest, value fuel cs = .ok (v, rest) → rest <:+ cs ∧ rest.length < cs.length) ∧
    ∀ quote cs more, strings (cs.length + more) quote cs = strings cs.length quote cs :=
  ⟨fun _ h => told_of_parse h, fun _ _ h => h.stays,
    fun _ _ _ _ h => ⟨value_suffix h, value_length h⟩,
    fun quote _ more => strings_add more quote (Nat.le_refl _)⟩

theorem parse_stays_in_source_star :
    parse "[1, *]" = .error (.expression "unexpected character '*' at offset 4 in '[1, *]'") ∧
    Told "[1, *]" (.expression "unexpected character '*' at offset 4 in '[1, *]'") ∧
    Reached "[1, *]".toList 20 (.items ']' "1, *]".toList) ∧
    (Call.items ']' "1, *]".toList).Stays "[1, *]".toList 20 := by
  have stays := parse_stays_in_source "[1, *]"
  have hparse : parse "[1, *]"
      = .error (.expression "unexpected character '*' at offset 4 in '[1, *]'") := by rfl
  have hfirst : Reached "[1, *]".toList 21 (.value "[1, *]".toList) := .first (by decide)
  have hitems : Reached "[1, *]".toList 20 (.items ']' "1, *]".toList) := hfirst.made (.list rfl)
  exact ⟨hparse, stays.1 _ hparse, hitems, stays.2.1 _ _ hitems⟩

end Literal

end PageScript

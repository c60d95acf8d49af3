import PageScript.Proofs.Token.Bytes

/-!
# The first token of a text

The rule for tokens, said of the parts of a text: the first `((`, then a stretch that the scanner
leaves as it entered it (`Enclosed`), then `))`.  The body of the token is the stretch without the
blanks at its ends.  Whether a stretch is enclosed is a matter of the stretch alone, so neither what
stands in front of the token nor what stands behind it has an influence on the body.

`body?_eq_some_iff_parts` says that a body is found exactly by this rule, that the search over bytes
gives the places of the same stretch, and that these places lie between characters.
-/

namespace PageScript

namespace Token

/-! ## The rule -/

/-- Behind the stretch the scanner is at its start for the first time in front of a `))`, the one
that follows the stretch included. -/
structure Enclosed (raw : List Char) : Prop where
  start : Stand.start.behind raw = .start
  first : ∀ f back, raw ++ [')', ')'] = f ++ ')' :: ')' :: back → Stand.start.behind f = .start →
    raw.length ≤ f.length

/-- No `((` begins in the text when another `(` follows it. -/
def Unopened (pre : String) : Prop := ∀ f back, pre.toList ++ ['('] ≠ f ++ '(' :: '(' :: back

/-- The text has its first token between these parts. -/
structure Parts (text pre raw post : String) : Prop where
  split : text = pre ++ "((" ++ raw ++ "))" ++ post
  unopened : Unopened pre
  enclosed : Enclosed raw.toList

/-- What follows a token does not matter for its end. -/
theorem ends_iff_enclosed {raw post : List Char} :
    Ends .start (raw ++ ')' :: ')' :: post) raw ↔ Enclosed raw := by
  constructor
  · intro h
    refine ⟨h.start, fun f back heq hf => h.first f (back ++ post) ?_ hf⟩
    have := congrArg (· ++ post) heq
    simpa using this
  · intro h
    refine ⟨⟨post, rfl⟩, h.start, fun f back heq hf => Nat.le_of_not_lt fun hshort => ?_⟩
    -- an earlier mark would end within the stretch and the mark behind it
    have long : (f ++ [')', ')']).length ≤ (raw ++ [')', ')']).length := by
      simp only [List.length_append, List.length_cons, List.length_nil]
      omega
    have front : f ++ [')', ')'] <+: raw ++ ')' :: ')' :: post := ⟨back, by rw [heq]; simp⟩
    have whole : raw ++ [')', ')'] <+: raw ++ ')' :: ')' :: post := ⟨post, by simp⟩
    obtain ⟨more, hmore⟩ := List.prefix_of_prefix_length_le front whole long
    have later := h.first f more (by rw [← hmore]; simp) hf
    omega

/-- The parts of a text as the two searches see them. -/
theorem exists_parts_iff (text : String) (p : String → String → Prop) :
    (∃ pre raw post, Parts text pre raw post ∧ p pre raw) ↔
      ∃ front rest raw, Opens text.toList front rest ∧ Ends .start rest raw ∧
        p (.ofList front) (.ofList raw) := by
  constructor
  · rintro ⟨pre, raw, post, ⟨hsplit, hpre, hraw⟩, hp⟩
    refine ⟨pre.toList, raw.toList ++ ')' :: ')' :: post.toList, raw.toList, ⟨?_, hpre⟩,
      ends_iff_enclosed.mpr hraw, ?_⟩
    · rw [hsplit]
      simp
    · rwa [String.ofList_toList, String.ofList_toList]
  · rintro ⟨front, rest, raw, ⟨hsplit, hfirst⟩, hends, hp⟩
    obtain ⟨post, rfl⟩ := hends.mark
    refine ⟨.ofList front, .ofList raw, .ofList post, ⟨?_, ?_, ?_⟩, hp⟩
    · rw [← String.toList_inj, hsplit]
      simp
    · rwa [Unopened, String.toList_ofList]
    · rw [String.toList_ofList]
      exact ends_iff_enclosed.mp hends

/-! ## Searching -/

theorem find_eq_some_iff {cs body : List Char} :
    find cs = some body ↔ ∃ front rest raw, Opens cs front rest ∧ Ends .start rest raw ∧
      body = Text.trim raw := by
  constructor
  · intro h
    unfold find at h
    cases hopen : behindOpening cs with
    | none => rw [hopen] at h; cases h
    | some rest =>
      rw [hopen] at h
      obtain ⟨raw, hscan, rfl⟩ := Option.map_eq_some_iff.mp h
      obtain ⟨front, hfront⟩ := behindOpening_eq_some_iff.mp hopen
      obtain ⟨_, rfl, hends⟩ := (scan_eq_some_iff rest .start []).mp hscan
      exact ⟨front, rest, _, hfront, hends, rfl⟩
  · rintro ⟨front, rest, raw, hopens, hends, rfl⟩
    have scanned : scan none 0 [] rest = some raw :=
      (scan_eq_some_iff rest .start []).mpr ⟨raw, rfl, hends⟩
    rw [find, behindOpening_eq_some_iff.mpr ⟨front, hopens⟩]
    dsimp only
    rw [scanned]
    rfl

theorem body?_eq_some_iff (text body : String) :
    body? text = some body ↔ ∃ pre raw post, Parts text pre raw post ∧ body = Text.trimmed raw := by
  rw [exists_parts_iff text fun _ raw => body = Text.trimmed raw, body?, Option.map_eq_some_iff]
  simp only [Text.trimmed, String.toList_ofList]
  constructor
  · rintro ⟨_, hfind, rfl⟩
    obtain ⟨front, rest, raw, hopens, hends, rfl⟩ := find_eq_some_iff.mp hfind
    exact ⟨front, rest, raw, hopens, hends, rfl⟩
  · rintro ⟨front, rest, raw, hopens, hends, rfl⟩
    exact ⟨_, find_eq_some_iff.mpr ⟨front, rest, raw, hopens, hends, rfl⟩, rfl⟩

theorem places?_eq_some_iff (text : String) (start stop : Nat) :
    places? text = some (start, stop) ↔ ∃ pre raw post, Parts text pre raw post ∧
      start = (pre ++ "((").utf8ByteSize ∧ stop = (pre ++ "((" ++ raw).utf8ByteSize := by
  have mark : "((".utf8ByteSize = 2 := rfl
  rw [exists_parts_iff text fun pre raw =>
    start = (pre ++ "((").utf8ByteSize ∧ stop = (pre ++ "((" ++ raw).utf8ByteSize]
  simp only [places?, bytes_eq_octets, Option.bind_eq_bind, Option.bind_eq_some_iff, Prod.exists,
    Option.pure_def, Option.some.injEq, Prod.mk.injEq, String.utf8ByteSize_append, mark,
    utf8ByteSize_ofList]
  constructor
  · rintro ⟨i, bs, hopen, j, hclose, rfl, rfl⟩
    obtain ⟨front, rest, hopens, rfl, rfl⟩ := (openingPlace?_octets _ _ _ _).mp hopen
    obtain ⟨raw, hends, rfl⟩ := (closingPlace?_octets rest Stand.quoting_start _ _).mp hclose
    exact ⟨front, rest, raw, hopens, hends, by omega, by omega⟩
  · rintro ⟨front, rest, raw, hopens, hends, rfl, rfl⟩
    refine ⟨_, _, (openingPlace?_octets _ _ _ _).mpr ⟨front, rest, hopens, rfl, rfl⟩, _,
      (closingPlace?_octets rest Stand.quoting_start _ _).mpr ⟨raw, hends, rfl⟩, ?_, ?_⟩ <;> omega

/-! ## Cutting -/

theorem Parts.eq_append {text pre raw post : String} (h : Parts text pre raw post) :
    text = pre ++ "((" ++ raw ++ ("))" ++ post) := by
  rw [h.split, @String.append_assoc (pre ++ "((" ++ raw)]

theorem Parts.isValid {text pre raw post : String} (h : Parts text pre raw post) :
    String.Pos.Raw.IsValid text ⟨(pre ++ "((").utf8ByteSize⟩ ∧
      String.Pos.Raw.IsValid text ⟨(pre ++ "((" ++ raw).utf8ByteSize⟩ := by
  rw [h.eq_append]
  exact Text.isValid_ends (pre ++ "((") raw ("))" ++ post)

/-- Between the places stands the stretch itself. -/
theorem Parts.cut?_eq {text pre raw post : String} (h : Parts text pre raw post) :
    Text.cut? text (pre ++ "((").utf8ByteSize (pre ++ "((" ++ raw).utf8ByteSize = some raw := by
  rw [h.eq_append]
  exact Text.cut?_ends (pre ++ "((") raw ("))" ++ post)

/-- The body cut out of the bytes is the body found in the characters. -/
theorem cutBody?_eq_body? (text : String) : cutBody? text = body? text := by
  cases hplaces : places? text with
  | none =>
    cases hbody : body? text with
    | none => rw [cutBody?, hplaces]; rfl
    | some body =>
      obtain ⟨pre, raw, post, hparts, -⟩ := (body?_eq_some_iff text body).mp hbody
      have := (places?_eq_some_iff text _ _).mpr ⟨pre, raw, post, hparts, rfl, rfl⟩
      rw [hplaces] at this
      cases this
  | some places =>
    obtain ⟨pre, raw, post, hparts, hstart, hstop⟩ := (places?_eq_some_iff text _ _).mp hplaces
    rw [(body?_eq_some_iff text _).mpr ⟨pre, raw, post, hparts, rfl⟩, cutBody?, hplaces]
    show (Text.cut? text places.1 places.2 >>= fun raw => pure (Text.trimmed raw)) = _
    rw [hstart, hstop, hparts.cut?_eq]
    rfl

/-! ## Main statement -/

/-- A body is found in a text exactly if the text has parts by the rule for tokens, and then it is
the middle part without the blanks at its ends; the parts in front and behind can be exchanged for
others.  The search over bytes finds the places of the same part, these lie between characters, and
what is cut out there is the same body. -/
theorem body?_eq_some_iff_parts (text : String) :
    (∀ body, body? text = some body ↔
      ∃ pre raw post, Parts text pre raw post ∧ body = Text.trimmed raw) ∧
    (∀ pre raw post pre' post', Parts text pre raw post → Unopened pre' →
      body? (pre' ++ "((" ++ raw ++ "))" ++ post') = body? text) ∧
    (∀ start stop, places? text = some (start, stop) ↔ ∃ pre raw post, Parts text pre raw post ∧
      start = (pre ++ "((").utf8ByteSize ∧ stop = (pre ++ "((" ++ raw).utf8ByteSize) ∧
    (∀ start stop, places? text = some (start, stop) →
      String.Pos.Raw.IsValid text ⟨start⟩ ∧ String.Pos.Raw.IsValid text ⟨stop⟩) ∧
    cutBody? text = body? text := by
  refine ⟨body?_eq_some_iff text, ?_, places?_eq_some_iff text, ?_, cutBody?_eq_body? text⟩
  · intro pre raw post pre' post' hparts hpre'
    have other : Parts (pre' ++ "((" ++ raw ++ "))" ++ post') pre' raw post' :=
      ⟨rfl, hpre', hparts.enclosed⟩
    rw [(body?_eq_some_iff text _).mpr ⟨pre, raw, post, hparts, rfl⟩]
    exact (body?_eq_some_iff _ _).mpr ⟨pre', raw, post', other, rfl⟩
  · intro start stop hplaces
    obtain ⟨pre, raw, post, hparts, rfl, rfl⟩ := (places?_eq_some_iff text _ _).mp hplaces
    exact hparts.isValid

-- the letters take two bytes each, and the quotes hide the first `))`
example : places? "é(( 'ü))' ))" = some (4, 12) := by decide +kernel
example : cutBody? "é(( 'ü))' ))" = some "'ü))'" := by decide +kernel

end Token

end PageScript

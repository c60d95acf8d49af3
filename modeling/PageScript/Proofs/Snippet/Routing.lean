import PageScript.Proofs.Snippet.Control

/-!
# Where selectors go

A snippet is routed if it finds elements, if at all, by giving a selector to the function of
`Snippet.finder`, which asks whether the selector is an XPath expression.  Apart from that its code
does not look elements up, and it is given no other texts than those that are allowed.

The snippets of queries are routed.  That their code does not look elements up is seen from a letter
that it does not have.  The script of a replaced control is not (`Snippet.control_not_routed`).
-/

namespace PageScript

/-! ## Texts without a character -/

namespace Text

section

variable {c : Char}

theorem not_mem_ofList {cs : List Char} (h : c ∉ cs) : c ∉ (String.ofList cs).toList := by
  rwa [String.toList_ofList]

theorem not_mem_append {s t : String} (hs : c ∉ s.toList) (ht : c ∉ t.toList) :
    c ∉ (s ++ t).toList := by
  rw [String.toList_append, List.mem_append]
  exact not_or_intro hs ht

/-- A text between two given ones. -/
theorem not_mem_around {front back : List Char} {t : String} (hfront : c ∉ front)
    (ht : c ∉ t.toList) (hback : c ∉ back) :
    c ∉ (String.ofList front ++ t ++ String.ofList back).toList :=
  not_mem_append (not_mem_append (not_mem_ofList hfront) ht) (not_mem_ofList hback)

theorem not_mem_join {sep : String} (hsep : c ∉ sep.toList) :
    ∀ {texts : List String}, (∀ t ∈ texts, c ∉ t.toList) → c ∉ (join sep texts).toList
  | [], _ => List.not_mem_nil
  | [s], h => h s List.mem_cons_self
  | s :: _ :: _, h =>
    not_mem_append (not_mem_append (h s List.mem_cons_self) hsep)
      (not_mem_join hsep fun u hu => h u (List.mem_cons_of_mem s hu))

theorem contains_of_not_mem {s part : String} (hpart : c ∈ part.toList) (h : c ∉ s.toList) :
    contains s part = false := by
  rw [Bool.eq_false_iff, ne_eq, contains_iff]
  exact fun occurs => h (occurs.subset hpart)

end

/-! ## Texts of numbers -/

theorem letter_not_mem_toDigits (n : Nat) : 'q' ∉ Nat.toDigits 10 n := by
  intro h
  have digit := Nat.isDigit_of_mem_toDigits (by decide) (by decide) h
  exact absurd digit (by decide)

theorem letter_not_mem_repr (n : Nat) : 'q' ∉ (Nat.repr n).toList :=
  not_mem_ofList (letter_not_mem_toDigits n)

theorem letter_not_mem_intText (n : Int) : 'q' ∉ (intText n).toList := by
  cases n with
  | ofNat k => exact letter_not_mem_repr k
  | negSucc k => exact not_mem_append (not_mem_ofList (by decide)) (letter_not_mem_repr (k + 1))

theorem letter_not_mem_positionally {digits : List Char} (h : 'q' ∉ digits) (exponent : Int) :
    'q' ∉ (Layout.plain.positionally digits exponent).toList := by
  have zeros (n : Nat) : 'q' ∉ List.replicate n '0' := fun hq =>
    absurd (List.eq_of_mem_replicate hq) (by decide)
  have both {cs ds : List Char} (hc : 'q' ∉ cs) (hd : 'q' ∉ ds) :
      'q' ∉ (String.ofList (cs ++ ds)).toList :=
    not_mem_ofList fun hq => (List.mem_append.mp hq).elim hc hd
  cases exponent with
  | ofNat k => exact not_mem_append (both h (zeros k)) (not_mem_ofList (by decide))
  | negSucc k =>
    unfold Layout.positionally
    dsimp only
    split
    · refine not_mem_append (not_mem_append (not_mem_ofList fun hq => h ?_)
        (not_mem_ofList (by decide))) (not_mem_ofList fun hq => h ?_)
      · exact List.mem_of_mem_take hq
      · exact List.mem_of_mem_drop hq
    · exact not_mem_append (not_mem_ofList (by decide)) (both (zeros _) h)

theorem letter_not_mem_plain (x : Double) : 'q' ∉ (Layout.plain.text x).toList := by
  cases x with
  | nan => exact not_mem_ofList (by decide)
  | infinite s => cases s <;> exact not_mem_ofList (by decide)
  | finite s m e =>
    have sign : 'q' ∉ (if s then "-" else "").toList := by
      cases s <;> exact not_mem_ofList (by decide)
    refine not_mem_append sign ?_
    split
    · exact not_mem_ofList (by decide)
    · exact letter_not_mem_positionally (letter_not_mem_toDigits _) _

end Text

/-! ## Routed snippets -/

/-- Code that looks no elements up, or a text that is allowed. -/
def Piece.Plain (allowed : String → Prop) : Piece → Prop
  | .code text => Text.contains text "querySelector" = false
  | .given text => allowed text

namespace Snippet

variable {allowed : String → Prop}

/-- No elements are looked up, and no other texts are given than those that are allowed. -/
def Plain (allowed : String → Prop) (s : Snippet) : Prop := ∀ piece ∈ s, piece.Plain allowed

/-- Elements are found, if at all, by giving a selector to the function that finds them. -/
inductive Routed (allowed : String → Prop) : Snippet → Prop where
  | plain {s : Snippet} (h : s.Plain allowed) : Routed allowed s
  | found {selector : String} {body : Snippet} (h : body.Plain allowed) :
      Routed allowed (withElements selector body)

namespace Plain

theorem nil : Plain allowed [] := nofun

theorem cons {piece : Piece} {s : Snippet} (hpiece : piece.Plain allowed) (h : s.Plain allowed) :
    Plain allowed (piece :: s) := List.forall_mem_cons.mpr ⟨hpiece, h⟩

theorem append {s t : Snippet} (hs : s.Plain allowed) (ht : t.Plain allowed) :
    Plain allowed (s ++ t) := List.forall_mem_append.mpr ⟨hs, ht⟩

/-- The code in front does not look elements up. -/
theorem code {text : String} {s : Snippet} (htext : 'q' ∉ text.toList) (h : s.Plain allowed) :
    Plain allowed (.code text :: s) :=
  cons (Text.contains_of_not_mem (by decide : 'q' ∈ "querySelector".toList) htext) h

/-- The code in front is written out. -/
theorem fixed {cs : List Char} {s : Snippet} (hcs : 'q' ∉ cs) (h : s.Plain allowed) :
    Plain allowed (.code (String.ofList cs) :: s) :=
  code (Text.not_mem_ofList hcs) h

theorem given {text : String} {s : Snippet} (htext : allowed text) (h : s.Plain allowed) :
    Plain allowed (.given text :: s) :=
  cons htext h

end Plain

/-! ## Queries -/

theorem letter_not_mem_lines {ls : List String} (h : ∀ l ∈ ls, 'q' ∉ l.toList) :
    'q' ∉ (lines ls).toList := Text.not_mem_join (by decide) h

/-- Code without given texts. -/
theorem plain_code {text : String} (h : 'q' ∉ text.toList) : Plain allowed [.code text] :=
  .code h .nil

/-- Code that is written out. -/
theorem plain_fixed {cs : List Char} (h : 'q' ∉ cs) : Plain allowed [.code (String.ofList cs)] :=
  .fixed h .nil

theorem firstElement_routed (selector : String) {expression : Snippet}
    (h : expression.Plain allowed) : Routed allowed (firstElement selector expression) := by
  refine .found (.append (.code ?_ h) (plain_fixed (by decide)))
  exact Text.not_mem_append (Text.not_mem_ofList (by decide)) (Text.not_mem_ofList (by decide))

theorem count_routed (selector : String) : Routed allowed (count selector) :=
  .found (plain_fixed (by decide))

theorem texts_routed (selector : String) {expression : String} (h : 'q' ∉ expression.toList) :
    Routed allowed (texts selector expression) :=
  .found (plain_code (Text.not_mem_around (by decide) h (by decide)))

theorem visibleFirst_plain : Plain allowed visibleFirst :=
  plain_fixed (by decide)

theorem attributeOf_plain {name : String} (h : allowed name) : Plain allowed (attributeOf name) :=
  .fixed (by decide) (.given h (plain_fixed (by decide)))

theorem clickAll_routed (selector : String) : Routed allowed (clickAll selector) :=
  .found (plain_fixed (by decide))

theorem assign_plain {value : String} (h : allowed value) (behind : Bool) :
    Plain allowed (assign value behind) := by
  refine .code ?_ (.given h (plain_fixed (by decide)))
  cases behind <;> exact Text.not_mem_ofList (by decide)

theorem assignAt_routed (selector : String) (index : Nat) {value : String} (h : allowed value) :
    Routed allowed (assignAt selector index value) := by
  refine .found (.code ?_ (.given h (plain_fixed (by decide))))
  exact Text.not_mem_around (by decide) (Text.letter_not_mem_repr index) (by decide)

theorem select_plain {text : String} (h : allowed text) : Plain allowed (select text) := by
  refine .code ?_ (.given h (.fixed (by decide) (.given h (plain_code ?_))))
  · refine letter_not_mem_lines ?_
    simp only [List.forall_mem_cons]
    and_intros
    all_goals first | exact Text.not_mem_ofList (by decide) | exact nofun
  · refine letter_not_mem_lines ?_
    simp only [List.forall_mem_cons]
    and_intros
    all_goals first | exact Text.not_mem_ofList (by decide) | exact nofun

theorem scrollTo_plain (offset : Int) : Plain allowed (scrollTo offset) :=
  plain_code (Text.not_mem_around (by decide) (Text.letter_not_mem_intText offset) (by decide))

theorem centre_plain : Plain allowed centre :=
  plain_code (Text.not_mem_append (Text.not_mem_ofList (by decide))
    (Text.not_mem_ofList (by decide)))

theorem scrollBy_plain (x y : Int) : Plain allowed (scrollBy x y) := by
  have first : 'q' ∉ ("window.scrollBy(" ++ intText x ++ ", ").toList :=
    Text.not_mem_around (by decide) (Text.letter_not_mem_intText x) (by decide)
  exact plain_code (Text.not_mem_append (Text.not_mem_append first (Text.letter_not_mem_intText y))
    (Text.not_mem_ofList (by decide)))

end Snippet

/-- The texts of a condition, apart from its selector, are allowed. -/
def Condition.Says (allowed : String → Prop) : Condition → Prop
  | .textIn _ t | .value _ t _ | .title t | .url t => allowed t
  | _ => True

namespace Snippet

variable {allowed : String → Prop}

theorem predicate_routed {condition : Condition} (h : condition.Says allowed) :
    Routed allowed (predicate condition) := by
  cases condition with
  | presence s => exact .found (plain_fixed (by decide))
  | visible s => exact .found visibleFirst_plain
  | invisible s => exact .found (plain_fixed (by decide))
  | clickable s => exact .found (plain_fixed (by decide))
  | absence s => exact .found (plain_fixed (by decide))
  | textIn s t =>
    exact .found (.fixed (by decide) (.given h (plain_fixed (by decide))))
  | value s t whole =>
    refine .found (.fixed (by decide) (.append ?_ (plain_fixed (by decide))))
    cases whole with
    | true => exact .fixed (by decide) (.given h .nil)
    | false =>
      exact .fixed (by decide) (.given h (plain_fixed (by decide)))
  | opacity s v =>
    exact .found (plain_code
      (Text.not_mem_around (by decide) (Text.letter_not_mem_plain v) (by decide)))
  | title t => exact .plain (.fixed (by decide) (.given h .nil))
  | url t =>
    exact .plain (.fixed (by decide) (.given h (plain_fixed (by decide))))
  | alert => exact .plain (plain_fixed (by decide))

/-! ## Fixed snippets -/

theorem letter_not_mem_hooks : 'q' ∉ hooks.toList := by
  refine letter_not_mem_lines ?_
  simp only [List.forall_mem_cons]
  and_intros
  all_goals first | exact Text.not_mem_ofList (by decide) | exact nofun

theorem letter_not_mem_cursor : 'q' ∉ cursor.toList := by
  refine letter_not_mem_lines ?_
  simp only [List.forall_mem_cons]
  and_intros
  all_goals first | exact Text.not_mem_ofList (by decide) | exact nofun

theorem letter_not_mem_keys : 'q' ∉ keys.toList := by
  refine letter_not_mem_lines ?_
  simp only [List.forall_mem_cons]
  and_intros
  all_goals first | exact Text.not_mem_ofList (by decide) | exact nofun

/-! ## The script of a replaced control -/

/-- The script of a replaced control is not routed. -/
theorem control_not_routed (selector text : String) :
    ¬ Routed allowed [.code (control selector text)] := by
  intro h
  generalize hcode : [Piece.code (control selector text)] = code at h
  cases h with
  | plain hplain =>
    subst hcode
    have apart : Text.contains (control selector text) "querySelector" = false :=
      hplain _ (List.mem_singleton.mpr rfl)
    have word : Text.contains ("document.querySelector(" ++ Quoted.literal selector ++ ")")
        "querySelector" = true := Text.contains_append (Text.contains_append (by decide))
    rw [Text.contains_trans (control_looks_up selector text) word] at apart
    cases apart
  | found hbody =>
    have pieces := congrArg List.length hcode
    simp only [withElements, List.length_append, List.length_cons, List.length_nil]
      at pieces
    omega

end Snippet

end PageScript

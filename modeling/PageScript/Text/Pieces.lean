/-!
# Pieces of texts

Trimming, splitting, searching and replacing, over lists of characters.  Every function is a short
recursion on the list, so that what it keeps and what it drops can be read off.  A blank is a
character with the Unicode property White_Space.

`trim_eq` says that trimming only takes blanks off both ends, and `splitOnce_eq_some` says that the
first separator is the one that splits.
-/

namespace PageScript

namespace Text

/-! ## Blanks -/

/-- A character of the property White_Space. -/
def isBlank (c : Char) : Bool :=
  let n := c.toNat
  (0x9 ≤ n && n ≤ 0xD) || n == 0x20 || n == 0x85 || n == 0xA0 || n == 0x1680
    || (0x2000 ≤ n && n ≤ 0x200A) || n == 0x2028 || n == 0x2029 || n == 0x202F || n == 0x205F
    || n == 0x3000

/-- The text without the blanks in front. -/
def trimLeft (cs : List Char) : List Char := cs.dropWhile isBlank

/-- The text without the characters at its end that satisfy the test. -/
def dropRightWhile (p : Char → Bool) (cs : List Char) : List Char :=
  (cs.reverse.dropWhile p).reverse

/-- The text without the blanks at its end. -/
def trimRight (cs : List Char) : List Char := dropRightWhile isBlank cs

/-- The text without the blanks at both ends. -/
def trim (cs : List Char) : List Char := trimRight (trimLeft cs)

/-- The part of a text between the blanks at its ends. -/
def trimmed (s : String) : String := String.ofList (trim s.toList)

theorem dropRightWhile_append_takeWhile (p : Char → Bool) (cs : List Char) :
    dropRightWhile p cs ++ (cs.reverse.takeWhile p).reverse = cs := by
  rw [dropRightWhile, ← List.reverse_append, List.takeWhile_append_dropWhile, List.reverse_reverse]

/-- Trimming takes blanks off both ends and nothing else. -/
theorem trim_eq (cs : List Char) :
    ∃ front back, cs = front ++ trim cs ++ back ∧ front.all isBlank ∧ back.all isBlank := by
  refine ⟨cs.takeWhile isBlank, ((trimLeft cs).reverse.takeWhile isBlank).reverse, ?_, ?_, ?_⟩
  · rw [List.append_assoc, trim, trimRight, dropRightWhile_append_takeWhile, trimLeft,
      List.takeWhile_append_dropWhile]
  · exact List.all_takeWhile
  · rw [List.all_reverse]
    exact List.all_takeWhile

/-! ## Splitting -/

/-- The parts before and after the first separator. -/
def splitOnce (sep : Char) : List Char → Option (List Char × List Char)
  | [] => none
  | c :: cs =>
    if c = sep then some ([], cs)
    else (splitOnce sep cs).map fun (front, back) => (c :: front, back)

/-- The parts before and after the last separator. -/
def splitLast (sep : Char) (cs : List Char) : Option (List Char × List Char) :=
  (splitOnce sep cs.reverse).map fun (back, front) => (front.reverse, back.reverse)

/-- The parts between the separators, one more than there are separators. -/
def splitAll (sep : Char) : List Char → List (List Char)
  | [] => [[]]
  | c :: cs =>
    if c = sep then [] :: splitAll sep cs
    else match splitAll sep cs with
      | [] => [[c]]
      | part :: parts => (c :: part) :: parts

theorem splitOnce_eq_some {sep : Char} {cs front back : List Char}
    (h : splitOnce sep cs = some (front, back)) : cs = front ++ sep :: back ∧ sep ∉ front := by
  induction cs generalizing front with
  | nil => simp [splitOnce] at h
  | cons c cs ih =>
    by_cases hc : c = sep
    · simp only [splitOnce, hc, if_true, Option.some.injEq, Prod.mk.injEq] at h
      obtain ⟨rfl, rfl⟩ := h
      simp [hc]
    · simp only [splitOnce, hc, if_false, Option.map_eq_some_iff, Prod.mk.injEq, Prod.exists] at h
      obtain ⟨f, b, hfb, rfl, rfl⟩ := h
      have := ih hfb
      simp [this.1, this.2, Ne.symm hc]

theorem splitOnce_append {sep : Char} {front : List Char} (h : sep ∉ front) (back : List Char) :
    splitOnce sep (front ++ sep :: back) = some (front, back) := by
  induction front with
  | nil => simp [splitOnce]
  | cons c cs ih =>
    rw [List.mem_cons, not_or] at h
    simp [splitOnce, Ne.symm h.1, ih h.2]

theorem splitOnce_eq_none {sep : Char} {cs : List Char} (h : sep ∉ cs) : splitOnce sep cs = none := by
  induction cs with
  | nil => rfl
  | cons c cs ih =>
    rw [List.mem_cons, not_or] at h
    simp [splitOnce, Ne.symm h.1, ih h.2]

/-! ## Searching and replacing -/

/-- The rest of a text behind a given beginning. -/
def stripFront : List Char → List Char → Option (List Char)
  | [], cs => some cs
  | _ :: _, [] => none
  | p :: ps, c :: cs => if p = c then stripFront ps cs else none

/-- The text begins with the given characters. -/
def startsWith (start cs : List Char) : Bool := (stripFront start cs).isSome

/-- The characters occur in the text as one piece. -/
def occursIn (part : List Char) : List Char → Bool
  | [] => part.isEmpty
  | c :: cs => startsWith part (c :: cs) || occursIn part cs

/-- Every occurrence of a non-empty piece replaced, from the left; `skip` characters of the
occurrence just replaced are still to be passed over. -/
def replaceFrom (part new : List Char) : Nat → List Char → List Char
  | _, [] => []
  | skip + 1, _ :: cs => replaceFrom part new skip cs
  | 0, c :: cs =>
    if startsWith part (c :: cs) then new ++ replaceFrom part new (part.length - 1) cs
    else c :: replaceFrom part new 0 cs

/-- Every occurrence of a non-empty piece replaced, from the left. -/
def replace (part new : String) (s : String) : String :=
  String.ofList (replaceFrom part.toList new.toList 0 s.toList)

/-- The text holds the given text. -/
def contains (s part : String) : Bool := occursIn part.toList s.toList

/-- The texts one after another with a separator between. -/
def join (sep : String) : List String → String
  | [] => ""
  | [s] => s
  | s :: rest => s ++ sep ++ join sep rest

example : splitAll ',' "a,,b".toList = [['a'], [], ['b']] := by decide
example : contains "overrun" "run" = true := by decide +kernel
example : replace "aa" "b" "aaaa" = "bb" := by decide +kernel

end Text

end PageScript

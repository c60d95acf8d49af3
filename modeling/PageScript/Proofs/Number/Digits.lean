import PageScript.Proofs.Literal.RoundTrip

/-!
# Written numbers

A number written in decimal digits is read back as itself where it is in the range that is read, and
refused outside it.

What is read is written: a row of characters is read as a number exactly if it is a row of the
number's digits (`Reading.natInBase?_eq_some_iff`), and as a 64-bit integer exactly if it is those
digits with at most a sign in front (`Reading.int64?_eq_some_iff`).
-/

namespace PageScript

namespace Reading

theorem digits_toDigits {base : Nat} (hb : 1 < base) (n : Nat) :
    Literal.Digits base n (Nat.toDigits base n) := by
  induction n using Nat.strongRecOn with
  | _ n ih =>
    by_cases hn : n < base
    · rw [Nat.toDigits_of_lt_base hn]
      exact .one hn (.inl rfl)
    · have split := Nat.toDigits_of_base_le hb (Nat.le_of_not_lt hn)
      have front := ih (n / base) (Nat.div_lt_self (by omega) hb)
      have digits := Literal.Digits.more front (Nat.mod_lt n (by omega)) (.inl rfl)
      rwa [Nat.div_add_mod', ← split] at digits

/-- The number is written in decimal digits. -/
theorem decimal_toDigits (n : Nat) : Literal.Digits 10 n (Nat.toDigits 10 n) :=
  digits_toDigits (by decide) n

theorem natInBase?_toDigits (n : Nat) : natInBase? 10 (Nat.toDigits 10 n) = some n := by
  have digits := decimal_toDigits n
  rw [natInBase?, if_neg (by simp [digits.ne_nil])]
  exact digits.foldDigits (by decide)

/-- Digits begin with no sign. -/
theorem toDigits_unsigned (n : Nat) (sign : Char) (hsign : isDigit sign = false)
    (rest : List Char) : Nat.toDigits 10 n ≠ sign :: rest := by
  intro h
  have digit := (decimal_toDigits n).isDigit sign (by rw [h]; exact List.mem_cons_self)
  rw [hsign] at digit
  cases digit

variable {lo hi : Int} {n : Nat}

theorem intInBase?_toDigits (hlo : lo ≤ n) :
    intInBase? 10 lo hi (Nat.toDigits 10 n) = if (n : Int) ≤ hi then some (n : Int) else none :=
  (decimal_toDigits n).intInBase? hlo

theorem intInBase?_negative (hlo : lo ≤ -(n : Int)) (hhi : -(n : Int) ≤ hi) (hneg : lo < 0) :
    intInBase? 10 lo hi ('-' :: Nat.toDigits 10 n) = some (-(n : Int)) := by
  unfold intInBase?
  have below : ¬ 0 ≤ lo := by omega
  simp [natInBase?_toDigits, hlo, hhi, below]

/-- A number is read as it is written, and refused above the range. -/
theorem nat64?_repr (n : Nat) :
    nat64? (Nat.repr n).toList = if (n : Int) ≤ nat64Max then some n else none := by
  rw [Nat.toList_repr, nat64?, intInBase?_toDigits (by omega)]
  split <;> rfl

/-- No digit is a blank. -/
theorem repr_ink (n : Nat) : ∀ c ∈ (Nat.repr n).toList, Text.isBlank c = false := by
  intro c hc
  rw [Nat.toList_repr] at hc
  have digit := (decimal_toDigits n).isDigit c hc
  have table : ∀ c ∈ Text.blanks, isDigit c = false := Text.forall_of_all (by decide +kernel)
  cases hblank : Text.isBlank c with
  | false => rfl
  | true =>
    rw [table c (Text.mem_blanks hblank)] at digit
    cases digit

theorem int64?_intText {i : Int} (hlo : int64Min ≤ i) (hhi : i ≤ int64Max) :
    int64? (intText i).toList = some i := by
  cases i with
  | ofNat k =>
    rw [intText, Nat.toList_repr]
    exact (intInBase?_toDigits hlo).trans (if_pos hhi)
  | negSucc k =>
    rw [intText, String.toList_append, Nat.toList_repr]
    exact intInBase?_negative hlo hhi (by decide)

/-! ## What is read -/

/-- A character with the value of a digit is that digit, in small or in capital letters. -/
theorem digit_of_digitValue {c : Char} {d : Nat} (h : digitValue c = some d) :
    c = Nat.digitChar d ∨ c = (Nat.digitChar d).toUpper := by
  have table : ∀ k < 128, ∀ d < 16, digitValue (Char.ofNat k) = some d →
      Char.ofNat k = Nat.digitChar d ∨ Char.ofNat k = (Nat.digitChar d).toUpper := by decide +kernel
  have small : c.toNat < 128 ∧ d < 16 := by
    simp only [digitValue, Bool.and_eq_true, decide_eq_true_eq, Char.le_def, UInt32.le_iff_toNat_le]
      at h
    have same : c.val.toNat = c.toNat := rfl
    split at h
    · next hc =>
      have : c.val.toNat ≤ 57 := hc.2
      cases h
      exact ⟨by omega, by show c.toNat - 48 < 16; omega⟩
    · split at h
      · next hc =>
        have : c.val.toNat ≤ 102 := hc.2
        cases h
        exact ⟨by omega, by show c.toNat - 97 + 10 < 16; omega⟩
      · split at h
        · next hc =>
          have : c.val.toNat ≤ 70 := hc.2
          cases h
          exact ⟨by omega, by show c.toNat - 65 + 10 < 16; omega⟩
        · cases h
  have back : Char.ofNat c.toNat = c := Char.ofNat_toNat c
  rw [← back] at h ⊢
  exact table c.toNat small.1 d small.2 h

/-- Digits that are read behind digits already read. -/
theorem digits_of_foldDigits {base : Nat} : ∀ (cs : List Char) {n m : Nat} {ds : List Char},
    Literal.Digits base n ds → foldDigits base n cs = some m → Literal.Digits base m (ds ++ cs)
  | [], n, m, ds, digits, h => by
    cases h
    rwa [List.append_nil]
  | c :: cs, n, m, ds, digits, h => by
    rw [foldDigits] at h
    split at h
    · next d hd =>
      split at h
      · next hlt =>
        rw [List.append_cons]
        exact digits_of_foldDigits cs (.more digits hlt (digit_of_digitValue hd)) h
      · cases h
    · cases h

/-- A text is read as a number exactly if it is a row of the number's digits. -/
theorem natInBase?_eq_some_iff {base n : Nat} {cs : List Char} (hb : base ≤ 16) :
    natInBase? base cs = some n ↔ Literal.Digits base n cs := by
  constructor
  · intro h
    cases cs with
    | nil => cases h
    | cons c cs =>
      rw [natInBase?, if_neg (by simp), foldDigits] at h
      split at h
      · next d hd =>
        split at h
        · next hlt =>
          rw [Nat.zero_mul, Nat.zero_add] at h
          exact digits_of_foldDigits cs (.one hlt (digit_of_digitValue hd)) h
        · cases h
      · cases h
  · intro h
    rw [natInBase?, if_neg (by simp [h.ne_nil])]
    exact h.foldDigits hb

/-- The text is the integer in decimal digits, perhaps with a sign in front. -/
inductive Decimal : Int → List Char → Prop where
  | digits {n : Nat} {cs : List Char} (h : Literal.Digits 10 n cs) : Decimal n cs
  | plus {n : Nat} {cs : List Char} (h : Literal.Digits 10 n cs) : Decimal n ('+' :: cs)
  | minus {n : Nat} {cs : List Char} (h : Literal.Digits 10 n cs) : Decimal (-(n : Int)) ('-' :: cs)

/-- A text is read as a 64-bit integer exactly if it is one in decimal digits. -/
theorem int64?_eq_some_iff {cs : List Char} {i : Int} :
    int64? cs = some i ↔ Decimal i cs ∧ int64Min ≤ i ∧ i ≤ int64Max := by
  constructor
  · intro h
    unfold int64? intInBase? at h
    split at h
    next negative ds hds =>
    rw [if_neg (by simp [int64Min])] at h
    cases hn : natInBase? 10 ds with
    | none =>
      rw [hn] at h
      cases h
    | some n =>
      have digits := (natInBase?_eq_some_iff (by decide)).mp hn
      rw [hn] at h
      obtain ⟨inside, same⟩ := Option.ite_none_right_eq_some.mp h
      cases same
      refine ⟨?_, inside⟩
      split at hds
      · obtain ⟨rfl, rfl⟩ := Prod.mk.inj hds
        exact .plus digits
      · obtain ⟨rfl, rfl⟩ := Prod.mk.inj hds
        exact .minus digits
      · obtain ⟨rfl, rfl⟩ := Prod.mk.inj hds
        exact .digits digits
  · rintro ⟨h, inside⟩
    have least : ¬ (0 : Int) ≤ int64Min := by decide
    cases h with
    | @digits n cs h =>
      have low : int64Min ≤ (n : Int) := inside.1
      exact (h.intInBase? low).trans (if_pos inside.2)
    | @plus n cs h =>
      have natural := (natInBase?_eq_some_iff (by decide)).mpr h
      simp [int64?, intInBase?, natural, inside]
    | @minus n cs h =>
      have natural := (natInBase?_eq_some_iff (by decide)).mpr h
      simp [int64?, intInBase?, natural, inside, least]

end Reading

end PageScript

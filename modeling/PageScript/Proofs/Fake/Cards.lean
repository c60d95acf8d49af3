import Mathlib.Algebra.GroupWithZero.Nat
import PageScript.Fake.Data
import PageScript.Number.Reading

/-!
# Card numbers

A card number has sixteen decimal digits, of which the first is a four, and passes the Luhn check:
from the last digit to the first, every second digit counts as the sum of the digits of its double,
and the whole counts a multiple of ten (`Fake.IsCardNumber`).

The check digit is chosen from the number without it, where the last digit is the first one that is
doubled.  In the finished number each digit has moved by one place, so the same digits are doubled
there and the check digit itself is not (`Fake.weightedSum_checkDigit`).  Whatever digits are drawn,
what `Fake.generate` makes of them is a card number.
-/

namespace PageScript

namespace Fake

open Surroundings

/-! ## The Luhn check -/

/-- What the digits of a number count in the Luhn check. -/
def luhnSum (number : List Nat) : Nat :=
  (number.reverse.mapIdx fun i d => if i % 2 = 1 then 2 * d / 10 + 2 * d % 10 else d).sum

/-- The values of the digits that make up a text. -/
def digitsOf (text : String) : List Nat := text.toList.map fun c => c.toNat - '0'.toNat

/-- The text is a valid card number. -/
structure IsCardNumber (text : String) : Prop where
  length : text.toList.length = 16
  digits : ∀ c ∈ text.toList, Reading.isDigit c = true
  first : text.toList.head? = some '4'
  check : luhnSum (digitsOf text) % 10 = 0

variable {ds : List Nat}

/-- A doubled digit counts the sum of the digits of its double. -/
theorem doubled_eq {d : Nat} (hd : d < 10) : doubled d = 2 * d / 10 + 2 * d % 10 := by
  unfold doubled
  split <;> omega

/-- The weighted sum, by the places of the digits. -/
theorem weightedSum_eq (double : Bool) (hds : ∀ d ∈ ds, d < 10) :
    weightedSum double ds = (ds.mapIdx fun i d =>
      if (i + double.toNat) % 2 = 1 then 2 * d / 10 + 2 * d % 10 else d).sum := by
  induction ds generalizing double with
  | nil => rfl
  | cons d ds ih =>
    have hd : d < 10 := hds d List.mem_cons_self
    have tail := ih (!double) fun e he => hds e (List.mem_cons_of_mem d he)
    -- behind the first digit every place has the other parity
    have parity (i : Nat) : (i + 1 + double.toNat) % 2 = 1 ↔ (i + (!double).toNat) % 2 = 1 := by
      cases double with
      | false => simp only [Bool.toNat_false, Bool.toNat_true, Bool.not_false]
      | true =>
        simp only [Bool.toNat_false, Bool.toNat_true, Bool.not_true]
        omega
    simp only [weightedSum, List.mapIdx_cons, List.sum_cons, parity, ← tail]
    cases double
    · rfl
    · rw [if_pos rfl, if_pos (by rfl), doubled_eq hd]

theorem luhnSum_eq (hds : ∀ d ∈ ds, d < 10) : luhnSum ds = weightedSum false ds.reverse := by
  rw [luhnSum, weightedSum_eq false fun d hd => hds d (List.mem_reverse.mp hd)]
  rfl

/-! ## The check digit -/

theorem checkDigit_lt (body : List Nat) : checkDigit body < 10 := Nat.mod_lt _ (by decide)

/-- With its check digit, the weighted sum of a number is a multiple of ten. -/
theorem weightedSum_checkDigit (body : List Nat) :
    weightedSum false (body ++ [checkDigit body]).reverse % 10 = 0 := by
  have shifted : weightedSum false (body ++ [checkDigit body]).reverse
      = checkDigit body + weightedSum true body.reverse := by
    rw [List.reverse_append]
    rfl
  rw [shifted, checkDigit]
  omega

theorem cardDigits_lt (hds : ∀ d ∈ ds, d < 10) : ∀ d ∈ cardDigits ds, d < 10 := by
  intro d hd
  simp only [cardDigits, List.cons_append, List.mem_cons, List.mem_append, List.not_mem_nil,
    or_false] at hd
  rcases hd with rfl | hd | rfl
  · decide
  · exact hds d hd
  · exact checkDigit_lt _

theorem luhnSum_cardDigits (hds : ∀ d ∈ ds, d < 10) : luhnSum (cardDigits ds) % 10 = 0 := by
  rw [luhnSum_eq (cardDigits_lt hds)]
  exact weightedSum_checkDigit (4 :: ds)

/-! ## The text -/

theorem digitsOf_ofList (hds : ∀ d ∈ ds, d < 10) :
    digitsOf (String.ofList (ds.map Nat.digitChar)) = ds := by
  have value (d : Nat) (hd : d ∈ ds) : (Nat.digitChar d).toNat - '0'.toNat = d := by
    rw [Nat.toNat_digitChar_of_lt_ten (hds d hd)]
    exact Nat.add_sub_cancel_left 48 d
  rw [digitsOf, String.toList_ofList, List.map_map]
  exact (List.map_congr_left value).trans (List.map_id ds)

theorem isCardNumber_ofList (hlen : ds.length = 14) (hds : ∀ d ∈ ds, d < 10) :
    IsCardNumber (String.ofList ((cardDigits ds).map Nat.digitChar)) where
  length := by
    rw [String.toList_ofList, List.length_map, cardDigits, List.length_append, List.length_cons,
      hlen]
    rfl
  digits := by
    have table : ∀ d < 10, Reading.isDigit (Nat.digitChar d) = true := by decide
    intro c hc
    rw [String.toList_ofList] at hc
    obtain ⟨d, hd, rfl⟩ := List.mem_map.mp hc
    exact table d (cardDigits_lt hds d hd)
  first := by
    rw [String.toList_ofList]
    rfl
  check := by
    rw [digitsOf_ofList (cardDigits_lt hds)]
    exact luhnSum_cardDigits hds

/-! ## The draws -/

/-- What holds of every draw holds of all that are drawn. -/
theorem times_spec {α : Type} {p : α → Prop} {action : Taking α} (hp : ∀ s, p (action s).1) :
    ∀ (n : Nat) (s : Surroundings),
      (times action n s).1.length = n ∧ ∀ x ∈ (times action n s).1, p x
  | 0, _ => ⟨rfl, fun _ hx => by cases hx⟩
  | n + 1, s => by
    obtain ⟨hlen, hall⟩ := times_spec hp n (action s).2
    refine ⟨congrArg Nat.succ hlen, fun x hx => ?_⟩
    rcases List.mem_cons.mp hx with rfl | hx
    · exact hp s
    · exact hall x hx

theorem cardNumber_eq (s : Surroundings) :
    cardNumber s = (String.ofList ((cardDigits (times (draw 10) 14 s).1).map Nat.digitChar),
      (times (draw 10) 14 s).2) := by
  unfold cardNumber
  -- the draws stay closed here: opened, they would be computed one by one
  generalize times (draw 10) 14 = draws
  rfl

theorem generate_cardNumber (s : Surroundings) :
    generate "credit_card_number" s = (some (.text (cardNumber s).1), (cardNumber s).2) := by
  have known : text? "credit_card_number" = some cardNumber := rfl
  rw [generate, known]
  generalize cardNumber = action
  rfl

/-- Whatever digits are drawn, the number that is made of them is a card number. -/
theorem generated_isCardNumber (s : Surroundings) :
    ∃ number, generate "credit_card_number" s = (some (.text number), (cardNumber s).2) ∧
      number = String.ofList ((cardDigits (times (draw 10) 14 s).1).map Nat.digitChar) ∧
      IsCardNumber number := by
  have digit (s : Surroundings) : (draw 10 s).1 < 10 := Nat.mod_lt _ (by decide)
  obtain ⟨hlen, hds⟩ := times_spec (p := (· < 10)) digit 14 s
  have number : (cardNumber s).1 =
      String.ofList ((cardDigits (times (draw 10) 14 s).1).map Nat.digitChar) := by
    rw [cardNumber_eq]
  refine ⟨_, generate_cardNumber s, number, ?_⟩
  rw [number]
  exact isCardNumber_ofList hlen hds

end Fake

end PageScript

import PageScript.Token.Bytes
import PageScript.Proofs.Token.Scanning

/-!
# The scan of bytes follows the scan of characters

A mark of a token is one byte, and the bytes of a longer character are all above those of the marks
(`encode_cases`).  So a scanner that goes byte by byte passes a longer character as it would pass any
letter, and it stands where the scanner of characters stands whenever it is between two of them.

`openingPlace?_octets` and `closingPlace?_octets` say so of the two searches: they end behind the
bytes of the characters that the searches over characters pass.
-/

namespace PageScript

namespace Token

/-! ## Bytes of characters -/

/-- The bytes of characters. -/
def octets (cs : List Char) : List UInt8 := cs.flatMap String.utf8EncodeChar

@[simp] theorem octets_nil : octets [] = [] := rfl

theorem octets_cons (c : Char) (cs : List Char) :
    octets (c :: cs) = String.utf8EncodeChar c ++ octets cs := List.flatMap_cons

theorem bytes_eq_octets (text : String) : text.toUTF8.data.toList = octets text.toList := by
  rw [String.toUTF8_eq_toByteArray, ← String.utf8Encode_toList, List.utf8Encode,
    List.data_toByteArray, octets]

theorem utf8ByteSize_ofList (cs : List Char) :
    (String.ofList cs).utf8ByteSize = (octets cs).length := by
  rw [← String.toList_ofList (l := cs), ← bytes_eq_octets, String.toList_ofList]
  rfl

/-- The character is one byte, or all its bytes are above those of the marks. -/
theorem encode_cases (c : Char) :
    (c.toNat < 128 ∧ String.utf8EncodeChar c = [UInt8.ofNat c.toNat]) ∨
      (128 ≤ c.toNat ∧ ∀ b ∈ String.utf8EncodeChar c, 128 ≤ b.toNat) := by
  have code : c.toNat = c.val.toNat := rfl
  by_cases h : c.toNat < 128
  · refine .inl ⟨h, ?_⟩
    rw [String.utf8EncodeChar, if_pos (by omega), code]
  · refine .inr ⟨by omega, ?_⟩
    intro b hb
    simp only [String.utf8EncodeChar] at hb
    split at hb
    · omega
    · split at hb
      · simp only [List.mem_cons, List.not_mem_nil, or_false] at hb
        rcases hb with rfl | rfl <;> simp only [UInt8.toNat_ofNat'] <;> omega
      · split at hb
        · simp only [List.mem_cons, List.not_mem_nil, or_false] at hb
          rcases hb with rfl | rfl | rfl <;> simp only [UInt8.toNat_ofNat'] <;> omega
        · simp only [List.mem_cons, List.not_mem_nil, or_false] at hb
          rcases hb with rfl | rfl | rfl | rfl <;> simp only [UInt8.toNat_ofNat'] <;> omega

/-- The byte of a mark. -/
def byteOf (c : Char) : UInt8 := UInt8.ofNat c.toNat

theorem byteOf_inj {c d : Char} (hc : c.toNat < 128) (hd : d.toNat < 128) :
    byteOf c = byteOf d ↔ c = d := by
  constructor
  · intro h
    have codes := congrArg UInt8.toNat h
    simp only [byteOf, UInt8.toNat_ofNat'] at codes
    have same : c.toNat = d.toNat := by omega
    rw [← Char.ofNat_toNat c, ← Char.ofNat_toNat d, same]
  · rintro rfl
    rfl

/-- A byte of a longer character is no mark. -/
theorem ne_byteOf {b : UInt8} {d : Char} (hb : 128 ≤ b.toNat) (hd : d.toNat < 128) :
    b ≠ byteOf d := by
  rintro rfl
  simp only [byteOf, UInt8.toNat_ofNat'] at hb
  omega

theorem head?_octets {d : Char} (hd : d.toNat < 128) (cs : List Char) :
    (octets cs).head? = some (byteOf d) ↔ cs.head? = some d := by
  cases cs with
  | nil => simp
  | cons c cs =>
    rw [octets_cons, List.head?_cons, Option.some.injEq]
    rcases encode_cases c with ⟨hc, hbytes⟩ | ⟨hc, hbytes⟩
    · rw [hbytes, List.singleton_append, List.head?_cons, Option.some.injEq, ← byteOf,
        byteOf_inj hc hd]
    · cases hcode : String.utf8EncodeChar c with
      | nil => exact absurd hcode String.utf8EncodeChar_ne_nil
      | cons b bs =>
        rw [hcode] at hbytes
        rw [List.cons_append, List.head?_cons, Option.some.injEq]
        constructor
        · intro h
          exact absurd h (ne_byteOf (hbytes b List.mem_cons_self) hd)
        · rintro rfl
          omega

/-! ## The opening mark -/

theorem openingPlace?_skip {bs : List UInt8} (h : ∀ b ∈ bs, 128 ≤ b.toNat) (i : Nat)
    (rest : List UInt8) : openingPlace? i (bs ++ rest) = openingPlace? (i + bs.length) rest := by
  induction bs generalizing i with
  | nil => rfl
  | cons b bs ih =>
    have other : b ≠ openByte := ne_byteOf (d := '(') (h b List.mem_cons_self) (by decide)
    rw [List.cons_append, openingPlace?, if_neg fun hb => other hb.1,
      ih fun d hd => h d (List.mem_cons_of_mem b hd), List.length_cons]
    congr 1
    omega

theorem openingPlace?_cons {c : Char} {cs : List Char} (h : ¬(c = '(' ∧ cs.head? = some '('))
    (i : Nat) : openingPlace? i (octets (c :: cs))
      = openingPlace? (i + (String.utf8EncodeChar c).length) (octets cs) := by
  rw [octets_cons]
  rcases encode_cases c with ⟨hc, hbytes⟩ | ⟨-, hbytes⟩
  · have other : ¬(byteOf c = openByte ∧ (octets cs).head? = some openByte) := fun ⟨hb, hbs⟩ =>
      h ⟨(byteOf_inj hc (d := '(') (by decide)).mp hb, (head?_octets (d := '(') (by decide) cs).mp hbs⟩
    rw [hbytes, List.singleton_append, ← byteOf, openingPlace?, if_neg other]
    rfl
  · exact openingPlace?_skip hbytes i _

/-- The search for the first `((` ends behind its bytes. -/
theorem openingPlace?_octets (cs : List Char) (i j : Nat) (bs : List UInt8) :
    openingPlace? i (octets cs) = some (j, bs) ↔
      ∃ front rest, Opens cs front rest ∧ j = i + (octets front).length + 2 ∧ bs = octets rest := by
  induction cs generalizing i with
  | nil =>
    constructor
    · intro h
      cases h
    · rintro ⟨front, rest, ⟨hsplit, -⟩, -⟩
      cases front <;> cases hsplit
  | cons c cs ih =>
    by_cases h : c = '(' ∧ cs.head? = some '('
    · obtain ⟨rfl, hhead⟩ := h
      obtain ⟨more, rfl⟩ := List.head?_eq_some_iff.mp hhead
      constructor
      · intro hplace
        cases hplace
        exact ⟨[], more, opens_of_mark.mpr ⟨rfl, rfl⟩, rfl, rfl⟩
      · rintro ⟨front, rest, hopens, rfl, rfl⟩
        obtain ⟨rfl, rfl⟩ := opens_of_mark.mp hopens
        rfl
    · rw [openingPlace?_cons h, ih]
      constructor
      · rintro ⟨tail, rest, htail, rfl, rfl⟩
        refine ⟨c :: tail, rest, (opens_cons h).mpr ⟨tail, rfl, htail⟩, ?_, rfl⟩
        rw [octets_cons, List.length_append, ← Nat.add_assoc i]
      · rintro ⟨front, rest, hopens, rfl, rfl⟩
        obtain ⟨tail, rfl, htail⟩ := (opens_cons h).mp hopens
        refine ⟨tail, rest, htail, ?_, rfl⟩
        rw [octets_cons, List.length_append, ← Nat.add_assoc i]

/-! ## The closing mark -/

/-- The byte of the open quote. -/
def Stand.quoteByte (s : Stand) : Option UInt8 := s.quote.map byteOf

theorem closingPlace?_skip {quote : Option UInt8} (hquote : ∀ q, quote = some q → q.toNat < 128)
    {bs : List UInt8} (h : ∀ b ∈ bs, 128 ≤ b.toNat) (depth i : Nat) (rest : List UInt8) :
    closingPlace? quote depth i (bs ++ rest) = closingPlace? quote depth (i + bs.length) rest := by
  induction bs generalizing i with
  | nil => rfl
  | cons b bs ih =>
    have hb := h b List.mem_cons_self
    have step : closingPlace? quote depth i (b :: (bs ++ rest))
        = closingPlace? quote depth (i + 1) (bs ++ rest) := by
      cases quote with
      | some q =>
        have other : b ≠ q := by
          rintro rfl
          have := hquote b rfl
          omega
        rw [closingPlace?, if_neg other]
      | none =>
        have single : b ≠ singleByte := ne_byteOf (d := '\'') hb (by decide)
        have double : b ≠ doubleByte := ne_byteOf (d := '"') hb (by decide)
        have opening : b ≠ openByte := ne_byteOf (d := '(') hb (by decide)
        have closing : b ≠ closeByte := ne_byteOf (d := ')') hb (by decide)
        simp [closingPlace?, single, double, opening, closing]
    rw [List.cons_append, step, ih fun d hd => h d (List.mem_cons_of_mem b hd), List.length_cons]
    congr 1
    omega

theorem closingPlace?_of_stops {s : Stand} {cs : List Char} (h : Stops s cs) (i : Nat) :
    closingPlace? s.quoteByte s.depth i (octets cs) = some i := by
  obtain ⟨rfl, back, rfl⟩ := h
  rfl

/-- The open quote is one byte. -/
theorem Stand.Quoting.low {s : Stand} (hs : s.Quoting) {q : Char} (hq : s.quote = some q) :
    q.toNat < 128 := by
  rcases hs q hq with rfl | rfl <;> decide

/-- A character of one byte is passed as the scanner of characters passes it. -/
theorem closingPlace?_short {s : Stand} (hs : s.Quoting) {c : Char} (hc : c.toNat < 128)
    {cs : List Char} (h : ¬ Stops s (c :: cs)) (i : Nat) :
    closingPlace? s.quoteByte s.depth i (byteOf c :: octets cs)
      = closingPlace? (s.pass c).quoteByte (s.pass c).depth (i + 1) (octets cs) := by
  obtain ⟨quote, depth⟩ := s
  cases quote with
  | some q =>
    simp only [Stand.quoteByte, Option.map_some, closingPlace?, Stand.pass,
      byteOf_inj hc (hs.low rfl)]
    split <;> rfl
  | none =>
    have single : byteOf c = singleByte ↔ c = '\'' := byteOf_inj hc (d := '\'') (by decide)
    have double : byteOf c = doubleByte ↔ c = '"' := byteOf_inj hc (d := '"') (by decide)
    have opening : byteOf c = openByte ↔ c = '(' := byteOf_inj hc (d := '(') (by decide)
    have closing : byteOf c = closeByte ↔ c = ')' := byteOf_inj hc (d := ')') (by decide)
    have next : (octets cs).head? = some closeByte ↔ cs.head? = some ')' :=
      head?_octets (d := ')') (by decide) cs
    simp only [Stand.quoteByte, Option.map_none, closingPlace?, single, double, opening, closing,
      next, Stand.pass]
    split
    · rfl
    · split
      · rfl
      · by_cases hr : c = ')'
        · subst hr
          cases depth with
          | succ depth => simp
          | zero =>
            have head : ¬ cs.head? = some ')' := by
              intro hhead
              obtain ⟨back, rfl⟩ := List.head?_eq_some_iff.mp hhead
              exact h ⟨rfl, back, rfl⟩
            simp [head]
        · simp [hr]

/-- A longer character changes nothing. -/
theorem Stand.Quoting.pass_long {s : Stand} (hs : s.Quoting) {c : Char} (hc : 128 ≤ c.toNat) :
    s.pass c = s := by
  have other : ∀ {d : Char}, d.toNat < 128 → c ≠ d := by
    rintro d hd rfl
    omega
  obtain ⟨quote, depth⟩ := s
  cases quote with
  | some q => simp [Stand.pass, other (hs.low rfl)]
  | none =>
    simp [Stand.pass, other (d := '\'') (by decide), other (d := '"') (by decide),
      other (d := '(') (by decide), other (d := ')') (by decide)]

theorem closingPlace?_cons {s : Stand} (hs : s.Quoting) {c : Char} {cs : List Char}
    (h : ¬ Stops s (c :: cs)) (i : Nat) :
    closingPlace? s.quoteByte s.depth i (octets (c :: cs))
      = closingPlace? (s.pass c).quoteByte (s.pass c).depth
          (i + (String.utf8EncodeChar c).length) (octets cs) := by
  rw [octets_cons]
  rcases encode_cases c with ⟨hc, hbytes⟩ | ⟨hc, hbytes⟩
  · rw [hbytes, List.singleton_append, ← byteOf]
    exact closingPlace?_short hs hc h i
  · rw [hs.pass_long hc]
    refine closingPlace?_skip (fun b hb => ?_) hbytes s.depth i (octets cs)
    obtain ⟨q, hq, rfl⟩ := Option.map_eq_some_iff.mp hb
    have := hs.low hq
    simp only [byteOf, UInt8.toNat_ofNat']
    omega

/-- The search for the end of a token ends where the scanner of characters stops. -/
theorem closingPlace?_octets (cs : List Char) : ∀ {s : Stand}, s.Quoting → ∀ i j : Nat,
    closingPlace? s.quoteByte s.depth i (octets cs) = some j ↔
      ∃ front, Ends s cs front ∧ j = i + (octets front).length := by
  induction cs with
  | nil =>
    intro s hs i j
    constructor
    · intro h
      cases h
    · rintro ⟨front, ⟨⟨back, hmark⟩, -, -⟩, -⟩
      cases front <;> cases hmark
  | cons c cs ih =>
    intro s hs i j
    by_cases h : Stops s (c :: cs)
    · rw [closingPlace?_of_stops h, Option.some.injEq]
      constructor
      · rintro rfl
        exact ⟨[], (ends_of_stops h).mpr rfl, rfl⟩
      · rintro ⟨front, hends, rfl⟩
        rw [(ends_of_stops h).mp hends]
        rfl
    · rw [closingPlace?_cons hs h, ih (hs.pass c)]
      constructor
      · rintro ⟨tail, hends, rfl⟩
        refine ⟨c :: tail, (ends_cons h).mpr ⟨tail, rfl, hends⟩, ?_⟩
        rw [octets_cons, List.length_append, Nat.add_assoc]
      · rintro ⟨front, hends, rfl⟩
        obtain ⟨tail, rfl, htail⟩ := (ends_cons h).mp hends
        refine ⟨tail, htail, ?_⟩
        rw [octets_cons, List.length_append, Nat.add_assoc]

end Token

end PageScript

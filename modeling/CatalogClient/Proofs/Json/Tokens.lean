import CatalogClient.Json.Scanner
import CatalogClient.Json.Writer

/-!
# Tokens read back

What the writer makes of a whole number and of a string is read back as the same number
(`scanNumber_toDigits`) and the same string (`scanString_quote`), up to where the token ends.
-/

namespace CatalogClient

namespace Json

/-! ## Numbers -/

/-- The text does not go on with a number. -/
def EndsNumber (text : List Char) : Prop :=
  ∀ c ∈ text.head?, c.isDigit = false ∧ c ≠ '.' ∧ c ≠ 'e' ∧ c ≠ 'E'

theorem endsNumber_nil : EndsNumber [] := fun _ h => nomatch h

theorem endsNumber_cons {c : Char} (rest : List Char)
    (h : c.isDigit = false ∧ c ≠ '.' ∧ c ≠ 'e' ∧ c ≠ 'E') : EndsNumber (c :: rest) := by
  intro d here
  obtain rfl := Option.some.inj here
  exact h

theorem isDigit_of_mem_toDigits {n : Nat} {c : Char} (h : c ∈ Nat.toDigits 10 n) :
    c.isDigit = true :=
  Nat.isDigit_of_mem_toDigits (by decide) (by decide) h

/-- Only zero starts with a zero. -/
theorem head?_toDigits_ne_zero {n : Nat} (h : n ≠ 0) : (Nat.toDigits 10 n).head? ≠ some '0' := by
  induction n using Nat.strongRecOn with
  | _ n ih =>
    rw [Nat.toDigits_eq_if (by decide)]
    split
    · simpa using h
    · have front := ih (n / 10) (by omega) (by omega)
      obtain ⟨c, digits, written⟩ := List.exists_cons_of_ne_nil
        (Nat.toDigits_ne_nil (n := n / 10) (b := 10))
      rw [written] at front ⊢
      exact front

theorem takeWhile_digits {digits rest : List Char} (h : ∀ c ∈ digits, c.isDigit = true)
    (ends : EndsNumber rest) :
    (digits ++ rest).takeWhile Char.isDigit = digits ∧
      (digits ++ rest).dropWhile Char.isDigit = rest := by
  rw [List.takeWhile_append_of_pos h, List.dropWhile_append_of_pos h]
  cases rest with
  | nil => simp
  | cons c rest =>
    have other := (ends c rfl).1
    simp [other]

theorem scanWhole_toDigits (n : Nat) {rest : List Char} (ends : EndsNumber rest) :
    scanWhole (Nat.toDigits 10 n ++ rest) = .ok (Nat.toDigits 10 n, rest) := by
  by_cases zero : n = 0
  · -- a zero stands alone
    subst zero
    rw [Nat.toDigits_zero]
    cases rest with
    | nil => rfl
    | cons c rest => simp [scanWhole, (ends c rfl).1]
  · obtain ⟨c, digits, written⟩ := List.exists_cons_of_ne_nil
      (Nat.toDigits_ne_nil (n := n) (b := 10))
    have first : c ≠ '0' := by
      have := head?_toDigits_ne_zero zero
      rw [written] at this
      simpa using this
    have all : ∀ d ∈ c :: digits, d.isDigit = true := by
      rw [← written]
      exact fun d => isDigit_of_mem_toDigits
    obtain ⟨taken, dropped⟩ :=
      takeWhile_digits (fun d mem => all d (List.mem_cons_of_mem _ mem)) ends
    rw [written, List.cons_append, scanWhole, if_pos (all c List.mem_cons_self), taken, dropped]
    exact first

theorem scanFraction_of_endsNumber {rest : List Char} (ends : EndsNumber rest) :
    scanFraction rest = .ok (none, rest) := by
  cases rest with
  | nil => rfl
  | cons c rest =>
    have := (ends c rfl).2.1
    simp [scanFraction, this]

theorem scanNumeral_toDigits (negative : Bool) (n : Nat) {rest : List Char}
    (ends : EndsNumber rest) :
    scanNumeral negative (Nat.toDigits 10 n ++ rest) =
      .ok (⟨negative, Nat.toDigits 10 n, none, none⟩, rest) := by
  simp only [scanNumeral, scanWhole_toDigits n ends, bind, Except.bind,
    scanFraction_of_endsNumber ends]
  cases rest with
  | nil => rfl
  | cons c rest =>
    obtain ⟨-, -, lower, upper⟩ := ends c rfl
    simp [lower, upper, pure, Except.pure]

/-- Digits that fit are weighed in full. -/
theorem weighWhole_of_lt {digits : List Char} {start : Nat}
    (h : Nat.ofDigitChars 10 digits start < significandEnd) :
    weighWhole (start, 0) digits = (Nat.ofDigitChars 10 digits start, 0) := by
  induction digits generalizing start with
  | nil => rfl
  | cons c digits ih =>
    have next : start * 10 + digitValue c = 10 * start + (c.toNat - '0'.toNat) := by
      rw [digitValue, Nat.mul_comm]
    rw [Nat.ofDigitChars_cons, ← next] at h ⊢
    -- more digits never make a number smaller
    have grows : start * 10 + digitValue c ≤
        Nat.ofDigitChars 10 digits (start * 10 + digitValue c) := by
      rw [Nat.ofDigitChars_eq_ofDigitChars_zero]
      have := Nat.le_mul_of_pos_left (start * 10 + digitValue c)
        (Nat.pow_pos (n := digits.length) (show 0 < 10 by decide))
      omega
    have fits : start * 10 + digitValue c < significandEnd := Nat.lt_of_le_of_lt grows h
    rw [weighWhole, if_pos (by simpa using fits)]
    exact ih h

theorem value_toDigits {negative : Bool} {n : Nat} (nonzero : negative = true → n ≠ 0)
    (fits : FitsWord (if negative then -(n : Int) else n)) :
    Numeral.value ⟨negative, Nat.toDigits 10 n, none, none⟩ =
      some (.whole (if negative then -(n : Int) else n) fits) := by
  have small : n < significandEnd := by
    obtain ⟨low, high⟩ := fits
    unfold significandEnd
    split at low <;> simp_all <;> omega
  have weighed : weighWhole (0, 0) (Nat.toDigits 10 n) = (n, 0) := by
    have fits : Nat.ofDigitChars 10 (Nat.toDigits 10 n) 0 < significandEnd := by
      rw [Nat.ofDigitChars_ten_toDigits]
      exact small
    rw [weighWhole_of_lt fits, Nat.ofDigitChars_ten_toDigits]
  simp only [Numeral.value, weighed]
  exact dif_pos ⟨trivial, nonzero, fits⟩

/-- A whole number is read back after its sign. -/
theorem scanNumber_toDigits (negative : Bool) {n : Nat} {rest : List Char}
    (nonzero : negative = true → n ≠ 0) (fits : FitsWord (if negative then -(n : Int) else n))
    (ends : EndsNumber rest) :
    scanNumber negative (Nat.toDigits 10 n ++ rest) =
      .ok (.whole (if negative then -(n : Int) else n) fits, rest) := by
  simp only [scanNumber, scanNumeral_toDigits negative n ends, bind, Except.bind,
    value_toDigits nonzero fits]
  rfl

/-! ## Strings -/

theorem four_le_octetCount (a b c d : Char) : 4 ≤ octetCount [a, b, c, d] := by
  have := a.utf8Size_pos
  have := b.utf8Size_pos
  have := c.utf8Size_pos
  have := d.utf8Size_pos
  simp only [octetCount]
  omega

theorem scanHex4_lowerHexDigit {n : Nat} (h : n < 256) (rest : List Char) :
    scanHex4 ('0' :: '0' :: lowerHexDigit (n / 16) :: lowerHexDigit (n % 16) :: rest) =
      .ok (n, rest) := by
  have enough := four_le_octetCount '0' '0' (lowerHexDigit (n / 16)) (lowerHexDigit (n % 16))
  have zero : hexValue? '0' = some 0 := rfl
  have value : ((0 * 16 + 0) * 16 + n / 16) * 16 + n % 16 = n := by omega
  simp only [scanHex4, List.take_succ_cons, List.take_zero, if_neg (Nat.not_lt.mpr enough), zero,
    hexValue?_lowerHexDigit (show n / 16 < 16 by omega),
    hexValue?_lowerHexDigit (show n % 16 < 16 by omega), value]

/-- The escape of a control character names it. -/
theorem scanEscape_control {c : Char} (h : c.toNat < 0x20) (rest : List Char) :
    scanEscape ('u' :: '0' :: '0' :: lowerHexDigit (c.toNat / 16) ::
      lowerHexDigit (c.toNat % 16) :: rest) = .ok (c, rest) := by
  simp only [scanEscape, scanHex4_lowerHexDigit (show c.toNat < 256 by omega), bind, Except.bind]
  rw [if_neg (by simp; omega), if_neg (by simp; omega), Char.ofNat_toNat]
  rfl

/-- A character after a backslash is read with the rest of the string. -/
theorem scanStringChars_escape {fuel : Nat} {c : Char} {text rest : List Char}
    (escape : scanEscape text = .ok (c, rest)) :
    scanStringChars (fuel + 1) ('\\' :: text) =
      (scanStringChars fuel rest).map fun p => (c :: p.1, p.2) := by
  rw [scanStringChars, if_neg (by decide), if_pos rfl, escape]
  show (scanStringChars fuel rest).bind _ = _
  cases scanStringChars fuel rest <;> rfl

/-- A character that needs no escape is read as it is. -/
theorem scanStringChars_plain {fuel : Nat} {c : Char} {rest : List Char} (quote : c ≠ '"')
    (backslash : c ≠ '\\') (shown : ¬ c.toNat < 0x20) :
    scanStringChars (fuel + 1) (c :: rest) =
      (scanStringChars fuel rest).map fun p => (c :: p.1, p.2) := by
  rw [scanStringChars, if_neg quote, if_neg backslash, if_neg shown]
  show (scanStringChars fuel rest).bind _ = _
  cases scanStringChars fuel rest <;> rfl

/-- One character of a string is read back, whether it is escaped or not. -/
theorem scanStringChars_escapeChar (fuel : Nat) (c : Char) (rest : List Char) :
    scanStringChars (fuel + 1) (escapeChar c ++ rest) =
      (scanStringChars fuel rest).map fun p => (c :: p.1, p.2) := by
  unfold escapeChar
  -- seven signs have an escape of their own
  iterate 7
    split
    next same => subst same; exact scanStringChars_escape rfl
  split
  · next control => exact scanStringChars_escape (scanEscape_control control rest)
  · next quote backslash _ _ _ _ _ shown => exact scanStringChars_plain quote backslash shown

theorem scanStringChars_escaped {fuel : Nat} {text : List Char} (enough : text.length < fuel)
    (rest : List Char) :
    scanStringChars fuel (text.flatMap escapeChar ++ '"' :: rest) = .ok (text, rest) := by
  induction text generalizing fuel with
  | nil =>
    obtain ⟨fuel, rfl⟩ := Nat.exists_eq_add_one_of_ne_zero (Nat.ne_zero_of_lt enough)
    rfl
  | cons c text ih =>
    obtain ⟨fuel, rfl⟩ := Nat.exists_eq_add_one_of_ne_zero (Nat.ne_zero_of_lt enough)
    rw [List.flatMap_cons, List.append_assoc, scanStringChars_escapeChar,
      ih (Nat.lt_of_succ_lt_succ enough)]
    rfl

/-- A string is read back after its opening quote. -/
theorem scanString_quote {fuel : Nat} {text : String} (enough : text.length < fuel)
    (rest : List Char) :
    scanString fuel (text.toList.flatMap escapeChar ++ '"' :: rest) = .ok (text, rest) := by
  have long : text.toList.length < fuel := by
    rw [String.length_toList]
    exact enough
  have read := scanStringChars_escaped long rest
  simp only [scanString, read, bind, Except.bind, String.ofList_toList]
  rfl

end Json

end CatalogClient

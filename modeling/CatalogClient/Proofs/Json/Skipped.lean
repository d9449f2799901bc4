import CatalogClient.Json.Structure
import Mathlib.Data.List.DropRight

/-!
# Tokens passed over

A number, a string or a word that is read can also be passed over, and what is left of the text is the
same (`skipNumber_of_scanNumber`, `skipString_of_scanString`). Whoever passes over something gets on in
the text, which is how fuel by the length of the text is always enough.
-/

namespace CatalogClient

namespace Json

/-- What a step of a reader that succeeds gives to the next one. -/
theorem bind_eq_ok {ε α β : Type} {x : Except ε α} {f : α → Except ε β} {b : β} :
    (x >>= f) = .ok b ↔ ∃ a, x = .ok a ∧ f a = .ok b := by
  cases x with
  | error e => simp [bind, Except.bind]
  | ok a => simp [bind, Except.bind]

theorem length_skipBlanks_le (text : List Char) : (skipBlanks text).length ≤ text.length :=
  (List.dropWhile_suffix _).length_le

theorem skipBlanks_skipBlanks (text : List Char) : skipBlanks (skipBlanks text) = skipBlanks text :=
  List.dropWhile_idempotent _ _

/-! ## Words -/

theorem length_le_of_scanWord {letters text rest : List Char}
    (read : scanWord letters text = .ok rest) : rest.length ≤ text.length := by
  induction letters generalizing text with
  | nil =>
    obtain rfl := Except.ok.inj read
    exact Nat.le_refl _
  | cons letter letters ih =>
    cases text with
    | nil => cases read
    | cons c text =>
      rw [scanWord] at read
      split at read
      next => exact Nat.le_succ_of_le (ih read)
      next => cases read

/-! ## Numbers -/

theorem scanExponentDigits_rest {negative significant : Bool} {soFar : Nat} {text rest : List Char}
    {exponent : NumeralExponent}
    (read : scanExponentDigits negative significant soFar text = .ok (exponent, rest)) :
    rest = text.dropWhile Char.isDigit := by
  induction text generalizing soFar with
  | nil => exact (Prod.mk.inj (Except.ok.inj read)).2.symm
  | cons c text ih =>
    rw [scanExponentDigits] at read
    split at read
    next digit =>
      rw [List.dropWhile_cons_of_pos digit]
      dsimp only at read
      split at read
      next =>
        split at read
        next => cases read
        next => exact (Prod.mk.inj (Except.ok.inj read)).2.symm
      next => exact ih read
    next other =>
      rw [List.dropWhile_cons_of_neg other]
      exact (Prod.mk.inj (Except.ok.inj read)).2.symm

/-- The digits of an exponent, behind its sign if it has one. -/
def exponentDigits : List Char → List Char
  | '+' :: digits => digits
  | '-' :: digits => digits
  | digits => digits

theorem length_exponentDigits_le (text : List Char) :
    (exponentDigits text).length ≤ text.length := by
  unfold exponentDigits
  split <;> simp

/-- Passes over a point with the digits after it, if there is one. -/
def skipFraction : List Char → Except Fault (List Char)
  | '.' :: digits =>
    if (digits.head?.map Char.isDigit).getD false then .ok (digits.dropWhile Char.isDigit)
    else stopAfterNext .badNumber digits
  | rest => .ok rest

/-- Passes over an exponent with its mark, if there is one. -/
def skipExponent (text : List Char) : Except Fault (List Char) :=
  match text with
  | mark :: more =>
    if mark = 'e' || mark = 'E' then
      let digits := exponentDigits more
      if (digits.head?.map Char.isDigit).getD false then .ok (digits.dropWhile Char.isDigit)
      else stopAfterNext .badNumber digits
    else .ok text
  | [] => .ok []

theorem skipNumber_cons (c : Char) (text : List Char) :
    skipNumber (c :: text) =
      (scanWhole (c :: text)).map Prod.snd >>= fun rest => skipFraction rest >>= skipExponent := by
  unfold skipNumber
  refine congrArg _ (funext fun rest => ?_)
  dsimp only
  split
  next digits =>
    rw [skipFraction]
    split <;> rfl
  next other =>
    rw [skipFraction]
    · rfl
    · exact other

theorem scanExponent_eq (significant : Bool) (text : List Char) :
    ∃ negative, scanExponent significant text = match exponentDigits text with
      | [] => stopAt .endInValue []
      | c :: rest =>
        if c.isDigit then scanExponentDigits negative significant (digitValue c) rest
        else stopAfterNext .badNumber (c :: rest) := by
  cases text with
  | nil => exact ⟨false, rfl⟩
  | cons c rest =>
    by_cases plus : c = '+'
    · subst plus
      exact ⟨false, rfl⟩
    by_cases minus : c = '-'
    · subst minus
      exact ⟨true, rfl⟩
    · exact ⟨false, by simp [scanExponent, exponentDigits, plus, minus]⟩

/-- An exponent has a digit, and what is left behind it is what its digits leave. -/
theorem skipExponent_of_scanExponent {significant : Bool} {mark : Char} {text rest : List Char}
    {exponent : NumeralExponent} (marked : mark = 'e' ∨ mark = 'E')
    (read : scanExponent significant text = .ok (exponent, rest)) :
    skipExponent (mark :: text) = .ok rest := by
  obtain ⟨negative, same⟩ := scanExponent_eq significant text
  have marked : (mark = 'e' || mark = 'E') = true := by simpa using marked
  rw [skipExponent, if_pos marked]
  rw [same] at read
  cases behind : exponentDigits text with
  | nil => rw [behind] at read; cases read
  | cons c digits =>
    simp only [behind] at read
    split at read
    next digit =>
      have some_digit : (((c :: digits).head?.map Char.isDigit).getD false) = true := digit
      rw [if_pos some_digit, List.dropWhile_cons_of_pos digit, scanExponentDigits_rest read]
    next => cases read

theorem skipFraction_of_scanFraction {text rest : List Char} {fraction : Option (List Char)}
    (read : scanFraction text = .ok (fraction, rest)) : skipFraction text = .ok rest := by
  unfold scanFraction at read
  split at read
  next digits =>
    split at read
    next digit =>
      cases read
      rw [skipFraction, if_pos digit]
    next => split at read <;> cases read
  next other =>
    cases read
    rw [skipFraction]
    exact other

theorem scanNumeral_inv {negative : Bool} {text rest : List Char} {numeral : Numeral}
    (read : scanNumeral negative text = .ok (numeral, rest)) :
    ∃ whole behind fraction behind', scanWhole text = .ok (whole, behind) ∧
      scanFraction behind = .ok (fraction, behind') ∧
      (rest = behind' ∧ (∀ c ∈ behind'.head?, c ≠ 'e' ∧ c ≠ 'E') ∨
        ∃ mark digits significant exponent, behind' = mark :: digits ∧ (mark = 'e' ∨ mark = 'E') ∧
          scanExponent significant digits = .ok (exponent, rest)) := by
  obtain ⟨⟨whole, behind⟩, scanned, read⟩ := bind_eq_ok.mp read
  obtain ⟨⟨fraction, behind'⟩, scanned', read⟩ := bind_eq_ok.mp read
  refine ⟨whole, behind, fraction, behind', scanned, scanned', ?_⟩
  cases behind' with
  | nil =>
    cases read
    exact .inl ⟨rfl, fun _ h => nomatch h⟩
  | cons mark digits =>
    dsimp only at read
    split at read
    next marked =>
      simp only [Bool.or_eq_true, decide_eq_true_eq] at marked
      obtain ⟨⟨exponent, behind⟩, scanned, read⟩ := bind_eq_ok.mp read
      cases read
      exact .inr ⟨mark, digits, _, exponent, rfl, marked, scanned⟩
    next plain =>
      simp only [Bool.or_eq_true, decide_eq_true_eq, not_or] at plain
      cases read
      refine .inl ⟨rfl, fun c h => ?_⟩
      obtain rfl := Option.some.inj h
      exact plain

/-- A number that is read can be passed over. -/
theorem skipNumber_of_scanNumber {negative : Bool} {text rest : List Char} {n : JsonNumber}
    (read : scanNumber negative text = .ok (n, rest)) : skipNumber text = .ok rest := by
  obtain ⟨⟨numeral, behind⟩, scanned, read⟩ := bind_eq_ok.mp read
  have same : behind = rest := by
    dsimp only at read
    split at read
    next => cases read; rfl
    next => cases read
  subst same
  obtain ⟨whole, behind₁, fraction, behind₂, whole_read, fraction_read, ends⟩ :=
    scanNumeral_inv scanned
  cases text with
  | nil => cases whole_read
  | cons c text =>
    rw [skipNumber_cons, whole_read]
    show skipFraction behind₁ >>= skipExponent = _
    rw [skipFraction_of_scanFraction fraction_read]
    show skipExponent behind₂ = _
    rcases ends with ⟨rfl, plain⟩ | ⟨mark, digits, significant, exponent, rfl, marked, scanned⟩
    · cases behind with
      | nil => rfl
      | cons mark more =>
        have unmarked : ¬ (mark = 'e' || mark = 'E') = true := by simpa using plain mark rfl
        rw [skipExponent, if_neg unmarked]
    · exact skipExponent_of_scanExponent marked scanned

theorem length_lt_of_scanWhole {text digits rest : List Char}
    (read : scanWhole text = .ok (digits, rest)) : rest.length < text.length := by
  unfold scanWhole at read
  split at read
  next => cases read
  next =>
    split at read
    next => cases read
    next =>
      cases read
      exact Nat.lt_succ_self _
  next c text _ =>
    split at read
    next =>
      cases read
      exact Nat.lt_succ_of_le (List.dropWhile_suffix _).length_le
    next => cases read

theorem length_le_of_skipFraction {text rest : List Char} (passed : skipFraction text = .ok rest) :
    rest.length ≤ text.length := by
  unfold skipFraction at passed
  split at passed
  next =>
    split at passed
    next =>
      cases passed
      exact Nat.le_succ_of_le (List.dropWhile_suffix _).length_le
    next => cases passed
  next =>
    cases passed
    exact Nat.le_refl _

theorem length_le_of_skipExponent {text rest : List Char} (passed : skipExponent text = .ok rest) :
    rest.length ≤ text.length := by
  unfold skipExponent at passed
  split at passed
  next mark more =>
    split at passed
    next =>
      dsimp only at passed
      split at passed
      next =>
        cases passed
        have := length_exponentDigits_le more
        exact Nat.le_succ_of_le (Nat.le_trans (List.dropWhile_suffix _).length_le this)
      next => cases passed
    next =>
      cases passed
      exact Nat.le_refl _
  next =>
    cases passed
    exact Nat.le_refl _

theorem length_lt_of_skipNumber {text rest : List Char} (passed : skipNumber text = .ok rest) :
    rest.length < text.length := by
  cases text with
  | nil => cases passed
  | cons c text =>
    rw [skipNumber_cons] at passed
    obtain ⟨behind, whole, passed⟩ := bind_eq_ok.mp passed
    obtain ⟨behind', fraction, exponent⟩ := bind_eq_ok.mp passed
    cases read : scanWhole (c :: text) with
    | error fault => rw [read] at whole; cases whole
    | ok digits =>
      rw [read] at whole
      cases whole
      have := length_lt_of_scanWhole read
      have := length_le_of_skipFraction fraction
      have := length_le_of_skipExponent exponent
      omega

/-! ## Strings -/

theorem length_le_of_scanHex4 {text rest : List Char} {n : Nat}
    (read : scanHex4 text = .ok (n, rest)) : rest.length ≤ text.length := by
  unfold scanHex4 at read
  split at read
  next => cases read
  next =>
    split at read
    next =>
      split at read
      next =>
        cases read
        simp only [List.length_cons]
        omega
      next => cases read
    next => cases read

theorem length_lt_of_skipEscape {text rest : List Char} (passed : skipEscape text = .ok rest) :
    rest.length < text.length := by
  unfold skipEscape at passed
  split at passed
  next => cases passed
  next =>
    obtain ⟨⟨unit, behind⟩, read, passed⟩ := bind_eq_ok.mp passed
    cases passed
    exact Nat.lt_succ_of_le (length_le_of_scanHex4 read)
  next =>
    split at passed
    next =>
      cases passed
      exact Nat.lt_succ_self _
    next => cases passed

theorem skipEscape_unit {text rest : List Char} {unit : Nat}
    (read : scanHex4 text = .ok (unit, rest)) : skipEscape ('u' :: text) = .ok rest := by
  rw [skipEscape, read]
  rfl

/-- An escape that is read is passed over as one, or as two if it is a surrogate pair. -/
theorem skipEscape_of_scanEscape {text rest : List Char} {c : Char}
    (read : scanEscape text = .ok (c, rest)) :
    skipEscape text = .ok rest ∨
      ∃ second, skipEscape text = .ok ('\\' :: second) ∧ skipEscape second = .ok rest := by
  have plain : ∀ {a d : Char} {text : List Char},
      ['"', '\\', '/', 'b', 'f', 'n', 'r', 't'].contains d = true → d ≠ 'u' →
      (.ok (a, text) : Except Fault _) = .ok (c, rest) → skipEscape (d :: text) = .ok rest := by
    intro a d text among other same
    cases same
    rw [skipEscape, if_pos among]
    exact other
  unfold scanEscape at read
  split at read
  next => cases read
  -- eight escapes of one sign each
  iterate 8 next => exact .inl (plain (by decide) (by decide) read)
  next text =>
    obtain ⟨⟨unit, behind⟩, first, read⟩ := bind_eq_ok.mp read
    have passed := skipEscape_unit first
    dsimp only at read
    split at read
    next => cases read
    split at read
    next =>
      -- the first half of a pair asks for the second
      unfold scanLowSurrogate at read
      split at read
      next => cases read
      next => cases read
      next second =>
        obtain ⟨⟨low, behind⟩, second_read, read⟩ := bind_eq_ok.mp read
        dsimp only at read
        split at read
        next =>
          obtain ⟨-, rfl⟩ := Prod.mk.inj (Except.ok.inj read)
          exact .inr ⟨_, passed, skipEscape_unit second_read⟩
        next => cases read
      next => cases read
      next => cases read
    next =>
      cases read
      exact .inl passed
  next => cases read

theorem skipString_backslash {fuel : Nat} {text rest : List Char}
    (passed : skipEscape text = .ok rest) :
    skipString (fuel + 1) ('\\' :: text) = skipString fuel rest := by
  rw [skipString, if_neg (by decide), if_pos rfl, passed]
  rfl

/-- A string that is read can be passed over. It takes more fuel, one for each escape, and so at most
one for each character of the text. -/
theorem skipString_of_scanStringChars {n m : Nat} {text chars rest : List Char}
    (read : scanStringChars n text = .ok (chars, rest)) (enough : text.length < m) :
    skipString m text = .ok rest := by
  induction n generalizing text chars m with
  | zero => cases read
  | succ n ih =>
    obtain ⟨m, rfl⟩ := Nat.exists_eq_add_one_of_ne_zero (Nat.ne_zero_of_lt enough)
    cases text with
    | nil => cases read
    | cons c text =>
      rw [List.length_cons] at enough
      rw [scanStringChars] at read
      split at read
      next quote =>
        cases read
        rw [skipString, if_pos quote]
      next no_quote =>
      split at read
      next backslash =>
        subst backslash
        obtain ⟨⟨first, behind⟩, escape, read⟩ := bind_eq_ok.mp read
        obtain ⟨⟨more, behind'⟩, read, last⟩ := bind_eq_ok.mp read
        cases last
        rcases skipEscape_of_scanEscape escape with one | ⟨second, one, two⟩
        · have := length_lt_of_skipEscape one
          rw [skipString_backslash one]
          exact ih read (by omega)
        · have longer := length_lt_of_skipEscape one
          have := length_lt_of_skipEscape two
          rw [List.length_cons] at longer
          obtain ⟨m, rfl⟩ : ∃ k, m = k + 1 :=
            Nat.exists_eq_add_one_of_ne_zero (Nat.ne_zero_of_lt (Nat.lt_of_succ_lt_succ enough))
          rw [skipString_backslash one, skipString_backslash two]
          exact ih read (by omega)
      next no_backslash =>
      split at read
      next => cases read
      next shown =>
        obtain ⟨⟨more, behind⟩, read, last⟩ := bind_eq_ok.mp read
        cases last
        rw [skipString, if_neg no_quote, if_neg no_backslash, if_neg shown]
        exact ih read (by omega)

theorem skipString_of_scanString {n m : Nat} {text rest : List Char} {string : String}
    (read : scanString n text = .ok (string, rest)) (enough : text.length < m) :
    skipString m text = .ok rest := by
  obtain ⟨⟨chars, behind⟩, read, last⟩ := bind_eq_ok.mp read
  cases last
  exact skipString_of_scanStringChars read enough

theorem length_lt_of_skipString {m : Nat} {text rest : List Char}
    (passed : skipString m text = .ok rest) : rest.length < text.length := by
  induction m generalizing text with
  | zero => cases passed
  | succ m ih =>
    cases text with
    | nil => cases passed
    | cons c text =>
      rw [skipString] at passed
      rw [List.length_cons]
      split at passed
      next =>
        cases passed
        exact Nat.lt_succ_self _
      next =>
      split at passed
      next =>
        obtain ⟨behind, escape, passed⟩ := bind_eq_ok.mp passed
        have := length_lt_of_skipEscape escape
        have := ih passed
        omega
      next =>
      split at passed
      next => cases passed
      next => exact Nat.lt_succ_of_lt (ih passed)

theorem length_lt_of_scanString {n : Nat} {text rest : List Char} {string : String}
    (read : scanString n text = .ok (string, rest)) : rest.length < text.length :=
  length_lt_of_skipString (skipString_of_scanString read (Nat.lt_succ_self _))

/-- More fuel than it takes to read a string makes no difference. -/
theorem scanStringChars_succ {n : Nat} {text : List Char} {x : List Char × List Char}
    (read : scanStringChars n text = .ok x) : scanStringChars (n + 1) text = .ok x := by
  induction n generalizing text x with
  | zero => cases read
  | succ n ih =>
    cases text with
    | nil => cases read
    | cons c text =>
      rw [scanStringChars] at read ⊢
      split at read
      next quote =>
        rw [if_pos quote]
        exact read
      next no_quote =>
      rw [if_neg no_quote]
      split at read
      next backslash =>
        obtain ⟨⟨first, behind⟩, escape, read⟩ := bind_eq_ok.mp read
        obtain ⟨⟨more, behind'⟩, read, last⟩ := bind_eq_ok.mp read
        rw [if_pos backslash]
        exact bind_eq_ok.mpr ⟨_, escape, bind_eq_ok.mpr ⟨_, ih read, last⟩⟩
      next no_backslash =>
      rw [if_neg no_backslash]
      split at read
      next => cases read
      next shown =>
        obtain ⟨⟨more, behind⟩, read, last⟩ := bind_eq_ok.mp read
        rw [if_neg shown]
        exact bind_eq_ok.mpr ⟨_, ih read, last⟩

theorem scanString_succ {n : Nat} {text : List Char} {x : String × List Char}
    (read : scanString n text = .ok x) : scanString (n + 1) text = .ok x := by
  obtain ⟨⟨chars, behind⟩, read, last⟩ := bind_eq_ok.mp read
  exact bind_eq_ok.mpr ⟨_, scanStringChars_succ read, last⟩

end Json

end CatalogClient

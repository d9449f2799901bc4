import CatalogClient.Proofs.Json.Skipped
import CatalogClient.Proofs.Json.Tokens

/-!
# The grammar of documents

Which texts are numbers, strings and values, said without a reader: a value may nest as deep as it
likes, its numbers may be out of range, and its strings may hold halves of surrogate pairs. What a
string spells is a relation of its own (`SpellsText`), since not every string spells a text.

Numbers and strings of this form are passed over (`skipNumber_of_isUnsigned`,
`skipString_of_isInside`), and a string that spells a text is read as that text and no other
(`scanStringChars_of_spells`, `spells_of_scanStringChars`).
-/

namespace CatalogClient

namespace Json

/-! ## Numbers -/

def IsDigits (text : List Char) : Prop := ∀ c ∈ text, c.isDigit = true

/-- Digits before the point: a zero stands alone. -/
inductive IsWhole : List Char → Prop
  | zero : IsWhole ['0']
  | digits {c : Char} {more : List Char} : c.isDigit = true → c ≠ '0' → IsDigits more →
    IsWhole (c :: more)

/-- A point with digits after it, or nothing. -/
inductive IsFraction : List Char → Prop
  | none : IsFraction []
  | digits {c : Char} {more : List Char} : IsDigits (c :: more) → IsFraction ('.' :: c :: more)

/-- An exponent with its mark and perhaps a sign, or nothing. -/
inductive IsExponent : List Char → Prop
  | none : IsExponent []
  | digits {mark c : Char} {sign more : List Char} : mark = 'e' ∨ mark = 'E' →
    sign ∈ [[], ['+'], ['-']] → IsDigits (c :: more) → IsExponent (mark :: (sign ++ c :: more))

/-- A number after its sign. -/
inductive IsUnsigned : List Char → Prop
  | intro {whole fraction exponent : List Char} : IsWhole whole → IsFraction fraction →
    IsExponent exponent → IsUnsigned (whole ++ (fraction ++ exponent))

inductive IsNumber : List Char → Prop
  | plain {text : List Char} : IsUnsigned text → IsNumber text
  | negative {text : List Char} : IsUnsigned text → IsNumber ('-' :: text)

section Numbers
variable {text rest whole fraction exponent digits : List Char}

/-- The text does not go on with a digit. -/
def EndsDigits (text : List Char) : Prop := ∀ c ∈ text.head?, c.isDigit = false

theorem EndsNumber.endsDigits (ends : EndsNumber rest) : EndsDigits rest := fun c h => (ends c h).1

theorem span_digits (all : IsDigits digits) (ends : EndsDigits rest) :
    (digits ++ rest).takeWhile Char.isDigit = digits ∧
      (digits ++ rest).dropWhile Char.isDigit = rest := by
  rw [List.takeWhile_append_of_pos all, List.dropWhile_append_of_pos all]
  cases rest with
  | nil => simp
  | cons c rest => simp [ends c rfl]

theorem scanWhole_of_isWhole (is_whole : IsWhole whole) (ends : EndsDigits rest) :
    scanWhole (whole ++ rest) = .ok (whole, rest) := by
  cases is_whole with
  | zero =>
    cases rest with
    | nil => rfl
    | cons c rest => simp [scanWhole, ends c rfl]
  | @digits c more digit nonzero all =>
    obtain ⟨taken, dropped⟩ := span_digits all ends
    rw [List.cons_append, scanWhole, if_pos digit, taken, dropped]
    exact nonzero

/-- The digits of a fraction, if there is one. -/
def fractionDigits : List Char → Option (List Char)
  | [] => none
  | _ :: digits => some digits

theorem scanFraction_of_isFraction (is_fraction : IsFraction fraction) (ends : EndsDigits rest)
    (no_point : ∀ c ∈ rest.head?, c ≠ '.') :
    scanFraction (fraction ++ rest) = .ok (fractionDigits fraction, rest) := by
  cases is_fraction with
  | none =>
    cases rest with
    | nil => rfl
    | cons c rest => simp [scanFraction, fractionDigits, no_point c rfl]
  | @digits c more all =>
    obtain ⟨taken, dropped⟩ := span_digits all ends
    rw [List.cons_append] at taken dropped
    have digit : (((c :: (more ++ rest)).head?.map Char.isDigit).getD false) = true :=
      all c List.mem_cons_self
    rw [List.cons_append, List.cons_append, scanFraction, if_pos digit, taken, dropped,
      fractionDigits]
    simp

/-- What stands behind a fraction is no digit and no point. -/
theorem ends_exponent (is_exponent : IsExponent exponent) (ends : EndsNumber rest) :
    EndsDigits (exponent ++ rest) ∧ ∀ c ∈ (exponent ++ rest).head?, c ≠ '.' := by
  cases is_exponent with
  | none => exact ⟨ends.endsDigits, fun c h => (ends c h).2.1⟩
  | digits marked _ _ =>
    constructor <;> intro c h <;> obtain rfl := Option.some.inj h <;>
      rcases marked with rfl | rfl <;> decide

/-- What stands behind the digits before the point is no digit. -/
theorem endsDigits_fraction (is_fraction : IsFraction fraction) (ends : EndsDigits rest) :
    EndsDigits (fraction ++ rest) := by
  cases is_fraction with
  | none => exact ends
  | digits _ =>
    intro c h
    obtain rfl := Option.some.inj h
    decide

theorem skipExponent_of_isExponent (is_exponent : IsExponent exponent) (ends : EndsNumber rest) :
    skipExponent (exponent ++ rest) = .ok rest := by
  cases is_exponent with
  | none =>
    cases rest with
    | nil => rfl
    | cons c rest =>
      obtain ⟨-, -, lower, upper⟩ := ends c rfl
      simp [skipExponent, lower, upper]
  | @digits mark c sign more marked signed all =>
    have marked : (mark = 'e' || mark = 'E') = true := by simpa using marked
    have digit : c.isDigit = true := all c List.mem_cons_self
    have behind : exponentDigits (sign ++ c :: (more ++ rest)) = c :: (more ++ rest) := by
      have no_sign : c ≠ '+' ∧ c ≠ '-' := by
        constructor <;> rintro rfl <;> exact absurd digit (by decide)
      simp only [List.mem_cons, List.not_mem_nil, or_false] at signed
      rcases signed with rfl | rfl | rfl
      · simp [exponentDigits, no_sign]
      · rfl
      · rfl
    have dropped := (span_digits all ends.endsDigits).2
    rw [List.cons_append] at dropped
    rw [List.cons_append, List.append_assoc, List.cons_append, skipExponent, if_pos marked, behind]
    have some_digit : (((c :: (more ++ rest)).head?.map Char.isDigit).getD false) = true := digit
    rw [if_pos some_digit, dropped]

theorem isUnsigned_of_isWhole (is_whole : IsWhole text) : IsUnsigned text := by
  have pieces := IsUnsigned.intro is_whole .none .none
  rwa [List.append_nil, List.append_nil] at pieces

theorem skipNumber_of_isUnsigned (number : IsUnsigned text) (ends : EndsNumber rest) :
    skipNumber (text ++ rest) = .ok rest := by
  obtain ⟨is_whole, is_fraction, is_exponent⟩ := number
  rename_i whole fraction exponent
  obtain ⟨no_digit, no_point⟩ := ends_exponent is_exponent ends
  have scanned := scanWhole_of_isWhole is_whole (endsDigits_fraction is_fraction no_digit)
  obtain ⟨c, more, same⟩ : ∃ c more, whole = c :: more := by cases is_whole <;> exact ⟨_, _, rfl⟩
  have passed : skipFraction (fraction ++ (exponent ++ rest)) = .ok (exponent ++ rest) :=
    skipFraction_of_scanFraction (scanFraction_of_isFraction is_fraction no_digit no_point)
  rw [List.append_assoc, List.append_assoc]
  subst same
  rw [List.cons_append, skipNumber_cons, ← List.cons_append, scanned]
  show skipFraction _ >>= skipExponent = _
  rw [passed]
  exact skipExponent_of_isExponent is_exponent ends

end Numbers

/-! ## Strings -/

/-- The escapes of one sign after the backslash, with what they stand for. -/
def shortEscapes : List (Char × Char) :=
  [('"', '"'), ('\\', '\\'), ('/', '/'), ('b', '\x08'), ('f', '\x0c'), ('n', '\n'), ('r', '\r'),
    ('t', '\t')]

/-- Four hexadecimal digits and the number that they make. -/
inductive SpellsUnit : List Char → Nat → Prop
  | digits {a b c d : Char} {x y z u : Nat} : hexValue? a = some x → hexValue? b = some y →
    hexValue? c = some z → hexValue? d = some u →
    SpellsUnit [a, b, c, d] (((x * 16 + y) * 16 + z) * 16 + u)

/-- A character that stands for itself. -/
def IsPlain (c : Char) : Prop := c ≠ '"' ∧ c ≠ '\\' ∧ ¬ c.toNat < 0x20

/-- What stands between the quotes of a string. -/
inductive IsInside : List Char → Prop
  | nil : IsInside []
  | plain {c : Char} {more : List Char} : IsPlain c → IsInside more → IsInside (c :: more)
  | short {mark c : Char} {more : List Char} : (mark, c) ∈ shortEscapes → IsInside more →
    IsInside ('\\' :: mark :: more)
  | unit {digits more : List Char} {n : Nat} : SpellsUnit digits n → IsInside more →
    IsInside ('\\' :: 'u' :: (digits ++ more))

/-- What one character of a string can be written as. -/
inductive SpellsChar : List Char → Char → Prop
  | plain {c : Char} : IsPlain c → SpellsChar [c] c
  | short {mark c : Char} : (mark, c) ∈ shortEscapes → SpellsChar ['\\', mark] c
  | unit {digits : List Char} {n : Nat} : SpellsUnit digits n → n < 0xD800 ∨ 0xDFFF < n →
    SpellsChar ('\\' :: 'u' :: digits) (Char.ofNat n)
  /-- Two halves make one character past the first 2 ^ 16. -/
  | pair {digits digits' : List Char} {high low : Nat} : SpellsUnit digits high →
    0xD800 ≤ high ∧ high ≤ 0xDBFF → SpellsUnit digits' low → 0xDC00 ≤ low ∧ low ≤ 0xDFFF →
    SpellsChar ('\\' :: 'u' :: (digits ++ '\\' :: 'u' :: digits'))
      (Char.ofNat ((high - 0xD800) * 0x400 + (low - 0xDC00) + 0x10000))

/-- What a text can be written as between quotes. -/
inductive SpellsText : List Char → List Char → Prop
  | nil : SpellsText [] []
  | cons {written more chars : List Char} {c : Char} : SpellsChar written c →
    SpellsText more chars → SpellsText (written ++ more) (c :: chars)

section Strings
variable {text rest digits inside chars written : List Char} {fuel n : Nat} {c mark : Char}

theorem scanHex4_of_spellsUnit (unit : SpellsUnit digits n) (rest : List Char) :
    scanHex4 (digits ++ rest) = .ok (n, rest) := by
  cases unit with
  | @digits a b c d x y z u first second third fourth =>
    have enough := four_le_octetCount a b c d
    simp only [List.cons_append, List.nil_append, scanHex4, List.take_succ_cons, List.take_zero,
      if_neg (Nat.not_lt.mpr enough), first, second, third, fourth]

theorem spellsUnit_of_scanHex4 (read : scanHex4 text = .ok (n, rest)) :
    ∃ digits, text = digits ++ rest ∧ SpellsUnit digits n := by
  unfold scanHex4 at read
  split at read
  next => cases read
  next =>
    split at read
    next a b c d behind _ =>
      split at read
      next first second third fourth =>
        cases read
        exact ⟨[a, b, c, d], rfl, .digits first second third fourth⟩
      next => cases read
    next => cases read

/-! ### Strings passed over -/

theorem skipEscape_short (short : (mark, c) ∈ shortEscapes) (rest : List Char) :
    skipEscape (mark :: rest) = .ok rest := by
  simp only [shortEscapes, List.mem_cons, Prod.mk.injEq, List.not_mem_nil, or_false] at short
  rcases short with ⟨rfl, -⟩ | ⟨rfl, -⟩ | ⟨rfl, -⟩ | ⟨rfl, -⟩ | ⟨rfl, -⟩ | ⟨rfl, -⟩ | ⟨rfl, -⟩ |
    ⟨rfl, -⟩ <;> rfl

theorem skipString_of_isInside (is_inside : IsInside inside) (enough : inside.length < fuel)
    (rest : List Char) : skipString fuel (inside ++ '"' :: rest) = .ok rest := by
  induction is_inside generalizing fuel with
  | nil =>
    obtain ⟨fuel, rfl⟩ := Nat.exists_eq_add_one_of_ne_zero (Nat.ne_zero_of_lt enough)
    rfl
  | @plain c more plain _ ih =>
    obtain ⟨fuel, rfl⟩ := Nat.exists_eq_add_one_of_ne_zero (Nat.ne_zero_of_lt enough)
    obtain ⟨no_quote, no_backslash, shown⟩ := plain
    rw [List.cons_append, skipString, if_neg no_quote, if_neg no_backslash, if_neg shown]
    exact ih (Nat.lt_of_succ_lt_succ enough)
  | @short mark c more short _ ih =>
    obtain ⟨fuel, rfl⟩ := Nat.exists_eq_add_one_of_ne_zero (Nat.ne_zero_of_lt enough)
    simp only [List.length_cons] at enough
    rw [List.cons_append, List.cons_append, skipString_backslash (skipEscape_short short _)]
    exact ih (by omega)
  | @unit digits more n unit _ ih =>
    obtain ⟨fuel, rfl⟩ := Nat.exists_eq_add_one_of_ne_zero (Nat.ne_zero_of_lt enough)
    simp only [List.length_cons, List.length_append] at enough
    have passed := skipEscape_unit (scanHex4_of_spellsUnit unit (more ++ '"' :: rest))
    rw [List.cons_append, List.cons_append, List.append_assoc, skipString_backslash passed]
    exact ih (by omega)

theorem IsInside.append {more : List Char} (is_inside : IsInside inside) (later : IsInside more) :
    IsInside (inside ++ more) := by
  induction is_inside with
  | nil => exact later
  | plain plain _ ih => exact .plain plain ih
  | short short _ ih => exact .short short ih
  | unit unit _ ih =>
    rw [List.cons_append, List.cons_append, List.append_assoc]
    exact .unit unit ih

theorem SpellsChar.isInside (spells : SpellsChar written c) : IsInside written := by
  cases spells with
  | plain plain => exact .plain plain .nil
  | short short => exact .short short .nil
  | @unit digits n unit _ =>
    rw [← List.append_nil digits]
    exact .unit unit .nil
  | @pair digits digits' high low unit _ unit' _ =>
    rw [← List.append_nil digits']
    exact .unit unit (.unit unit' .nil)

theorem SpellsText.isInside (spells : SpellsText text chars) : IsInside text := by
  induction spells with
  | nil => exact .nil
  | cons spells _ ih => exact spells.isInside.append ih

theorem SpellsText.length_le (spells : SpellsText text chars) : chars.length ≤ text.length := by
  induction spells with
  | nil => exact Nat.le_refl _
  | @cons written more chars c spells _ ih =>
    have : 0 < written.length := by cases spells <;> simp
    simp only [List.length_cons, List.length_append]
    omega

/-! ### Strings read -/

/-- Signs that stand for themselves spell themselves. -/
theorem spellsText_of_plain (plain : ∀ c ∈ chars, IsPlain c) : SpellsText chars chars := by
  induction chars with
  | nil => exact .nil
  | cons c chars ih =>
    exact .cons (.plain (plain c List.mem_cons_self))
      (ih fun c mem => plain c (List.mem_cons_of_mem _ mem))

theorem scanEscape_short (short : (mark, c) ∈ shortEscapes) (rest : List Char) :
    scanEscape (mark :: rest) = .ok (c, rest) := by
  simp only [shortEscapes, List.mem_cons, Prod.mk.injEq, List.not_mem_nil, or_false] at short
  rcases short with ⟨rfl, rfl⟩ | ⟨rfl, rfl⟩ | ⟨rfl, rfl⟩ | ⟨rfl, rfl⟩ | ⟨rfl, rfl⟩ | ⟨rfl, rfl⟩ |
    ⟨rfl, rfl⟩ | ⟨rfl, rfl⟩ <;> rfl

/-- One character of a string is read in whatever way it is written. -/
theorem scanStringChars_of_spellsChar (spells : SpellsChar written c) (rest : List Char) :
    scanStringChars (fuel + 1) (written ++ rest) =
      (scanStringChars fuel rest).map fun p => (c :: p.1, p.2) := by
  cases spells with
  | plain plain =>
    obtain ⟨no_quote, no_backslash, shown⟩ := plain
    exact scanStringChars_plain no_quote no_backslash shown
  | short short => exact scanStringChars_escape (scanEscape_short short rest)
  | @unit digits n unit alone =>
    have escape : scanEscape ('u' :: (digits ++ rest)) = .ok (Char.ofNat n, rest) := by
      simp only [scanEscape, scanHex4_of_spellsUnit unit, bind, Except.bind]
      rw [if_neg (by simp; omega), if_neg (by simp; omega)]
      rfl
    exact scanStringChars_escape escape
  | @pair digits digits' high low unit is_high unit' is_low =>
    have escape : scanEscape ('u' :: (digits ++ '\\' :: 'u' :: (digits' ++ rest))) =
        .ok (Char.ofNat ((high - 0xD800) * 0x400 + (low - 0xDC00) + 0x10000), rest) := by
      simp only [scanEscape, scanHex4_of_spellsUnit unit, bind, Except.bind]
      rw [if_neg (by simp; omega), if_pos (by simp; omega)]
      simp only [scanLowSurrogate, scanHex4_of_spellsUnit unit', bind, Except.bind]
      rw [if_pos (by simp; omega)]
      rfl
    simp only [List.cons_append, List.append_assoc]
    exact scanStringChars_escape escape

theorem scanStringChars_of_spells (spells : SpellsText text chars) (enough : chars.length < fuel)
    (rest : List Char) : scanStringChars fuel (text ++ '"' :: rest) = .ok (chars, rest) := by
  induction spells generalizing fuel with
  | nil =>
    obtain ⟨fuel, rfl⟩ := Nat.exists_eq_add_one_of_ne_zero (Nat.ne_zero_of_lt enough)
    rfl
  | cons spells _ ih =>
    obtain ⟨fuel, rfl⟩ := Nat.exists_eq_add_one_of_ne_zero (Nat.ne_zero_of_lt enough)
    rw [List.append_assoc, scanStringChars_of_spellsChar spells, ih (Nat.lt_of_succ_lt_succ enough)]
    rfl

theorem spells_of_scanEscape (read : scanEscape text = .ok (c, rest)) :
    ∃ written, text = written ++ rest ∧ SpellsChar ('\\' :: written) c := by
  have short {mark : Char} {behind : List Char} {d : Char} (listed : (mark, d) ∈ shortEscapes)
      (same : (.ok (d, behind) : Except Fault _) = .ok (c, rest)) :
      ∃ written, mark :: behind = written ++ rest ∧ SpellsChar ('\\' :: written) c := by
    cases same
    exact ⟨[mark], rfl, .short listed⟩
  unfold scanEscape at read
  split at read
  next => cases read
  iterate 8 next => exact short (by decide) read
  next text =>
    obtain ⟨⟨unit, behind⟩, first, decided⟩ := bind_eq_ok.mp read
    obtain ⟨digits, rfl, spelled⟩ := spellsUnit_of_scanHex4 first
    dsimp only at decided
    split at decided
    next => cases decided
    next no_low =>
    simp only [Bool.and_eq_true, decide_eq_true_eq, not_and, Nat.not_le] at no_low
    split at decided
    next high =>
      simp only [Bool.and_eq_true, decide_eq_true_eq] at high
      unfold scanLowSurrogate at decided
      split at decided
      next => cases decided
      next => cases decided
      next second =>
        obtain ⟨⟨low, behind'⟩, second_read, paired⟩ := bind_eq_ok.mp decided
        obtain ⟨digits', rfl, spelled'⟩ := spellsUnit_of_scanHex4 second_read
        dsimp only at paired
        split at paired
        next is_low =>
          simp only [Bool.and_eq_true, decide_eq_true_eq] at is_low
          obtain ⟨rfl, rfl⟩ := Prod.mk.inj (Except.ok.inj paired)
          exact ⟨'u' :: (digits ++ '\\' :: 'u' :: digits'), by simp,
            .pair spelled high spelled' is_low⟩
        next => cases paired
      next => cases decided
      next => cases decided
    next no_high =>
      simp only [Bool.and_eq_true, decide_eq_true_eq, not_and, Nat.not_le] at no_high
      cases decided
      exact ⟨'u' :: digits, rfl, .unit spelled (by omega)⟩
  next => cases read

/-- A string is read no further than to the quote behind a spelling of what it is read as. -/
theorem spells_of_scanStringChars (read : scanStringChars fuel text = .ok (chars, rest)) :
    ∃ inside, text = inside ++ '"' :: rest ∧ SpellsText inside chars := by
  induction fuel generalizing text chars with
  | zero => cases read
  | succ fuel ih =>
    cases text with
    | nil => cases read
    | cons c text =>
      rw [scanStringChars] at read
      split at read
      next quote =>
        cases read
        exact ⟨[], by rw [quote]; rfl, .nil⟩
      next no_quote =>
      split at read
      next backslash =>
        subst backslash
        obtain ⟨⟨first, behind⟩, escape, after⟩ := bind_eq_ok.mp read
        obtain ⟨⟨more, behind'⟩, later_read, last⟩ := bind_eq_ok.mp after
        cases last
        obtain ⟨inside, rfl, later⟩ := ih later_read
        obtain ⟨written, rfl, spelled⟩ := spells_of_scanEscape escape
        exact ⟨'\\' :: written ++ inside, by simp, .cons spelled later⟩
      next no_backslash =>
      split at read
      next => cases read
      next shown =>
        obtain ⟨⟨more, behind⟩, later_read, last⟩ := bind_eq_ok.mp read
        cases last
        obtain ⟨inside, rfl, later⟩ := ih later_read
        exact ⟨c :: inside, rfl, .cons (.plain ⟨no_quote, no_backslash, shown⟩) later⟩

/-- The spelling of a text is the whole inside of its quotes. -/
theorem spells_inside (is_inside : IsInside inside) {rest' : List Char}
    (read : scanStringChars fuel (inside ++ '"' :: rest) = .ok (chars, rest')) :
    SpellsText inside chars := by
  obtain ⟨inside', same, spelled⟩ := spells_of_scanStringChars read
  -- both insides are passed over, to the same quote
  have passed := skipString_of_isInside is_inside
    (Nat.lt_succ_of_le (Nat.le_add_right _ inside'.length)) rest
  have passed' := skipString_of_isInside spelled.isInside
    (Nat.lt_succ_of_le (Nat.le_add_left _ inside.length)) rest'
  rw [same, passed'] at passed
  obtain rfl := Except.ok.inj passed
  rw [List.append_cancel_right same]
  exact spelled

end Strings

end Json

end CatalogClient

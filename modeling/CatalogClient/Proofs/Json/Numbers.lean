import CatalogClient.Proofs.Json.TwoPaths
import CatalogClient.Proofs.Json.WellFormed

/-!
# Numbers as they are spelled

A number reads the same whatever follows it (`scanNumber_append_iff`), so what it spells is what it
reads as when it is all there is (`SpellsNumber`). Formats that check numbers read just these
(`ofText_number_iff`), and whole numbers that are not negative are spelled by their digits alone
(`spellsNumber_whole_iff`).
-/

namespace CatalogClient

namespace Json

section Numbers
variable {text rest digits sign more whole fraction exponent : List Char} {c : Char}
  {negative significant : Bool}

/-! ## Numbers in front of other text -/

theorem scanExponentDigits_append (all : IsDigits digits) (n : Nat) :
    ∃ exponent? : Option NumeralExponent, ∀ rest, EndsDigits rest →
      (scanExponentDigits negative significant n (digits ++ rest)).toOption =
        exponent?.map (·, rest) := by
  induction digits generalizing n with
  | nil =>
    refine ⟨some (.value (if negative then -(n : Int) else n)), fun rest ends => ?_⟩
    cases rest with
    | nil => rfl
    | cons c rest => simp [scanExponentDigits, ends c rfl, Except.toOption]
  | cons c digits ih =>
    have digit : c.isDigit = true := all c List.mem_cons_self
    have behind : IsDigits digits := fun d mem => all d (List.mem_cons_of_mem _ mem)
    simp only [List.cons_append, scanExponentDigits, digit, if_true]
    split
    · split
      · exact ⟨none, fun rest _ => rfl⟩
      · refine ⟨some (.endless negative), fun rest ends => ?_⟩
        rw [(span_digits behind ends).2]
        rfl
    · exact ih behind _

theorem scanExponent_append (significant : Bool) (signed : sign ∈ [[], ['+'], ['-']])
    (all : IsDigits (c :: more)) :
    ∃ exponent? : Option NumeralExponent, ∀ rest, EndsDigits rest →
      (scanExponent significant (sign ++ c :: (more ++ rest))).toOption =
        exponent?.map (·, rest) := by
  have digit : c.isDigit = true := all c List.mem_cons_self
  have behind : IsDigits more := fun d mem => all d (List.mem_cons_of_mem _ mem)
  have no_sign : c ≠ '+' ∧ c ≠ '-' := by
    constructor <;> rintro rfl <;> exact absurd digit (by decide)
  have plain : ∀ rest, scanExponent significant (c :: rest) =
      scanExponentDigits false significant (digitValue c) rest := by
    intro rest
    simp [scanExponent, no_sign, digit]
  simp only [List.mem_cons, List.not_mem_nil, or_false] at signed
  rcases signed with rfl | rfl | rfl
  · simp only [List.nil_append, plain]
    exact scanExponentDigits_append behind _
  · simp only [List.cons_append, List.nil_append, scanExponent, digit, if_true]
    exact scanExponentDigits_append behind _
  · simp only [List.cons_append, List.nil_append, scanExponent, digit, if_true]
    exact scanExponentDigits_append behind _

/-- What a number is read as before it is weighed: its digits, and an exponent if one is written. -/
theorem scanNumeral_append (is_whole : IsWhole whole) (is_fraction : IsFraction fraction)
    (is_exponent : IsExponent exponent) (negative : Bool) :
    ∃ exponent? : Option (Option NumeralExponent),
      (exponent = [] → exponent? = some none) ∧ (exponent? = some none → exponent = []) ∧
      ∀ rest, EndsNumber rest →
        (scanNumeral negative (whole ++ (fraction ++ (exponent ++ rest)))).toOption =
          exponent?.map fun e => (⟨negative, whole, fractionDigits fraction, e⟩, rest) := by
  have front : ∀ rest, EndsNumber rest →
      scanWhole (whole ++ (fraction ++ (exponent ++ rest))) =
        .ok (whole, fraction ++ (exponent ++ rest)) ∧
      scanFraction (fraction ++ (exponent ++ rest)) =
        .ok (fractionDigits fraction, exponent ++ rest) := by
    intro rest ends
    obtain ⟨no_digit, no_point⟩ := ends_exponent is_exponent ends
    exact ⟨scanWhole_of_isWhole is_whole (endsDigits_fraction is_fraction no_digit),
      scanFraction_of_isFraction is_fraction no_digit no_point⟩
  cases is_exponent with
  | none =>
    refine ⟨some none, fun _ => rfl, fun _ => rfl, fun rest ends => ?_⟩
    obtain ⟨scanned, scanned'⟩ := front rest ends
    rw [scanNumeral, scanned]
    show (scanFraction _ >>= _).toOption = _
    rw [scanned']
    cases rest with
    | nil => rfl
    | cons c rest =>
      obtain ⟨-, -, lower, upper⟩ := ends c rfl
      simp [bind, Except.bind, lower, upper, pure, Except.pure, Except.toOption]
  | @digits mark c sign more marked signed all =>
    have marked : (mark = 'e' || mark = 'E') = true := by simpa using marked
    obtain ⟨exponent?, exponent_scanned⟩ := scanExponent_append
      ((whole ++ (fractionDigits fraction).getD []).any fun c => c != '0') signed all
    refine ⟨exponent?.map some, fun empty => absurd empty (List.cons_ne_nil _ _), ?_,
      fun rest ends => ?_⟩
    · cases exponent? <;> simp
    · obtain ⟨scanned, scanned'⟩ := front rest ends
      simp only [List.cons_append, List.append_assoc] at scanned scanned' ⊢
      rw [scanNumeral, scanned]
      show (scanFraction _ >>= _).toOption = _
      rw [scanned']
      show Except.toOption (if _ then _ else _) = _
      rw [if_pos marked, toOption_bind, exponent_scanned rest ends.endsDigits]
      cases exponent? <;> rfl

theorem exists_scanNumber (unsigned : IsUnsigned text) (negative : Bool) :
    ∃ n? : Option JsonNumber, ∀ rest, EndsNumber rest →
      (scanNumber negative (text ++ rest)).toOption = n?.map (·, rest) := by
  obtain @⟨whole, fraction, exponent, is_whole, is_fraction, is_exponent⟩ := unsigned
  obtain ⟨exponent?, -, -, scanned⟩ := scanNumeral_append is_whole is_fraction is_exponent negative
  refine ⟨exponent?.bind fun e => Numeral.value ⟨negative, whole, fractionDigits fraction, e⟩,
    fun rest ends => ?_⟩
  rw [List.append_assoc, List.append_assoc, scanNumber, toOption_bind, scanned rest ends]
  cases exponent? with
  | none => rfl
  | some e =>
    simp only [Option.map_some, Option.bind_some]
    cases Numeral.value _ <;> rfl

/-- A number reads the same whatever follows it. -/
theorem scanNumber_append_iff (unsigned : IsUnsigned text) (ends : EndsNumber rest) {n : JsonNumber}
    {rest' : List Char} :
    scanNumber negative (text ++ rest) = .ok (n, rest') ↔
      scanNumber negative text = .ok (n, []) ∧ rest' = rest := by
  obtain ⟨n?, scanned⟩ := exists_scanNumber unsigned negative
  have before := scanned rest ends
  have alone := scanned [] endsNumber_nil
  rw [List.append_nil] at alone
  rw [← toOption_eq_some_iff, ← toOption_eq_some_iff, before, alone]
  cases n? <;> simp [eq_comm]

/-- The digits that a number was weighed by. -/
theorem exists_numeral (is_whole : IsWhole whole) (is_fraction : IsFraction fraction)
    (is_exponent : IsExponent exponent) {n : JsonNumber}
    (scanned : scanNumber negative (whole ++ (fraction ++ exponent)) = .ok (n, [])) :
    ∃ e : Option NumeralExponent, (e = none → exponent = []) ∧
      Numeral.value ⟨negative, whole, fractionDigits fraction, e⟩ = some n := by
  obtain ⟨exponent?, -, written, front⟩ :=
    scanNumeral_append is_whole is_fraction is_exponent negative
  have front := front [] endsNumber_nil
  obtain ⟨⟨numeral, rest⟩, read, weighed⟩ := bind_eq_ok.mp scanned
  rw [List.append_nil, read] at front
  cases exponent? with
  | none => cases front
  | some e =>
    obtain ⟨rfl, rfl⟩ := Prod.mk.inj (Option.some.inj front)
    refine ⟨e, fun none => written (by rw [none]), ?_⟩
    dsimp only at weighed
    cases value : Numeral.value ⟨negative, whole, fractionDigits fraction, e⟩ with
    | none => rw [value] at weighed; cases weighed
    | some n' => rw [value] at weighed; cases weighed; rfl

/-! ## Whole numbers -/

/-- Digits are weighed in full or not at all. -/
theorem eq_of_weighWhole {start dropped significand : Nat}
    (weighed : weighWhole (start, dropped) digits = (significand, 0)) :
    dropped = 0 ∧ significand = Nat.ofDigitChars 10 digits start := by
  induction digits generalizing start dropped with
  | nil =>
    obtain ⟨rfl, rfl⟩ := Prod.mk.inj weighed
    exact ⟨rfl, rfl⟩
  | cons c digits ih =>
    rw [weighWhole] at weighed
    split at weighed
    next fits =>
      simp only [Bool.and_eq_true, decide_eq_true_eq] at fits
      have next : start * 10 + digitValue c = 10 * start + (c.toNat - '0'.toNat) := by
        rw [digitValue, Nat.mul_comm]
      rw [Nat.ofDigitChars_cons, ← next]
      exact ⟨fits.1, (ih weighed).2⟩
    next => exact absurd (ih weighed).1 (Nat.succ_ne_zero _)

/-- Only digits without a point and an exponent make a whole number. -/
theorem eq_of_value_whole {numeral : Numeral} {i : Int} {fits : FitsWord i}
    (value : numeral.value = some (.whole i fits)) :
    numeral.fraction = none ∧ numeral.exponent = none ∧
      (numeral.negative = true → i < 0) ∧
      (numeral.negative = false → i = Nat.ofDigitChars 10 numeral.whole 0) := by
  have float {negative : Bool} {significand : Nat} {e : Int} :
      Numeral.float? negative significand e ≠ some (.whole i fits) := by
    unfold Numeral.float?
    cases Binary64.scaleByPowerOfTen significand e <;> simp
  obtain ⟨negative, whole, fraction, exponent⟩ := numeral
  unfold Numeral.value at value
  cases weighed : weighWhole (0, 0) whole with
  | mk significand dropped =>
    simp only [weighed] at value
    split at value
    next =>
      by_cases proper : dropped = 0 ∧ (negative = true → significand ≠ 0) ∧
          FitsWord (if negative then -(significand : Int) else significand)
      · rw [dif_pos proper] at value
        have same_value := JsonNumber.whole.inj (Option.some.inj value)
        obtain ⟨rfl, nonzero, -⟩ := proper
        obtain ⟨-, same⟩ := eq_of_weighWhole weighed
        refine ⟨rfl, rfl, fun sign => ?_, fun sign => ?_⟩
        · have := nonzero sign
          rw [if_pos sign] at same_value
          omega
        · rw [if_neg (by simpa using sign)] at same_value
          rw [← same_value, same]
      · rw [dif_neg proper] at value
        exact absurd value float
    next =>
      split at value
      next => exact absurd value float
      next => exact absurd value float
      next => cases value

/-- A number with its sign, as values and formats read it. -/
theorem exists_unsigned (number : IsNumber text) :
    ∃ negative unsigned, IsUnsigned unsigned ∧
      text = (if negative then '-' :: unsigned else unsigned) ∧
      (∀ fuel depth rest, readValue (fuel + 1) depth (text ++ rest) =
        (scanNumber negative (unsigned ++ rest)).bind fun p => .ok (.number p.1, p.2)) ∧
      ∀ {α : Type} (expected : String) (check : JsonNumber → Except Mismatch α) fuel depth rest,
        (Format.number expected check).ofText fuel depth (text ++ rest) =
          (scanNumber negative (unsigned ++ rest)).bind fun p => stopUnless (check p.1) p.2 := by
  cases number with
  | @negative unsigned is_unsigned =>
    exact ⟨true, unsigned, is_unsigned, rfl, fun _ _ _ => rfl, fun _ _ _ _ _ => rfl⟩
  | plain is_unsigned =>
    refine ⟨false, text, is_unsigned, rfl, ?_⟩
    obtain ⟨c, more, rfl, digit⟩ := isUnsigned_head is_unsigned
    refine ⟨fun fuel depth rest => readValue_of_isDigit digit,
      fun expected check fuel depth rest => ?_⟩
    rw [List.cons_append]
    simp only [Format.number, skipBlanks_of_shown (not_isBlank_of_isDigit digit)]
    split
    next same => cases same; exact absurd digit (by decide)
    next same =>
      cases same
      rw [if_pos digit]
      rfl
    next same => cases same

/-- What a number spells is what it reads as when it is all there is. -/
def SpellsNumber (n : JsonNumber) (text : List Char) : Prop :=
  IsNumber text ∧ Json.read (String.ofList text) = .ok (.number n)

theorem spellsNumber_iff {unsigned : List Char} {n : JsonNumber} (number : IsNumber text)
    (is_unsigned : IsUnsigned unsigned)
    (reads : ∀ fuel depth rest, readValue (fuel + 1) depth (text ++ rest) =
      (scanNumber negative (unsigned ++ rest)).bind fun p => .ok (.number p.1, p.2)) :
    SpellsNumber n text ↔ scanNumber negative unsigned = .ok (n, []) := by
  have scanned {rest : List Char} (scan : scanNumber negative unsigned = .ok (n, rest)) :
      rest = [] := by
    rw [← List.append_nil unsigned] at scan
    exact ((scanNumber_append_iff is_unsigned endsNumber_nil).mp scan).2
  have whole := reads text.length depthLimit []
  rw [List.append_nil, List.append_nil] at whole
  have read : Json.read (String.ofList text) = .ok (.number n) ↔
      ∃ rest, readValue (text.length + 1) depthLimit text = .ok (.number n, rest) ∧
        skipBlanks rest = [] := by
    rw [Json.read, readText_eq_ok_iff, String.toList_ofList]
  rw [SpellsNumber, and_iff_right number, read, whole]
  constructor
  · rintro ⟨rest, read, -⟩
    obtain ⟨⟨n', rest'⟩, scan, same⟩ := bind_eq_ok.mp read
    cases same
    obtain rfl := scanned scan
    exact scan
  · intro scan
    exact ⟨[], bind_eq_ok.mpr ⟨_, scan, rfl⟩, rfl⟩

/-- Formats read a number that they check as what it spells. -/
theorem ofText_number_iff {α : Type} {expected : String} {check : JsonNumber → Except Mismatch α}
    {fuel depth : Nat} {x : α} {rest' : List Char} (number : IsNumber text)
    (ends : EndsNumber rest) :
    (Format.number expected check).ofText fuel depth (text ++ rest) = .ok (x, rest') ↔
      (∃ n, SpellsNumber n text ∧ check n = .ok x) ∧ rest' = rest := by
  obtain ⟨negative, unsigned, is_unsigned, -, reads, checks⟩ := exists_unsigned number
  have spells (n : JsonNumber) := spellsNumber_iff (n := n) number is_unsigned reads
  rw [checks]
  constructor
  · intro read
    obtain ⟨⟨n, behind⟩, scan, checked⟩ := bind_eq_ok.mp read
    obtain ⟨alone, rfl⟩ := (scanNumber_append_iff is_unsigned ends).mp scan
    cases passed : check n with
    | error mismatch => rw [passed] at checked; cases checked
    | ok x' =>
      rw [passed] at checked
      cases checked
      exact ⟨⟨n, (spells n).mpr alone, passed⟩, rfl⟩
  · rintro ⟨⟨n, spelled, passed⟩, rfl⟩
    have scan := (scanNumber_append_iff is_unsigned ends).mpr ⟨(spells n).mp spelled, rfl⟩
    refine bind_eq_ok.mpr ⟨_, scan, ?_⟩
    rw [passed]
    rfl

/-- A whole number that is not negative is spelled by its digits alone. -/
theorem spellsNumber_whole_iff {i : Int} (fits : FitsWord i) :
    SpellsNumber (.whole i fits) text ∧ 0 ≤ i ↔
      IsWhole text ∧ i = (Nat.ofDigitChars 10 text 0 : Int) := by
  constructor
  · rintro ⟨spelled, natural⟩
    obtain ⟨negative, unsigned, is_unsigned, same, reads, -⟩ := exists_unsigned spelled.1
    have scanned := (spellsNumber_iff spelled.1 is_unsigned reads).mp spelled
    obtain @⟨whole, fraction, exponent, is_whole, is_fraction, is_exponent⟩ := is_unsigned
    obtain ⟨e, no_exponent, value⟩ := exists_numeral is_whole is_fraction is_exponent scanned
    obtain ⟨no_fraction, none, below, digits⟩ := eq_of_value_whole value
    obtain rfl := no_exponent none
    have plain : negative = false := by
      cases negative with
      | false => rfl
      | true => exact absurd (below rfl) (by omega)
    have empty : fraction = [] := by
      cases is_fraction with
      | none => rfl
      | digits _ => cases no_fraction
    subst plain empty
    rw [List.append_nil, List.append_nil] at same
    subst same
    exact ⟨is_whole, digits rfl⟩
  · rintro ⟨is_whole, rfl⟩
    have is_unsigned := isUnsigned_of_isWhole is_whole
    have number := IsNumber.plain is_unsigned
    obtain ⟨c, more, same, digit⟩ := isUnsigned_head is_unsigned
    have reads : ∀ fuel depth rest, readValue (fuel + 1) depth (text ++ rest) =
        (scanNumber false (text ++ rest)).bind fun p => .ok (.number p.1, p.2) := by
      intro fuel depth rest
      rw [same, List.cons_append]
      exact readValue_of_isDigit digit
    refine ⟨(spellsNumber_iff number is_unsigned reads).mpr ?_, Int.natCast_nonneg _⟩
    obtain ⟨exponent?, written, -, front⟩ := scanNumeral_append is_whole .none .none false
    have front := front [] endsNumber_nil
    rw [written rfl] at front
    simp only [List.append_nil, Option.map_some] at front
    have small : Nat.ofDigitChars 10 text 0 < significandEnd := by
      have := fits.2
      unfold significandEnd
      omega
    rw [scanNumber, toOption_eq_some_iff.mp front]
    simp only [bind, Except.bind, fractionDigits, Numeral.value, weighWhole_of_lt small]
    rw [dif_pos ⟨trivial, fun h => absurd h Bool.false_ne_true, fits⟩]
    rfl

end Numbers

end Json

end CatalogClient

import CatalogClient.Proofs.Json.Grammar
import CatalogClient.Proofs.Json.Written

/-!
# Well-formed values

`IsValue` is the grammar of a value without blanks around it. Lists and objects are put together
from pieces with blanks before and after them (`Spaced`, `Field`); what stands between the pieces is
the same for both (`enclosed`). Every value of this form is passed over as a whole, whatever follows
it (`skipValue_of_isValue`).
-/

namespace CatalogClient

namespace Json

def IsBlanks (text : List Char) : Prop := ∀ c ∈ text, isBlank c = true

/-- A text with blanks before and after it. -/
structure Spaced where
  front : List Char
  text : List Char
  back : List Char
  blank_front : IsBlanks front
  blank_back : IsBlanks back

def Spaced.chars (item : Spaced) : List Char := item.front ++ (item.text ++ item.back)

/-- A key between quotes, and a value behind a colon. -/
structure Field where
  front : List Char
  /-- What stands between the quotes of the key. -/
  quoted : List Char
  between : List Char
  value : Spaced
  blank_front : IsBlanks front
  blank_between : IsBlanks between

def Field.chars (field : Field) : List Char :=
  field.front ++ '"' :: (field.quoted ++ '"' :: (field.between ++ ':' :: field.value.chars))

/-- What follows the first of several pieces: the others, each after a comma, and a bracket. -/
def further (close : Char) (pieces : List (List Char)) : List Char :=
  pieces.flatMap (',' :: ·) ++ [close]

/-- Pieces with commas between them, or blanks if there is no piece, and a bracket. -/
def enclosed (close : Char) (blanks : List Char) : List (List Char) → List Char
  | [] => blanks ++ [close]
  | piece :: pieces => piece ++ further close pieces

/-- A value as documents write it. -/
inductive IsValue : List Char → Prop
  | word {text : List Char} : text ∈ ["null".toList, "true".toList, "false".toList] → IsValue text
  | number {text : List Char} : IsNumber text → IsValue text
  | string {inside : List Char} : IsInside inside → IsValue ('"' :: (inside ++ ['"']))
  | array {blanks : List Char} {items : List Spaced} : IsBlanks blanks →
    (∀ item ∈ items, IsValue item.text) →
    IsValue ('[' :: enclosed ']' blanks (items.map Spaced.chars))
  | object {blanks : List Char} {fields : List Field} : IsBlanks blanks →
    (∀ field ∈ fields, IsInside field.quoted) → (∀ field ∈ fields, IsValue field.value.text) →
    IsValue ('\x7b' :: enclosed '\x7d' blanks (fields.map Field.chars))

/-! ## Blanks -/

section Blanks
variable {blanks text rest : List Char}

theorem isBlanks_nil : IsBlanks [] := fun _ h => nomatch h

/-- A text with nothing around it. -/
def Spaced.bare (text : List Char) : Spaced where
  front := []
  text := text
  back := []
  blank_front := isBlanks_nil
  blank_back := isBlanks_nil

theorem skipBlanks_append (blank : IsBlanks blanks) (text : List Char) :
    skipBlanks (blanks ++ text) = skipBlanks text :=
  List.dropWhile_append_of_pos blank

theorem skipBlanks_of_shown {c : Char} (shown : isBlank c = false) (rest : List Char) :
    skipBlanks (c :: rest) = c :: rest := by
  simp [skipBlanks, shown]

theorem skipBlanks_of_isBlanks (blank : IsBlanks blanks) : skipBlanks blanks = [] :=
  List.dropWhile_eq_nil_iff.mpr blank

theorem endsNumber_append (blank : IsBlanks blanks) (ends : EndsNumber rest) :
    EndsNumber (blanks ++ rest) := by
  cases blanks with
  | nil => exact ends
  | cons c blanks =>
    have here := blank c List.mem_cons_self
    simp only [isBlank, Bool.or_eq_true, decide_eq_true_eq] at here
    rcases here with ((rfl | rfl) | rfl) | rfl <;> exact endsNumber_cons _ (by decide)

theorem isUnsigned_head {text : List Char} (unsigned : IsUnsigned text) :
    ∃ c more, text = c :: more ∧ c.isDigit = true := by
  obtain ⟨is_whole, -, -⟩ := unsigned
  cases is_whole with
  | zero => exact ⟨'0', _, rfl, by decide⟩
  | @digits c more digit _ _ => exact ⟨c, _, rfl, digit⟩

theorem startsValue_of_isValue (value : IsValue text) : StartsValue text := by
  cases value with
  | word word =>
    simp only [List.mem_cons, List.not_mem_nil, or_false] at word
    rcases word with rfl | rfl | rfl <;> exact ⟨_, _, rfl, rfl, by decide⟩
  | number number =>
    cases number with
    | negative _ => exact ⟨_, _, rfl, rfl, by decide⟩
    | plain unsigned =>
      obtain ⟨c, more, rfl, digit⟩ := isUnsigned_head unsigned
      refine ⟨c, more, rfl, not_isBlank_of_isDigit digit, ?_⟩
      rintro rfl
      exact absurd digit (by decide)
  | string | array | object => exact ⟨_, _, rfl, rfl, by decide⟩

/-- Blanks before a value are passed, and no more. -/
theorem skipBlanks_value (blank : IsBlanks blanks) (starts : StartsValue text) (rest : List Char) :
    skipBlanks (blanks ++ (text ++ rest)) = text ++ rest := by
  rw [skipBlanks_append blank, skipBlanks_of_startsValue (starts.append rest)]

theorem scanColon_append (blank : IsBlanks blanks) (rest : List Char) :
    scanColon (blanks ++ ':' :: rest) = .ok rest := by
  rw [scanColon, skipBlanks_append blank]
  rfl

end Blanks

/-! ## Between the pieces -/

section Pieces
variable {close : Char} {pieces : List (List Char)}

theorem further_cons (close : Char) (piece : List Char) (pieces : List (List Char))
    (rest : List Char) :
    further close (piece :: pieces) ++ rest = ',' :: (piece ++ (further close pieces ++ rest)) := by
  simp [further]

theorem enclosed_cons (close : Char) (blanks piece : List Char) (pieces : List (List Char))
    (rest : List Char) :
    enclosed close blanks (piece :: pieces) ++ rest = piece ++ (further close pieces ++ rest) := by
  simp [enclosed]

theorem Spaced.chars_append (item : Spaced) (rest : List Char) :
    item.chars ++ rest = item.front ++ (item.text ++ (item.back ++ rest)) := by
  simp [chars]

theorem Field.chars_append (field : Field) (rest : List Char) :
    field.chars ++ rest = field.front ++ '"' :: (field.quoted ++ '"' ::
      (field.between ++ ':' :: (field.value.chars ++ rest))) := by
  simp [chars]

theorem Spaced.length_text_le (item : Spaced) : item.text.length ≤ item.chars.length := by
  simp only [chars, List.length_append]
  omega

/-- The quotes of a key alone make its field longer than what stands between them. -/
theorem Field.length_quoted_lt (field : Field) : field.quoted.length < field.chars.length := by
  simp only [chars, List.length_append, List.length_cons]
  omega

theorem Field.length_text_le (field : Field) : field.value.text.length ≤ field.chars.length := by
  have := field.value.length_text_le
  simp only [chars, List.length_append, List.length_cons]
  omega

/-- A bracket or a comma behind a piece ends a number in it. -/
theorem endsNumber_further (bracket : close = ']' ∨ close = '\x7d') (pieces : List (List Char))
    (rest : List Char) : EndsNumber (further close pieces ++ rest) := by
  cases pieces with
  | nil => rcases bracket with rfl | rfl <;> exact endsNumber_cons _ (by decide)
  | cons piece pieces =>
    rw [further_cons]
    exact endsNumber_cons _ (by decide)

theorem length_further_cons (close : Char) (piece : List Char) (pieces : List (List Char)) :
    (further close (piece :: pieces)).length =
      piece.length + (further close pieces).length + 1 := by
  simp [further]

theorem length_enclosed_cons (close : Char) (blanks piece : List Char) (pieces : List (List Char)) :
    (enclosed close blanks (piece :: pieces)).length =
      piece.length + (further close pieces).length := by
  simp [enclosed]

theorem length_further_pos (close : Char) (pieces : List (List Char)) :
    0 < (further close pieces).length := by
  simp [further]

/-- Each piece is shorter than all of them with what stands between them. -/
theorem length_lt_further_of_mem (close : Char) {piece : List Char} (mem : piece ∈ pieces) :
    piece.length < (further close pieces).length := by
  induction pieces with
  | nil => cases mem
  | cons other pieces ih =>
    rw [length_further_cons]
    rcases List.mem_cons.mp mem with rfl | mem
    · omega
    · have := ih mem
      omega

theorem length_lt_enclosed_of_mem (close : Char) (blanks : List Char) {piece : List Char}
    (mem : piece ∈ pieces) :
    piece.length < (enclosed close blanks pieces).length := by
  cases pieces with
  | nil => cases mem
  | cons other pieces =>
    have := length_further_pos close pieces
    rw [length_enclosed_cons]
    rcases List.mem_cons.mp mem with rfl | mem
    · omega
    · have := length_lt_further_of_mem close mem
      omega

end Pieces

/-! ## Values passed over -/

/-- The value is passed over as a whole with the blanks before it, whatever follows it. -/
def Passes (skip : List Char → Except Fault (List Char)) (text : List Char) : Prop :=
  ∀ blanks rest, IsBlanks blanks → EndsNumber rest → skip (blanks ++ (text ++ rest)) = .ok rest

section Passing
variable {skip : List Char → Except Fault (List Char)} {blanks back text rest : List Char} {k : Nat}
  {items : List Spaced} {field : Field} {fields : List Field}

theorem skipItems_further (pass : ∀ item ∈ items, Passes skip item.text) (blank : IsBlanks back)
    (enough : (further ']' (items.map Spaced.chars)).length ≤ k) (rest : List Char) :
    skipItems skip k false (back ++ (further ']' (items.map Spaced.chars) ++ rest)) = .ok rest := by
  induction items generalizing k back with
  | nil =>
    obtain ⟨k, rfl⟩ := Nat.exists_eq_add_one_of_ne_zero (Nat.ne_zero_of_lt enough)
    rw [skipItems, skipBlanks_append blank]
    rfl
  | cons item items ih =>
    rw [List.map_cons, length_further_cons] at enough
    obtain ⟨k, rfl⟩ := Nat.exists_eq_add_one_of_ne_zero (Nat.ne_zero_of_lt enough)
    have ends := endsNumber_append item.blank_back
      (endsNumber_further (.inl rfl) (items.map Spaced.chars) rest)
    have here := pass item List.mem_cons_self item.front _ item.blank_front ends
    have later := ih (k := k) (fun other mem => pass other (List.mem_cons_of_mem _ mem))
      item.blank_back (by omega)
    rw [List.map_cons, further_cons, item.chars_append, skipItems, skipBlanks_append blank]
    show (skip _).bind _ = _
    rw [here]
    exact later

theorem skipItems_enclosed (blank : IsBlanks blanks) (pass : ∀ item ∈ items, Passes skip item.text)
    (starts : ∀ item ∈ items, StartsValue item.text)
    (enough : (enclosed ']' blanks (items.map Spaced.chars)).length ≤ k) (rest : List Char) :
    skipItems skip k true (enclosed ']' blanks (items.map Spaced.chars) ++ rest) = .ok rest := by
  cases items with
  | nil =>
    rw [List.map_nil, enclosed, List.length_append] at enough
    obtain ⟨k, rfl⟩ := Nat.exists_eq_add_one_of_ne_zero (Nat.ne_zero_of_lt enough)
    rw [List.map_nil, enclosed, List.append_assoc, skipItems, skipBlanks_append blank]
    rfl
  | cons item items =>
    have first := starts item List.mem_cons_self
    have ends := endsNumber_append item.blank_back
      (endsNumber_further (.inl rfl) (items.map Spaced.chars) rest)
    have here := pass item List.mem_cons_self [] _ isBlanks_nil ends
    obtain ⟨c, more, same, -, no_end⟩ := first
    have long : 0 < item.chars.length := by
      simp only [Spaced.chars, same, List.length_append, List.length_cons]
      omega
    rw [List.map_cons, length_enclosed_cons] at enough
    obtain ⟨k, rfl⟩ := Nat.exists_eq_add_one_of_ne_zero (n := k) (by omega)
    have later := skipItems_further (k := k)
      (fun other mem => pass other (List.mem_cons_of_mem _ mem)) item.blank_back (by omega) rest
    rw [List.map_cons, enclosed_cons, item.chars_append, skipItems,
      skipBlanks_value item.blank_front (starts item List.mem_cons_self)]
    rw [List.nil_append, same] at here
    rw [same, List.cons_append]
    simp only [if_true]
    show (skip _).bind _ = _
    rw [← List.cons_append, here]
    exact later

theorem skipField_skipBlanks (skip : List Char → Except Fault (List Char)) (k : Nat)
    (text : List Char) : skipField skip k (skipBlanks text) = skipField skip k text := by
  rw [skipField, skipField, skipBlanks_skipBlanks]

theorem skipField_chars (pass : Passes skip field.value.text) (is_inside : IsInside field.quoted)
    (enough : field.quoted.length < k) (ends : EndsNumber rest) :
    skipField skip k (field.chars ++ rest) = .ok (field.value.back ++ rest) := by
  rw [field.chars_append, skipField, skipBlanks_append field.blank_front]
  show (skipString k _).bind _ = _
  rw [skipString_of_isInside is_inside enough]
  show (scanColon _).bind _ = _
  rw [scanColon_append field.blank_between, field.value.chars_append]
  exact pass _ _ field.value.blank_front (endsNumber_append field.value.blank_back ends)

theorem skipFields_further (pass : ∀ field ∈ fields, Passes skip field.value.text)
    (are_inside : ∀ field ∈ fields, IsInside field.quoted) (blank : IsBlanks back)
    (enough : (further '\x7d' (fields.map Field.chars)).length ≤ k) (rest : List Char) :
    skipFields skip k false (back ++ (further '\x7d' (fields.map Field.chars) ++ rest)) =
      .ok rest := by
  induction fields generalizing k back with
  | nil =>
    obtain ⟨k, rfl⟩ := Nat.exists_eq_add_one_of_ne_zero (Nat.ne_zero_of_lt enough)
    rw [skipFields, skipBlanks_append blank]
    rfl
  | cons field fields ih =>
    rw [List.map_cons, length_further_cons] at enough
    obtain ⟨k, rfl⟩ := Nat.exists_eq_add_one_of_ne_zero (Nat.ne_zero_of_lt enough)
    have shorter := field.length_quoted_lt
    have here := skipField_chars (k := k + 1) (pass field List.mem_cons_self)
      (are_inside field List.mem_cons_self) (by omega)
      (endsNumber_further (.inr rfl) (fields.map Field.chars) rest)
    have later := ih (k := k) (fun other mem => pass other (List.mem_cons_of_mem _ mem))
      (fun other mem => are_inside other (List.mem_cons_of_mem _ mem)) field.value.blank_back
      (by omega)
    rw [List.map_cons, further_cons, skipFields, skipBlanks_append blank]
    show (skipField skip (k + 1) _).bind _ = _
    rw [here]
    exact later

theorem skipFields_enclosed (blank : IsBlanks blanks)
    (pass : ∀ field ∈ fields, Passes skip field.value.text)
    (are_inside : ∀ field ∈ fields, IsInside field.quoted)
    (enough : (enclosed '\x7d' blanks (fields.map Field.chars)).length ≤ k) (rest : List Char) :
    skipFields skip k true (enclosed '\x7d' blanks (fields.map Field.chars) ++ rest) =
      .ok rest := by
  cases fields with
  | nil =>
    rw [List.map_nil, enclosed, List.length_append] at enough
    obtain ⟨k, rfl⟩ := Nat.exists_eq_add_one_of_ne_zero (Nat.ne_zero_of_lt enough)
    rw [List.map_nil, enclosed, List.append_assoc, skipFields, skipBlanks_append blank]
    rfl
  | cons field fields =>
    have shorter := field.length_quoted_lt
    rw [List.map_cons, length_enclosed_cons] at enough
    obtain ⟨k, rfl⟩ := Nat.exists_eq_add_one_of_ne_zero (n := k) (by omega)
    have here := skipField_chars (k := k + 1) (pass field List.mem_cons_self)
      (are_inside field List.mem_cons_self) (by omega)
      (endsNumber_further (.inr rfl) (fields.map Field.chars) rest)
    have later := skipFields_further (k := k)
      (fun other mem => pass other (List.mem_cons_of_mem _ mem))
      (fun other mem => are_inside other (List.mem_cons_of_mem _ mem)) field.value.blank_back
      (by omega) rest
    rw [← skipField_skipBlanks, field.chars_append, skipBlanks_append field.blank_front] at here
    rw [List.map_cons, enclosed_cons, field.chars_append, skipFields,
      skipBlanks_append field.blank_front]
    exact bind_eq_ok.mpr ⟨_, here, later⟩

end Passing

/-- What starts with a digit goes to the reader of numbers. -/
theorem skipValue_digit {c : Char} {fuel : Nat} {rest : List Char} (digit : c.isDigit = true) :
    skipValue (fuel + 1) (c :: rest) = skipNumber (c :: rest) := by
  rw [skipValue, skipBlanks_of_shown (not_isBlank_of_isDigit digit)]
  split
  next same => cases same
  -- the signs that other values start with are no digits
  iterate 7 next same => cases same; exact absurd digit (by decide)
  next same =>
    cases same
    rw [if_pos digit]

/-- The blanks before a value make no difference. -/
theorem passes_of_startsValue {text : List Char} {fuel : Nat} (starts : StartsValue text)
    (pass : ∀ rest, EndsNumber rest → skipValue (fuel + 1) (text ++ rest) = .ok rest) :
    Passes (skipValue (fuel + 1)) text := by
  intro blanks rest blank ends
  rw [← skipValue_skipBlanks, skipBlanks_value blank starts]
  exact pass rest ends

/-- By induction on the value: what it holds is passed over with one less of the fuel. -/
theorem skipValue_of_isValue {text : List Char} (value : IsValue text) {fuel : Nat}
    (enough : text.length < fuel) : Passes (skipValue fuel) text := by
  induction value generalizing fuel with
    obtain ⟨fuel, rfl⟩ := Nat.exists_eq_add_one_of_ne_zero (Nat.ne_zero_of_lt enough)
  | word word =>
    refine passes_of_startsValue (startsValue_of_isValue (.word word)) fun rest _ => ?_
    simp only [List.mem_cons, List.not_mem_nil, or_false] at word
    rcases word with rfl | rfl | rfl <;> rfl
  | number number =>
    refine passes_of_startsValue (startsValue_of_isValue (.number number)) fun rest ends => ?_
    cases number with
    | negative unsigned => exact skipNumber_of_isUnsigned unsigned ends
    | plain unsigned =>
      have passed := skipNumber_of_isUnsigned unsigned ends
      obtain ⟨c, more, same, digit⟩ := isUnsigned_head unsigned
      rw [same, List.cons_append] at passed ⊢
      rw [skipValue_digit digit, passed]
  | @string inside is_inside =>
    refine passes_of_startsValue (startsValue_of_isValue (.string is_inside)) fun rest _ => ?_
    simp only [List.length_cons, List.length_append] at enough
    rw [List.cons_append, List.append_assoc]
    exact skipString_of_isInside is_inside (by omega) rest
  | @array blanks items blank values ih =>
    refine passes_of_startsValue (startsValue_of_isValue (.array blank values)) fun rest _ => ?_
    rw [List.length_cons] at enough
    refine skipItems_enclosed blank (fun item mem => ih item mem ?_)
      (fun item mem => startsValue_of_isValue (values item mem)) (by omega) rest
    have inside := length_lt_enclosed_of_mem ']' blanks
      (List.mem_map_of_mem (f := Spaced.chars) mem)
    have := item.length_text_le
    omega
  | @object blanks fields blank are_inside values ih =>
    refine passes_of_startsValue (startsValue_of_isValue (.object blank are_inside values))
      fun rest _ => ?_
    rw [List.length_cons] at enough
    refine skipFields_enclosed blank (fun field mem => ih field mem ?_) are_inside (by omega) rest
    have inside := length_lt_enclosed_of_mem '\x7d' blanks
      (List.mem_map_of_mem (f := Field.chars) mem)
    have := field.length_text_le
    omega

end Json

end CatalogClient

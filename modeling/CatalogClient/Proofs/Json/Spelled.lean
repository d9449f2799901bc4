import CatalogClient.Proofs.Json.Numbers
import Mathlib.Data.List.Forall2

/-!
# Typed values as they are spelled

`Format.ReadsJust` says of a format which well-formed values it reads and as what: those that spell a
value of its type, whatever follows them, and no others. It is proved for one way to make a format at a
time: for numbers, texts, lists and pairs.
-/

namespace CatalogClient

/-- Of the well-formed values a format reads just those that spell a value of its type. It needs to
nest no deeper than `deep`. -/
structure Format.ReadsJust {α : Type} (format : Format α) (deep : Nat)
    (spells : α → List Char → Prop) : Prop where
  wellFormed : ∀ {x text}, spells x text → Json.IsValue text
  blind : ∀ fuel depth text,
    format.ofText fuel depth (Json.skipBlanks text) = format.ofText fuel depth text
  reads_iff : ∀ {fuel depth x text rest rest'}, Json.IsValue text → Json.EndsNumber rest →
    deep ≤ depth → text.length < fuel →
    (format.ofText fuel depth (text ++ rest) = .ok (x, rest') ↔ spells x text ∧ rest' = rest)

namespace Json

/-! ## Values by their first sign -/

section Heads
variable {more : List Char} {c : Char}

theorem isValue_quote (value : IsValue ('"' :: more)) :
    ∃ inside, IsInside inside ∧ more = inside ++ ['"'] := by
  generalize same : '"' :: more = text at value
  cases value with
  | string is_inside => exact ⟨_, is_inside, (List.cons.inj same).2⟩
  | word word => subst same; simp at word
  | number number =>
    subst same
    cases number with
    | plain unsigned =>
      obtain ⟨c, more, same, digit⟩ := isUnsigned_head unsigned
      cases same
      exact absurd digit (by decide)
  | array | object => cases same

theorem isValue_bracket (value : IsValue ('[' :: more)) :
    ∃ (blanks : List Char) (items : List Spaced), IsBlanks blanks ∧
      (∀ item ∈ items, IsValue item.text) ∧
      more = enclosed ']' blanks (items.map Spaced.chars) := by
  generalize same : '[' :: more = text at value
  cases value with
  | array blank values => exact ⟨_, _, blank, values, (List.cons.inj same).2⟩
  | word word => subst same; simp at word
  | number number =>
    subst same
    cases number with
    | plain unsigned =>
      obtain ⟨c, more, same, digit⟩ := isUnsigned_head unsigned
      cases same
      exact absurd digit (by decide)
  | string | object => cases same

theorem isNumber_of_head (value : IsValue (c :: more)) (head : c = '-' ∨ c.isDigit = true) :
    IsNumber (c :: more) := by
  generalize same : c :: more = text at value
  cases value with
  | number number => exact number
  | word word =>
    simp only [List.mem_cons, List.not_mem_nil, or_false] at word
    rcases word with rfl | rfl | rfl <;> obtain rfl := (List.cons.inj same).1 <;>
      exact absurd head (by decide)
  | string | array | object =>
    obtain rfl := (List.cons.inj same).1
    exact absurd head (by decide)

end Heads

/-! ## Lists -/

section Items
variable {blanks front back text rest : List Char} {first : Bool}

theorem nextItem_skipBlanks (first : Bool) (text : List Char) :
    nextItem first (skipBlanks text) = nextItem first text := by
  rw [nextItem, nextItem, skipBlanks_skipBlanks]

theorem nextItem_append (blank : IsBlanks blanks) (first : Bool) (text : List Char) :
    nextItem first (blanks ++ text) = nextItem first text := by
  rw [← nextItem_skipBlanks, skipBlanks_append blank, nextItem_skipBlanks]

theorem nextItem_later_skipBlanks (text : List Char) :
    nextItem false (',' :: skipBlanks text) = nextItem false (',' :: text) := by
  have comma (text : List Char) : skipBlanks (',' :: text) = ',' :: text := rfl
  simp [nextItem, comma, skipBlanks_skipBlanks]

theorem nextItem_value (blank : IsBlanks front) (starts : StartsValue text) (rest : List Char) :
    nextItem true (front ++ (text ++ rest)) = .ok (true, text ++ rest) := by
  rw [nextItem_append blank, nextItem_first (starts.append rest)]

theorem nextItem_comma (blank : IsBlanks back) (blank' : IsBlanks front) (starts : StartsValue text)
    (rest : List Char) :
    nextItem false (back ++ ',' :: (front ++ (text ++ rest))) = .ok (true, text ++ rest) := by
  rw [nextItem_append blank, ← nextItem_later_skipBlanks, skipBlanks_value blank' starts,
    nextItem_later (starts.append rest)]

theorem nextItem_close (blank : IsBlanks blanks) (first : Bool) (rest : List Char) :
    nextItem first (blanks ++ ']' :: rest) = .ok (false, ']' :: rest) := by
  rw [nextItem_append blank]
  rfl

variable {α : Type} {read : Reader α} {spells : α → List Char → Prop} {item : Spaced}
  {items : List Spaced} {xs : List α} {k : Nat} {start behind rest' : List Char}

/-- Each item is read as what it spells, whatever follows it. -/
def ReadsItems (read : Reader α) (spells : α → List Char → Prop) (items : List Spaced) : Prop :=
  ∀ item ∈ items, ∀ x rest rest', EndsNumber rest →
    (read (item.text ++ rest) = .ok (x, rest') ↔ spells x item.text ∧ rest' = rest)

theorem scanItems_close_iff (next : nextItem first text = .ok (false, ']' :: rest)) :
    scanItems read (k + 1) first text = .ok (xs, rest') ↔
      List.Forall₂ (fun x (item : Spaced) => spells x item.text) xs [] ∧ rest' = rest := by
  have bracket : closeList (']' :: rest) = .ok rest := rfl
  have closed : scanItems read (k + 1) first text = .ok ([], rest) := by
    simp only [scanItems, next, bind, Except.bind, Bool.false_eq_true, if_false, bracket]
    rfl
  rw [closed, List.forall₂_nil_right_iff, Except.ok.injEq, Prod.mk.injEq, eq_comm,
    @eq_comm _ rest]

theorem scanItems_item_iff (next : nextItem first text = .ok (true, start))
    (here : ∀ x rest', read start = .ok (x, rest') ↔ spells x item.text ∧ rest' = behind)
    (later : ∀ xs rest', scanItems read k false behind = .ok (xs, rest') ↔
      List.Forall₂ (fun x (item : Spaced) => spells x item.text) xs items ∧ rest' = rest) :
    scanItems read (k + 1) first text = .ok (xs, rest') ↔
      List.Forall₂ (fun x (item : Spaced) => spells x item.text) xs (item :: items) ∧
        rest' = rest := by
  rw [scanItems, next]
  show (read start).bind _ = _ ↔ _
  constructor
  · intro scan
    obtain ⟨⟨x, behind'⟩, read_here, scan⟩ := bind_eq_ok.mp scan
    obtain ⟨⟨xs', behind''⟩, more, last⟩ := bind_eq_ok.mp scan
    obtain ⟨spelled, rfl⟩ := (here _ _).mp read_here
    obtain ⟨all, rfl⟩ := (later _ _).mp more
    cases last
    exact ⟨.cons spelled all, rfl⟩
  · rintro ⟨_ | ⟨spelled, all⟩, rfl⟩
    have read_here := (here _ _).mpr ⟨spelled, rfl⟩
    have more := (later _ _).mpr ⟨all, rfl⟩
    exact bind_eq_ok.mpr ⟨_, read_here, bind_eq_ok.mpr ⟨_, more, rfl⟩⟩

theorem scanItems_further_iff (reads : ReadsItems read spells items)
    (starts : ∀ item ∈ items, StartsValue item.text) (blank : IsBlanks back)
    (enough : (further ']' (items.map Spaced.chars)).length ≤ k) :
    scanItems read k false (back ++ (further ']' (items.map Spaced.chars) ++ rest)) =
        .ok (xs, rest') ↔
      List.Forall₂ (fun x item => spells x item.text) xs items ∧ rest' = rest := by
  induction items generalizing k back xs rest' with
  | nil =>
    obtain ⟨k, rfl⟩ := Nat.exists_eq_add_one_of_ne_zero (Nat.ne_zero_of_lt enough)
    exact scanItems_close_iff (nextItem_close blank false rest)
  | cons item items ih =>
    rw [List.map_cons, length_further_cons] at enough
    obtain ⟨k, rfl⟩ := Nat.exists_eq_add_one_of_ne_zero (Nat.ne_zero_of_lt enough)
    have ends := endsNumber_append item.blank_back
      (endsNumber_further (.inl rfl) (items.map Spaced.chars) rest)
    rw [List.map_cons, further_cons, item.chars_append]
    refine scanItems_item_iff
      (nextItem_comma blank item.blank_front (starts item List.mem_cons_self) _)
      (fun x rest' => reads item List.mem_cons_self x _ rest' ends) fun xs rest' => ?_
    exact ih (fun other mem => reads other (List.mem_cons_of_mem _ mem))
      (fun other mem => starts other (List.mem_cons_of_mem _ mem)) item.blank_back (by omega)

theorem scanItems_enclosed_iff (reads : ReadsItems read spells items)
    (starts : ∀ item ∈ items, StartsValue item.text) (blank : IsBlanks blanks)
    (enough : (enclosed ']' blanks (items.map Spaced.chars)).length ≤ k) :
    scanItems read k true (enclosed ']' blanks (items.map Spaced.chars) ++ rest) =
        .ok (xs, rest') ↔
      List.Forall₂ (fun x item => spells x item.text) xs items ∧ rest' = rest := by
  cases items with
  | nil =>
    rw [List.map_nil, enclosed, List.length_append] at enough
    obtain ⟨k, rfl⟩ := Nat.exists_eq_add_one_of_ne_zero (Nat.ne_zero_of_lt enough)
    rw [List.map_nil, enclosed, List.append_assoc]
    exact scanItems_close_iff (nextItem_close blank true rest)
  | cons item items =>
    have long : 0 < item.text.length := by
      obtain ⟨c, more, same, -⟩ := starts item List.mem_cons_self
      simp [same]
    have := item.length_text_le
    rw [List.map_cons, length_enclosed_cons] at enough
    obtain ⟨k, rfl⟩ := Nat.exists_eq_add_one_of_ne_zero (n := k) (by omega)
    have ends := endsNumber_append item.blank_back
      (endsNumber_further (.inl rfl) (items.map Spaced.chars) rest)
    rw [List.map_cons, enclosed_cons, item.chars_append]
    refine scanItems_item_iff (nextItem_value item.blank_front (starts item List.mem_cons_self) _)
      (fun x rest' => reads item List.mem_cons_self x _ rest' ends) fun xs rest' => ?_
    exact scanItems_further_iff (fun other mem => reads other (List.mem_cons_of_mem _ mem))
      (fun other mem => starts other (List.mem_cons_of_mem _ mem)) item.blank_back (by omega)

end Items

/-! ## Keys -/

section Keys
variable {blanks front back quoted rest : List Char}

theorem nextKey_skipBlanks (first : Bool) (text : List Char) :
    nextKey first (skipBlanks text) = nextKey first text := by
  rw [nextKey, nextKey, skipBlanks_skipBlanks]

theorem nextKey_append (blank : IsBlanks blanks) (first : Bool) (text : List Char) :
    nextKey first (blanks ++ text) = nextKey first text := by
  rw [← nextKey_skipBlanks, skipBlanks_append blank, nextKey_skipBlanks]

theorem nextKey_quote (blank : IsBlanks front) (rest : List Char) :
    nextKey true (front ++ '"' :: rest) = .ok (true, rest) := by
  rw [nextKey_append blank]
  rfl

theorem nextKey_comma (blank : IsBlanks back) (blank' : IsBlanks front) (rest : List Char) :
    nextKey false (back ++ ',' :: (front ++ '"' :: rest)) = .ok (true, rest) := by
  rw [nextKey_append blank, nextKey, skipBlanks_of_shown (by decide)]
  split
  next other => cases other
  next other => exact absurd (List.cons.inj other).1 (by decide)
  next comma =>
    obtain ⟨rfl, rfl⟩ := List.cons.inj comma
    rw [if_neg Bool.false_ne_true, if_pos rfl, skipBlanks_append blank']
    rfl

theorem nextKey_close (blank : IsBlanks blanks) (first : Bool) (rest : List Char) :
    nextKey first (blanks ++ '\x7d' :: rest) = .ok (false, '\x7d' :: rest) := by
  rw [nextKey_append blank]
  rfl

theorem scanString_of_spells {key : String} {fuel : Nat} (spelled : SpellsText quoted key.toList)
    (enough : quoted.length < fuel) (rest : List Char) :
    scanString fuel (quoted ++ '"' :: rest) = .ok (key, rest) := by
  have short : key.toList.length < fuel := Nat.lt_of_le_of_lt spelled.length_le enough
  rw [scanString, scanStringChars_of_spells spelled short]
  show Except.ok (String.ofList key.toList, rest) = _
  rw [String.ofList_toList]

end Keys

end Json

/-! ## Formats -/

namespace Format

open Json

variable {α β : Type} {deep deep' : Nat} {spells : α → List Char → Prop}
  {spells' : β → List Char → Prop}

theorem ReadsJust.congr {format : Format α} {spells' : α → List Char → Prop}
    (just : format.ReadsJust deep spells) (same : ∀ x text, spells x text ↔ spells' x text) :
    format.ReadsJust deep spells' := by
  have : spells = spells' := funext fun x => funext fun text => propext (same x text)
  rw [← this]
  exact just

/-- A text spells one value at most. -/
theorem ReadsJust.unique {format : Format α} (just : format.ReadsJust deep spells) {x y : α}
    {text : List Char} (spelled : spells x text) (spelled' : spells y text) : x = y := by
  have read {z : α} (spelled : spells z text) :
      format.ofText (text.length + 1) deep (text ++ []) = .ok (z, []) :=
    (just.reads_iff (just.wellFormed spelled) endsNumber_nil (Nat.le_refl _)
      (Nat.lt_succ_self _)).mpr ⟨spelled, rfl⟩
  have same := (read spelled).symm.trans (read spelled')
  exact (Prod.mk.inj (Except.ok.inj same)).1

theorem ReadsJust.mono {format : Format α} (just : format.ReadsJust deep spells)
    (deeper : deep ≤ deep') : format.ReadsJust deep' spells where
  wellFormed := just.wellFormed
  blind := just.blind
  reads_iff := fun value ends deepest => just.reads_iff value ends (Nat.le_trans deeper deepest)

/-- A value is read with the blanks before it, and those behind it are left. -/
theorem ReadsJust.reads_spaced_iff {format : Format α} (just : format.ReadsJust deep spells)
    {item : Spaced} {fuel depth : Nat} {x : α} {rest rest' : List Char} (value : IsValue item.text)
    (ends : EndsNumber rest) (deeper : deep ≤ depth) (enough : item.text.length < fuel) :
    format.ofText fuel depth (item.chars ++ rest) = .ok (x, rest') ↔
      spells x item.text ∧ rest' = item.back ++ rest := by
  rw [item.chars_append, ← just.blind,
    skipBlanks_value item.blank_front (startsValue_of_isValue value)]
  exact just.reads_iff value (endsNumber_append item.blank_back ends) deeper enough

theorem readsJust_map {format : Format α} (just : format.ReadsJust deep spells) (f : α → β) :
    (format.map f).ReadsJust deep fun y text => ∃ x, spells x text ∧ f x = y where
  wellFormed := fun ⟨_, spelled, _⟩ => just.wellFormed spelled
  blind := fun fuel depth text => by
    simp only [map, just.blind]
  reads_iff := by
    intro fuel depth y text rest rest' value ends deeper enough
    have inner {x : α} {rest' : List Char} :
        format.ofText fuel depth (text ++ rest) = .ok (x, rest') ↔ spells x text ∧ rest' = rest :=
      just.reads_iff value ends deeper enough
    constructor
    · intro read
      obtain ⟨⟨x, behind⟩, read, last⟩ := bind_eq_ok.mp read
      obtain ⟨spelled, rfl⟩ := inner.mp read
      cases last
      exact ⟨⟨x, spelled, rfl⟩, rfl⟩
    · rintro ⟨⟨x, spelled, rfl⟩, rfl⟩
      exact bind_eq_ok.mpr ⟨_, inner.mpr ⟨spelled, rfl⟩, rfl⟩

/-- What is refused is read as nothing. -/
theorem not_read_of_refused {x : Except Fault (α × List Char)} (refused : x.toOption = none)
    {a : α} {rest : List Char} : x ≠ .ok (a, rest) := by
  rintro rfl
  cases refused

/-- A format that refuses all other signs reads only values that start with this one. -/
theorem head_of_read {format : Format α} {fuel depth : Nat} {x : α} {text rest rest' : List Char}
    (sign : Char) (expected : String)
    (refuses : ∀ {c more}, isBlank c = false → c ≠ sign →
      format.ofText fuel depth (c :: more) = refuse fuel expected (c :: more))
    (value : IsValue text) (read : format.ofText fuel depth (text ++ rest) = .ok (x, rest')) :
    ∃ more, text = sign :: more := by
  obtain ⟨c, more, rfl, shown, -⟩ := startsValue_of_isValue value
  by_cases same : c = sign
  · exact ⟨more, by rw [same]⟩
  · rw [List.cons_append, refuses shown same] at read
    exact absurd read (not_read_of_refused (toOption_refuse fuel expected _))

theorem readsJust_number (expected : String) (check : JsonNumber → Except Mismatch α) :
    (number expected check).ReadsJust 0 fun x text =>
      ∃ n, SpellsNumber n text ∧ check n = .ok x where
  wellFormed := fun ⟨_, spelled, _⟩ => .number spelled.1
  blind := fun fuel depth text => by
    simp only [number, skipBlanks_skipBlanks]
  reads_iff := by
    intro fuel depth x text rest rest' value ends _ _
    by_cases is_number : IsNumber text
    · exact ofText_number_iff is_number ends
    · have refused :
          ((number expected check).ofText fuel depth (text ++ rest)).toOption = none := by
        obtain ⟨c, more, rfl, shown, -⟩ := startsValue_of_isValue value
        have no_sign : c ≠ '-' := fun sign => is_number (isNumber_of_head value (.inl sign))
        have no_digit : c.isDigit ≠ true := fun digit =>
          is_number (isNumber_of_head value (.inr digit))
        rw [List.cons_append]
        simp only [number, skipBlanks_of_shown shown, if_neg no_digit]
        exact toOption_refuse fuel expected _
      refine iff_of_false (not_read_of_refused refused) ?_
      rintro ⟨⟨n, spelled, -⟩, -⟩
      exact is_number spelled.1

/-- Whole numbers from zero on are spelled by their digits alone. -/
theorem readsJust_whole {high : Int} (fits : high ≤ 18446744073709551615) (expected : String) :
    (whole 0 high expected).ReadsJust 0 fun i text =>
      IsWhole text ∧ i = (Nat.ofDigitChars 10 text 0 : Int) ∧ i ≤ high := by
  refine (readsJust_number expected _).congr fun i text => ?_
  constructor
  · rintro ⟨n, spelled, checked⟩
    cases n with
    | float x => cases checked
    | whole value value_fits =>
      dsimp only at checked
      split at checked
      next inside =>
        cases checked
        simp only [Bool.and_eq_true, decide_eq_true_eq] at inside
        obtain ⟨is_whole, same⟩ := (spellsNumber_whole_iff _).mp ⟨spelled, inside.1⟩
        exact ⟨is_whole, same, inside.2⟩
      next => cases checked
  · rintro ⟨is_whole, rfl, below⟩
    have value_fits : FitsWord (Nat.ofDigitChars 10 text 0 : Int) := by
      constructor <;> omega
    obtain ⟨spelled, natural⟩ :=
      (spellsNumber_whole_iff value_fits).mpr ⟨is_whole, rfl⟩
    refine ⟨_, spelled, ?_⟩
    dsimp only
    rw [if_pos (by simpa using below)]

/-- Words of a width are whole numbers up to the greatest of them. -/
theorem readsJust_word {high : Int} (fits : high ≤ 18446744073709551615) (expected : String)
    {ofNat : Nat → α} {toNat : α → Nat} (toNat_ofNat : ∀ n : Nat, n ≤ high → toNat (ofNat n) = n)
    (ofNat_toNat : ∀ v, ofNat (toNat v) = v) (toNat_le : ∀ v, toNat v ≤ high) :
    ((whole 0 high expected).map fun i => ofNat i.toNat).ReadsJust 0 fun v text =>
      IsWhole text ∧ Nat.ofDigitChars 10 text 0 = toNat v := by
  refine (readsJust_map (readsJust_whole fits expected) _).congr fun v text => ?_
  constructor
  · rintro ⟨_, ⟨is_whole, rfl, below⟩, rfl⟩
    rw [Int.toNat_natCast, toNat_ofNat _ below]
    exact ⟨is_whole, rfl⟩
  · rintro ⟨is_whole, same⟩
    refine ⟨(toNat v : Int), ⟨is_whole, by rw [same], toNat_le v⟩, ?_⟩
    rw [Int.toNat_natCast, ofNat_toNat]

/-- A spelling of a text between quotes. -/
def SpellsString (s : String) (text : List Char) : Prop :=
  ∃ inside, text = '"' :: (inside ++ ['"']) ∧ SpellsText inside s.toList

theorem readsJust_text : Format.text.ReadsJust 0 SpellsString where
  wellFormed := by
    rintro s _ ⟨inside, rfl, spelled⟩
    exact .string spelled.isInside
  blind := fun fuel depth text => by
    simp only [Format.text, skipBlanks_skipBlanks]
  reads_iff := by
    intro fuel depth s text rest rest' value ends _ enough
    have quoted (inside : List Char) : Format.text.ofText fuel depth
        ('"' :: (inside ++ ['"']) ++ rest) = scanString fuel (inside ++ '"' :: rest) := by
      show scanString fuel ((inside ++ ['"']).append rest) = _
      simp
    constructor
    · intro read
      obtain ⟨more, rfl⟩ := head_of_read '"' "a string"
        (fun shown other => by simp [Format.text, skipBlanks_of_shown shown, other]) value read
      obtain ⟨inside, is_inside, rfl⟩ := isValue_quote value
      rw [quoted] at read
      obtain ⟨⟨chars, behind⟩, scanned, last⟩ := bind_eq_ok.mp read
      cases last
      have spelled : SpellsText inside (String.ofList chars).toList := by
        rw [String.toList_ofList]
        exact spells_inside is_inside scanned
      simp only [List.length_cons, List.length_append] at enough
      have again := scanString_of_spells spelled (show inside.length < fuel by omega) rest
      rw [read] at again
      obtain ⟨-, rfl⟩ := Prod.mk.inj (Except.ok.inj again)
      exact ⟨⟨inside, rfl, spelled⟩, rfl⟩
    · rintro ⟨⟨inside, rfl, spelled⟩, rfl⟩
      simp only [List.length_cons, List.length_append] at enough
      rw [quoted, scanString_of_spells spelled (by omega)]

/-- A list in brackets spells its items one by one. -/
def SpellsList (spells : α → List Char → Prop) (xs : List α) (text : List Char) : Prop :=
  ∃ blanks items, IsBlanks blanks ∧ text = '[' :: enclosed ']' blanks (items.map Spaced.chars) ∧
    List.Forall₂ (fun x item => spells x item.text) xs items

/-- Two items in brackets spell a pair. -/
def SpellsPair (spells : α → List Char → Prop) (spells' : β → List Char → Prop) (p : α × β)
    (text : List Char) : Prop :=
  ∃ first second : Spaced, text = '[' :: enclosed ']' [] [first.chars, second.chars] ∧
    spells p.1 first.text ∧ spells' p.2 second.text

theorem isValue_of_forall₂ {items : List Spaced} {xs : List α}
    (wellFormed : ∀ {x text}, spells x text → IsValue text)
    (spelled : List.Forall₂ (fun x item => spells x item.text) xs items) :
    ∀ item ∈ items, IsValue item.text := by
  induction spelled with
  | nil => exact fun _ mem => nomatch mem
  | cons here _ ih =>
    intro item mem
    rcases List.mem_cons.mp mem with rfl | mem
    · exact wellFormed here
    · exact ih item mem

/-- Each item is read in turn, with the fuel that is there for all. -/
theorem ReadsJust.readsItems {format : Format α} (just : format.ReadsJust deep spells)
    {items : List Spaced} {blanks : List Char} {fuel depth : Nat} (deeper : deep ≤ depth)
    (values : ∀ item ∈ items, IsValue item.text)
    (enough : (enclosed ']' blanks (items.map Spaced.chars)).length ≤ fuel) :
    ReadsItems (format.ofText fuel depth) spells items := by
  intro item mem x rest rest' ends
  have shorter := length_lt_enclosed_of_mem ']' blanks
    (List.mem_map_of_mem (f := Spaced.chars) mem)
  have := item.length_text_le
  exact just.reads_iff (values item mem) ends deeper (by omega)

theorem readsJust_list {format : Format α} (just : format.ReadsJust deep spells) :
    (list format).ReadsJust (deep + 1) (SpellsList spells) where
  wellFormed := by
    rintro xs _ ⟨blanks, items, blank, rfl, spelled⟩
    exact .array blank (isValue_of_forall₂ just.wellFormed spelled)
  blind := fun fuel depth text => by
    simp only [list, skipBlanks_skipBlanks]
  reads_iff := by
    intro fuel depth xs text rest rest' value ends deeper enough
    obtain ⟨depth, rfl⟩ := Nat.exists_eq_add_one_of_ne_zero (Nat.ne_zero_of_lt deeper)
    have inside {blanks : List Char} {items : List Spaced} (blank : IsBlanks blanks)
        (values : ∀ item ∈ items, IsValue item.text)
        (enough : (enclosed ']' blanks (items.map Spaced.chars)).length ≤ fuel) :
        (list format).ofText fuel (depth + 1)
            ('[' :: enclosed ']' blanks (items.map Spaced.chars) ++ rest) = .ok (xs, rest') ↔
          List.Forall₂ (fun x item => spells x item.text) xs items ∧ rest' = rest :=
      scanItems_enclosed_iff (just.readsItems (Nat.le_of_succ_le_succ deeper) values enough)
        (fun item mem => startsValue_of_isValue (values item mem)) blank enough
    constructor
    · intro read
      obtain ⟨more, rfl⟩ := head_of_read '[' "a sequence"
        (fun shown other => by simp [list, skipBlanks_of_shown shown, other]) value read
      rw [List.length_cons] at enough
      obtain ⟨blanks, items, blank, values, rfl⟩ := isValue_bracket value
      obtain ⟨spelled, rfl⟩ := (inside blank values (by omega)).mp read
      exact ⟨⟨blanks, items, blank, rfl, spelled⟩, rfl⟩
    · rintro ⟨⟨blanks, items, blank, rfl, spelled⟩, rfl⟩
      rw [List.length_cons] at enough
      have values := isValue_of_forall₂ just.wellFormed spelled
      exact (inside blank values (by omega)).mpr ⟨spelled, rfl⟩

section Pairs
variable {first : Format α} {second : Format β} {fuel depth : Nat}
  {blanks text start behind : List Char}

/-- What is left to read of a pair after its first item. -/
def readSecond (second : Format β) (fuel depth : Nat) (x : α) : Reader (α × β) := fun text => do
  let (more, rest) ← nextItem false text
  if !more then stopAt (.mismatch (.wrongLength 1 pairName)) (passListClose rest)
  else
    let (y, rest) ← second.ofText fuel depth rest
    let rest ← closeList rest
    return ((x, y), rest)

theorem pair_of_next (next : nextItem true text = .ok (true, start)) :
    (pair first second).ofText fuel (depth + 1) ('[' :: text) =
      (first.ofText fuel depth start).bind fun p => readSecond second fuel depth p.1 p.2 := by
  show (nextItem true text).bind _ = _
  rw [next]
  rfl

theorem pair_of_close (next : nextItem true text = .ok (false, start)) :
    ((pair first second).ofText fuel (depth + 1) ('[' :: text)).toOption = none := by
  show ((nextItem true text).bind _).toOption = none
  rw [next]
  rfl

theorem readSecond_of_next (next : nextItem false text = .ok (true, start)) (x : α) :
    readSecond second fuel depth x text = (second.ofText fuel depth start).bind fun p =>
      (closeList p.2).bind fun rest => .ok ((x, p.1), rest) := by
  show (nextItem false text).bind _ = _
  rw [next]
  rfl

theorem readSecond_of_close (next : nextItem false text = .ok (false, start)) (x : α) :
    (readSecond second fuel depth x text).toOption = none := by
  show ((nextItem false text).bind _).toOption = none
  rw [next]
  rfl

/-- A list is closed behind its last item, and not before a further one. -/
theorem closeList_further_iff {back rest rest' : List Char} {items : List Spaced}
    (blank : IsBlanks back) (starts : ∀ item ∈ items, StartsValue item.text) :
    closeList (back ++ (further ']' (items.map Spaced.chars) ++ rest)) = .ok rest' ↔
      items = [] ∧ rest' = rest := by
  cases items with
  | nil =>
    rw [closeList, skipBlanks_append blank]
    show Except.ok rest = .ok rest' ↔ _
    simp [eq_comm]
  | cons item items =>
    have shown := skipBlanks_value item.blank_front (starts item List.mem_cons_self)
      (item.back ++ (further ']' (items.map Spaced.chars) ++ rest))
    have comma (text : List Char) : skipBlanks (',' :: text) = ',' :: text := rfl
    rw [List.map_cons, further_cons, item.chars_append, closeList, skipBlanks_append blank, comma]
    simp only [shown]
    refine iff_of_false ?_ fun h => List.cons_ne_nil _ _ h.1
    -- a comma stops the reader, whatever stands behind it
    split <;> (intro read; cases read)

/-- Of two or more items the first two are read as a pair, if there are no more. -/
theorem pair_two_iff (just : first.ReadsJust deep spells) (just' : second.ReadsJust deep' spells')
    {a b : Spaced} {items : List Spaced} {p : α × β} {rest rest' : List Char}
    (values : ∀ item ∈ a :: b :: items, IsValue item.text) (deeper : max deep deep' ≤ depth)
    (enough : (enclosed ']' blanks ((a :: b :: items).map Spaced.chars)).length ≤ fuel) :
    (pair first second).ofText fuel (depth + 1)
        ('[' :: (enclosed ']' blanks ((a :: b :: items).map Spaced.chars) ++ rest)) =
        .ok (p, rest') ↔
      (spells p.1 a.text ∧ spells' p.2 b.text) ∧ items = [] ∧ rest' = rest := by
  have starts : ∀ item ∈ a :: b :: items, StartsValue item.text :=
    fun item mem => startsValue_of_isValue (values item mem)
  have a_mem : a ∈ a :: b :: items := List.mem_cons_self
  have b_mem : b ∈ a :: b :: items := List.mem_cons_of_mem _ List.mem_cons_self
  have a_value := values a a_mem
  have b_value := values b b_mem
  have a_short := a.length_text_le
  have b_short := b.length_text_le
  simp only [List.map_cons, length_enclosed_cons, length_further_cons] at enough
  have ends := endsNumber_append a.blank_back
    (endsNumber_further (.inl rfl) (b.chars :: items.map Spaced.chars) rest)
  have ends' := endsNumber_append b.blank_back
    (endsNumber_further (.inl rfl) (items.map Spaced.chars) rest)
  have read_a {x : α} {behind : List Char} : first.ofText fuel depth (a.text ++ (a.back ++ _)) =
      .ok (x, behind) ↔ spells x a.text ∧ behind = a.back ++ _ :=
    just.reads_iff a_value ends (Nat.le_trans (Nat.le_max_left _ _) deeper) (by omega)
  have read_b {y : β} {behind : List Char} : second.ofText fuel depth (b.text ++ (b.back ++ _)) =
      .ok (y, behind) ↔ spells' y b.text ∧ behind = b.back ++ _ :=
    just'.reads_iff b_value ends' (Nat.le_trans (Nat.le_max_right _ _) deeper) (by omega)
  have close {rest' : List Char} :
      closeList (b.back ++ (further ']' (items.map Spaced.chars) ++ rest)) = .ok rest' ↔
        items = [] ∧ rest' = rest := closeList_further_iff b.blank_back
    (fun item mem => starts item (List.mem_cons_of_mem _ (List.mem_cons_of_mem _ mem)))
  rw [further_cons, b.chars_append] at read_a
  rw [List.map_cons, List.map_cons, enclosed_cons, further_cons, a.chars_append, b.chars_append,
    pair_of_next (nextItem_value a.blank_front (starts a a_mem) _)]
  constructor
  · intro read
    obtain ⟨⟨x, behind⟩, here, read⟩ := bind_eq_ok.mp read
    obtain ⟨spelled, rfl⟩ := read_a.mp here
    dsimp only at read
    rw [readSecond_of_next (nextItem_comma a.blank_back b.blank_front (starts b b_mem) _)] at read
    obtain ⟨⟨y, behind⟩, here, read⟩ := bind_eq_ok.mp read
    obtain ⟨spelled', rfl⟩ := read_b.mp here
    obtain ⟨behind, closed, last⟩ := bind_eq_ok.mp read
    obtain ⟨empty, rfl⟩ := close.mp closed
    cases last
    exact ⟨⟨spelled, spelled'⟩, empty, rfl⟩
  · rintro ⟨⟨spelled, spelled'⟩, empty, rfl⟩
    refine bind_eq_ok.mpr ⟨_, read_a.mpr ⟨spelled, rfl⟩, ?_⟩
    dsimp only
    rw [readSecond_of_next (nextItem_comma a.blank_back b.blank_front (starts b b_mem) _)]
    exact bind_eq_ok.mpr ⟨_, read_b.mpr ⟨spelled', rfl⟩,
      bind_eq_ok.mpr ⟨_, close.mpr ⟨empty, rfl⟩, rfl⟩⟩

/-- One item alone is no pair. -/
theorem pair_one (just : first.ReadsJust deep spells) {a : Spaced} {p : α × β}
    {rest rest' : List Char} (value : IsValue a.text) (deeper : max deep deep' ≤ depth)
    (enough : (enclosed ']' blanks [a.chars]).length ≤ fuel) :
    (pair first second).ofText fuel (depth + 1) ('[' :: (enclosed ']' blanks [a.chars] ++ rest)) ≠
      .ok (p, rest') := by
  have short := a.length_text_le
  have ends := endsNumber_append a.blank_back (endsNumber_further (.inl rfl) [] rest)
  rw [length_enclosed_cons, further] at enough
  simp only [List.length_append, List.length_singleton] at enough
  rw [enclosed_cons, a.chars_append,
    pair_of_next (nextItem_value a.blank_front (startsValue_of_isValue value) _)]
  intro read
  obtain ⟨⟨x, behind⟩, here, read⟩ := bind_eq_ok.mp read
  obtain ⟨-, rfl⟩ := (just.reads_iff value ends (Nat.le_trans (Nat.le_max_left _ _) deeper)
    (by omega)).mp here
  exact not_read_of_refused (readSecond_of_close (nextItem_close a.blank_back false rest) x) read

theorem readsJust_pair (just : first.ReadsJust deep spells)
    (just' : second.ReadsJust deep' spells') :
    (pair first second).ReadsJust (max deep deep' + 1) (SpellsPair spells spells') where
  wellFormed := by
    rintro p _ ⟨a, b, rfl, here, later⟩
    refine @IsValue.array [] [a, b] isBlanks_nil fun item mem => ?_
    rcases List.mem_pair.mp mem with rfl | rfl
    · exact just.wellFormed here
    · exact just'.wellFormed later
  blind := fun fuel depth text => by
    simp only [pair, skipBlanks_skipBlanks]
  reads_iff := by
    intro fuel depth p text rest rest' value ends deeper enough
    obtain ⟨depth, rfl⟩ := Nat.exists_eq_add_one_of_ne_zero (Nat.ne_zero_of_lt deeper)
    have deeper := Nat.le_of_succ_le_succ deeper
    constructor
    · intro read
      obtain ⟨more, rfl⟩ := head_of_read '[' pairName
        (fun shown other => by simp [pair, skipBlanks_of_shown shown, other]) value read
      rw [List.length_cons] at enough
      obtain ⟨blanks, items, blank, values, rfl⟩ := isValue_bracket value
      rw [List.cons_append] at read
      cases items with
      | nil =>
        rw [List.map_nil, enclosed, List.append_assoc] at read
        exact absurd read (not_read_of_refused (pair_of_close (nextItem_close blank true rest)))
      | cons a items =>
        cases items with
        | nil =>
          exact absurd read (pair_one just (values a List.mem_cons_self) deeper
            (Nat.le_of_lt (Nat.lt_of_succ_lt enough)))
        | cons b items =>
          obtain ⟨spelled, rfl, rfl⟩ := (pair_two_iff just just' values deeper (by omega)).mp read
          exact ⟨⟨a, b, rfl, spelled⟩, rfl⟩
    · rintro ⟨⟨a, b, rfl, spelled⟩, rfl⟩
      rw [List.length_cons] at enough
      have values : ∀ item ∈ [a, b], IsValue item.text := by
        intro item mem
        rcases List.mem_pair.mp mem with rfl | rfl
        · exact just.wellFormed spelled.1
        · exact just'.wellFormed spelled.2
      have short : (enclosed ']' [] ([a, b].map Spaced.chars)).length ≤ fuel :=
        Nat.le_of_lt (Nat.lt_of_succ_lt enough)
      exact (pair_two_iff just just' values deeper short).mpr ⟨spelled, rfl, rfl⟩

end Pairs

end Format

end CatalogClient

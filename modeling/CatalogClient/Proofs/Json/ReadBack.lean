import CatalogClient.Json.Reader
import CatalogClient.Proofs.Json.Tokens

/-!
# Documents read back

The compact form of a document reads as the document itself (`read_render`), as long as it nests no
deeper than readers go, its numbers are whole and its objects have their fields in order. The
induction is on the reader's fuel, which every list and every object takes one piece of.
-/

namespace CatalogClient

namespace Json

/-! ## Inside of documents -/

mutual

/-- How deep lists and objects nest. -/
def depth : Json → Nat
  | .null | .bool _ | .number _ | .string _ => 0
  | .array items => depthOfItems items + 1
  | .object fields => depthOfFields fields + 1

/-- How deep the deepest item nests. -/
def depthOfItems : List Json → Nat
  | [] => 0
  | item :: items => max (depth item) (depthOfItems items)

def depthOfField : String × Json → Nat
  | (_, value) => depth value

/-- How deep the deepest value of a field nests. -/
def depthOfFields : List (String × Json) → Nat
  | [] => 0
  | field :: fields => max (depthOfField field) (depthOfFields fields)

end

/-- What a document holds directly. -/
def children : Json → List Json
  | .array items => items
  | .object fields => fields.map Prod.snd
  | .null | .bool _ | .number _ | .string _ => []

/-- The document and all inside it have a property. -/
inductive Every (P : Json → Prop) : Json → Prop
  | intro {document : Json} : P document → (∀ child ∈ document.children, Every P child) →
    Every P document

theorem Every.here {P : Json → Prop} {document : Json} : Every P document → P document
  | .intro here _ => here

theorem Every.inside {P : Json → Prop} {document : Json} :
    Every P document → ∀ child ∈ document.children, Every P child
  | .intro _ inside => inside

/-- A number that is whole, and fields in the order of their keys, each key once. -/
def Exact : Json → Prop
  | .number (.float _) => False
  | .object fields => Fields.Ordered fields
  | _ => True

theorem depth_le_of_mem_items {item : Json} {items : List Json} (h : item ∈ items) :
    item.depth ≤ depthOfItems items := by
  induction items with
  | nil => cases h
  | cons first items ih =>
    rw [depthOfItems]
    rcases List.mem_cons.mp h with rfl | later
    · exact Nat.le_max_left _ _
    · exact Nat.le_trans (ih later) (Nat.le_max_right _ _)

theorem depth_le_of_mem_fields {key : String} {value : Json} {fields : List (String × Json)}
    (h : (key, value) ∈ fields) : value.depth ≤ depthOfFields fields := by
  induction fields with
  | nil => cases h
  | cons first fields ih =>
    rw [depthOfFields]
    rcases List.mem_cons.mp h with rfl | later
    · exact Nat.le_max_left value.depth _
    · exact Nat.le_trans (ih later) (Nat.le_max_right _ _)

/-! ## Lengths -/

theorem length_lt_renderItems (items : List Json) : items.length < (renderItems items).length := by
  induction items with
  | nil => exact Nat.zero_lt_one
  | cons item items ih =>
    simp only [renderItems, List.length_cons, List.length_append]
    omega

theorem length_lt_of_mem_items {item : Json} {items : List Json} (h : item ∈ items) :
    (renderChars item).length < (renderItems items).length := by
  induction items with
  | nil => cases h
  | cons first items ih =>
    simp only [renderItems, List.length_cons, List.length_append]
    rcases List.mem_cons.mp h with rfl | later
    · omega
    · have := ih later
      omega

theorem length_renderField (key : String) (value : Json) :
    (renderField (key, value)).length = (quote key).length + (renderChars value).length + 1 := by
  simp only [renderField, List.length_append, List.length_cons]
  omega

theorem length_lt_of_mem_fields {field : String × Json} {fields : List (String × Json)}
    (h : field ∈ fields) : (renderField field).length < (renderFields fields).length := by
  induction fields with
  | nil => cases h
  | cons first fields ih =>
    simp only [renderFields, List.length_cons, List.length_append]
    rcases List.mem_cons.mp h with rfl | later
    · omega
    · have := ih later
      omega

theorem length_lt_of_mem_array {item : Json} {items : List Json} (h : item ∈ items) :
    (renderChars item).length < (renderChars (.array items)).length := by
  have short := length_lt_of_mem_items h
  cases items with
  | nil => cases h
  | cons first items =>
    rw [renderItems, List.length_cons] at short
    rw [renderChars, List.length_cons]
    exact short

theorem length_lt_of_mem_object {key : String} {value : Json} {fields : Fields Json}
    (h : (key, value) ∈ fields) :
    (renderChars value).length < (renderChars (.object fields)).length := by
  have short := length_lt_of_mem_fields h
  cases fields with
  | nil => cases h
  | cons first fields =>
    rw [length_renderField, renderFields, List.length_cons] at short
    rw [renderChars, List.length_cons]
    omega

/-- A string takes a character at least for each of its own, and its quotes. -/
theorem length_lt_quote (text : String) : text.length + 1 < (quote text).length := by
  have all : ∀ chars : List Char, chars.length ≤ (chars.flatMap escapeChar).length := by
    intro chars
    induction chars with
    | nil => exact Nat.le_refl 0
    | cons c chars ih =>
      have some_char : 0 < (escapeChar c).length := by
        unfold escapeChar
        repeat' split
        all_goals exact Nat.succ_pos _
      simp only [List.flatMap_cons, List.length_cons, List.length_append]
      omega
  have := all text.toList
  rw [String.length_toList] at this
  simp only [quote, List.length_cons, List.length_append, List.length_nil]
  omega

/-! ## What stands where -/

/-- A value starts with a sign of its own. -/
def StartsValue (text : List Char) : Prop :=
  ∃ c rest, text = c :: rest ∧ isBlank c = false ∧ c ≠ ']'

theorem StartsValue.append {text : List Char} (starts : StartsValue text) (more : List Char) :
    StartsValue (text ++ more) := by
  obtain ⟨c, rest, rfl, shown, no_end⟩ := starts
  exact ⟨c, rest ++ more, rfl, shown, no_end⟩

theorem not_isBlank_of_isDigit {c : Char} (digit : c.isDigit = true) : isBlank c = false := by
  cases blank : isBlank c with
  | false => rfl
  | true =>
    simp only [isBlank, Bool.or_eq_true, decide_eq_true_eq] at blank
    rcases blank with ((rfl | rfl) | rfl) | rfl <;> exact absurd digit (by decide)

theorem exists_toDigits (n : Nat) :
    ∃ c digits, Nat.toDigits 10 n = c :: digits ∧ c.isDigit = true := by
  obtain ⟨c, digits, written⟩ := List.exists_cons_of_ne_nil
    (Nat.toDigits_ne_nil (n := n) (b := 10))
  exact ⟨c, digits, written, isDigit_of_mem_toDigits (n := n) (written ▸ List.mem_cons_self)⟩

theorem startsValue_toDigits (n : Nat) : StartsValue (Nat.toDigits 10 n) := by
  obtain ⟨c, digits, written, digit⟩ := exists_toDigits n
  refine ⟨c, digits, written, not_isBlank_of_isDigit digit, ?_⟩
  rintro rfl
  exact absurd digit (by decide)

/-- A whole number is written as digits, after a sign if it is negative. -/
theorem natural_or_negative (value : Int) :
    (∃ n : Nat, value = n) ∨ ∃ n : Nat, n ≠ 0 ∧ value = -n := by
  by_cases h : 0 ≤ value
  · exact .inl ⟨value.toNat, by omega⟩
  · exact .inr ⟨(-value).toNat, by omega, by omega⟩

theorem toList_render_ofNat {n : Nat} {fits : FitsWord (n : Int)} :
    (JsonNumber.whole n fits).render.toList = Nat.toDigits 10 n := by
  simp [JsonNumber.render, Int.repr_eq_if]

theorem toList_render_neg {n : Nat} {fits : FitsWord (-(n : Int))} (nonzero : n ≠ 0) :
    (JsonNumber.whole (-n) fits).render.toList = '-' :: Nat.toDigits 10 n := by
  simp [JsonNumber.render, Int.repr_eq_if, nonzero, String.toList_append]

theorem startsValue_renderChars {document : Json} (exact : Exact document) :
    StartsValue (renderChars document) := by
  have plain : ∀ {c : Char} (rest : List Char), isBlank c = false → c ≠ ']' →
      StartsValue (c :: rest) := fun {c} rest shown no_end => ⟨c, rest, rfl, shown, no_end⟩
  cases document with
  | null => exact plain _ rfl (by decide)
  | bool b => cases b <;> exact plain _ rfl (by decide)
  | string text => exact plain _ rfl (by decide)
  | array items => cases items <;> exact plain _ rfl (by decide)
  | object fields => cases fields <;> exact plain _ rfl (by decide)
  | number n =>
    cases n with
    | float x => exact absurd exact not_false
    | whole value fits =>
      rcases natural_or_negative value with ⟨n, rfl⟩ | ⟨n, nonzero, rfl⟩
      · rw [renderChars, toList_render_ofNat]
        exact startsValue_toDigits n
      · rw [renderChars, toList_render_neg nonzero]
        exact plain _ rfl (by decide)

theorem skipBlanks_of_startsValue {text : List Char} (starts : StartsValue text) :
    skipBlanks text = text := by
  obtain ⟨c, rest, rfl, shown, -⟩ := starts
  simp [skipBlanks, shown]

/-! ## Lists -/

theorem nextItem_first {text : List Char} (starts : StartsValue text) :
    nextItem true text = .ok (true, text) := by
  have skipped := skipBlanks_of_startsValue starts
  obtain ⟨c, rest, rfl, -, no_end⟩ := starts
  rw [nextItem, skipped]
  split <;> simp_all

theorem nextItem_later {text : List Char} (starts : StartsValue text) :
    nextItem false (',' :: text) = .ok (true, text) := by
  have skipped := skipBlanks_of_startsValue starts
  obtain ⟨c, rest, rfl, -, no_end⟩ := starts
  have comma : skipBlanks (',' :: c :: rest) = ',' :: c :: rest := by simp [skipBlanks, isBlank]
  rw [nextItem, comma]
  split
  next same => cases same
  next same => exact absurd (List.cons.inj same).1 (by decide)
  next same =>
    obtain ⟨rfl, rfl⟩ := List.cons.inj same
    rw [if_neg Bool.false_ne_true, if_pos rfl, skipped]
    split <;> simp_all

section Items
variable {reader : Reader Json}

/-- What follows an item ends a number. -/
theorem endsNumber_renderItems (items : List Json) (rest : List Char) :
    EndsNumber (renderItems items ++ rest) := by
  cases items <;> exact endsNumber_cons _ (by decide)

theorem scanItems_cons {item : Json} {items : List Json} {n : Nat} {first : Bool}
    {text rest : List Char} {after : List Char}
    (next : nextItem first text = .ok (true, renderChars item ++ after))
    (read : reader (renderChars item ++ after) = .ok (item, after))
    (more : scanItems reader n false after = .ok (items, rest)) :
    scanItems reader (n + 1) first text = .ok (item :: items, rest) := by
  simp only [scanItems, next, bind, Except.bind, if_true, read, more]
  rfl

/-- The items after the first are read back, and the closing bracket is passed. -/
theorem scanItems_renderItems {items : List Json} {n : Nat} {rest : List Char}
    (exact : ∀ item ∈ items, Exact item)
    (reads : ∀ item ∈ items, ∀ after, EndsNumber after →
      reader (renderChars item ++ after) = .ok (item, after))
    (enough : items.length < n) :
    scanItems reader n false (renderItems items ++ rest) = .ok (items, rest) := by
  induction items generalizing n with
  | nil =>
    obtain ⟨n, rfl⟩ := Nat.exists_eq_add_one_of_ne_zero (Nat.ne_zero_of_lt enough)
    rfl
  | cons item items ih =>
    obtain ⟨n, rfl⟩ := Nat.exists_eq_add_one_of_ne_zero (Nat.ne_zero_of_lt enough)
    have starts := (startsValue_renderChars (exact item List.mem_cons_self)).append
      (renderItems items ++ rest)
    rw [renderItems, List.cons_append, List.append_assoc]
    refine scanItems_cons (nextItem_later starts)
      (reads item List.mem_cons_self _ (endsNumber_renderItems items rest))
      (ih (fun other mem => exact other (List.mem_cons_of_mem _ mem))
        (fun other mem => reads other (List.mem_cons_of_mem _ mem)) ?_)
    exact Nat.lt_of_succ_lt_succ enough

end Items

/-! ## Objects -/

/-- What follows a field ends a number. -/
theorem endsNumber_renderFields (fields : List (String × Json)) (rest : List Char) :
    EndsNumber (renderFields fields ++ rest) := by
  cases fields <;> exact endsNumber_cons _ (by decide)

section Fields
variable {read : Fields Json → String → Reader (Fields Json)}

/-- A key's reader gets what stands behind the opening quote. -/
theorem scanFields_cons {key : String} {value : Json} {state state' : Fields Json} {n : Nat}
    {first : Bool} {text after : List Char} {x : Fields Json × List Char}
    (next : nextKey first text = .ok (true, (renderField (key, value)).tail ++ after))
    (short : key.length < n + 1)
    (here : read state key (':' :: (renderChars value ++ after)) = .ok (state', after))
    (more : scanFields read n false state' after = .ok x) :
    scanFields read (n + 1) first state text = .ok x := by
  have behind : (renderField (key, value)).tail ++ after =
      key.toList.flatMap escapeChar ++ '"' :: (':' :: (renderChars value ++ after)) := by
    simp [renderField, quote]
  simp only [scanFields, next, behind, bind, Except.bind, if_true, scanString_quote short, here,
    more]

/-- The fields after the first are read back one after the other, each put at the end of those
before, because its key comes after theirs. -/
theorem scanFields_renderFields (before : List (String × Json)) {fields : List (String × Json)}
    {n : Nat} {rest : List Char} (ordered : Fields.Ordered (before ++ fields))
    (reads : ∀ key value, (key, value) ∈ fields → ∀ state after, EndsNumber after →
      read state key (':' :: (renderChars value ++ after)) =
        .ok (Fields.insert key value state, after))
    (enough : (renderFields fields).length ≤ n) :
    scanFields read n false before (renderFields fields ++ rest) =
      .ok (before ++ fields, rest) := by
  induction fields generalizing n before with
  | nil =>
    obtain ⟨n, rfl⟩ := Nat.exists_eq_add_one_of_ne_zero (Nat.ne_zero_of_lt enough)
    rw [List.append_nil]
    rfl
  | cons field fields ih =>
    obtain ⟨key, value⟩ := field
    obtain ⟨n, rfl⟩ := Nat.exists_eq_add_one_of_ne_zero (Nat.ne_zero_of_lt enough)
    rw [renderFields, List.cons_append, List.append_assoc]
    rw [renderFields, List.length_cons, List.length_append, length_renderField] at enough
    have short := length_lt_quote key
    have last : ∀ f ∈ before, f.1 < key := fun f mem =>
      (List.pairwise_append.mp ordered).2.2 f mem (key, value) List.mem_cons_self
    have read_here := reads key value List.mem_cons_self before _
      (endsNumber_renderFields fields rest)
    rw [Fields.insert_of_all_lt last] at read_here
    rw [List.append_cons] at ordered ⊢
    exact scanFields_cons rfl (by omega) read_here
      (ih _ ordered (fun key value mem => reads key value (List.mem_cons_of_mem _ mem)) (by omega))

end Fields

/-! ## Values -/

/-- Reads a field from its colon on, and puts it in its place. -/
def readField (value : Reader Json) (fields : Fields Json) (key : String) : Reader (Fields Json) :=
  fun text => do
    let text ← scanColon text
    let (value, text) ← value text
    return (Fields.insert key value fields, text)

theorem readField_colon {reader : Reader Json} {value : Json} {text after : List Char}
    (read : reader text = .ok (value, after)) (fields : Fields Json) (key : String) :
    readField reader fields key (':' :: text) = .ok (Fields.insert key value fields, after) := by
  have colon : scanColon (':' :: text) = .ok text := rfl
  simp only [readField, colon, bind, Except.bind, read]
  rfl

/-- What starts with a digit goes to the reader of numbers. -/
theorem readValue_of_isDigit {c : Char} {fuel depth : Nat} {rest : List Char}
    (digit : c.isDigit = true) :
    readValue (fuel + 1) depth (c :: rest) =
      (scanNumber false (c :: rest)).bind fun p => .ok (.number p.1, p.2) := by
  have skipped : skipBlanks (c :: rest) = c :: rest := by
    simp [skipBlanks, not_isBlank_of_isDigit digit]
  rw [readValue, skipped]
  split
  next same => cases same
  -- the signs that other values start with are no digits
  iterate 7 next same => cases same; exact absurd digit (by decide)
  next same =>
    cases same
    rw [if_pos digit]
    rfl

theorem readValue_digits {n : Nat} {fuel depth : Nat} {rest : List Char} {fits : FitsWord (n : Int)}
    (ends : EndsNumber rest) :
    readValue (fuel + 1) depth (Nat.toDigits 10 n ++ rest) =
      .ok (.number (.whole n fits), rest) := by
  have read := scanNumber_toDigits false (n := n) (fun h => nomatch h) fits ends
  obtain ⟨c, digits, written, digit⟩ := exists_toDigits n
  rw [written, List.cons_append] at read ⊢
  rw [readValue_of_isDigit digit, read]
  rfl

theorem readValue_negative {n : Nat} {fuel depth : Nat} {rest : List Char}
    {fits : FitsWord (-(n : Int))} (nonzero : n ≠ 0) (ends : EndsNumber rest) :
    readValue (fuel + 1) depth ('-' :: (Nat.toDigits 10 n ++ rest)) =
      .ok (.number (.whole (-n) fits), rest) := by
  have read := scanNumber_toDigits true (fun _ => nonzero) fits ends
  show (scanNumber true (Nat.toDigits 10 n ++ rest)).bind _ = _
  rw [read]
  rfl

theorem readValue_string {text : String} {fuel depth : Nat} {rest : List Char}
    (enough : text.length < fuel + 1) :
    readValue (fuel + 1) depth (quote text ++ rest) = .ok (.string text, rest) := by
  have whole : quote text ++ rest = '"' :: (text.toList.flatMap escapeChar ++ '"' :: rest) := by
    simp [quote]
  rw [whole]
  show (scanString (fuel + 1) _).bind _ = _
  rw [scanString_quote enough]
  rfl

/-- A list is read back if its items are. -/
theorem readValue_array {items : List Json} {fuel depth : Nat} {rest : List Char}
    (exact : ∀ item ∈ items, Exact item)
    (reads : ∀ item ∈ items, ∀ after, EndsNumber after →
      readValue fuel depth (renderChars item ++ after) = .ok (item, after))
    (enough : (renderChars (.array items)).length ≤ fuel + 1) :
    readValue (fuel + 1) (depth + 1) (renderChars (.array items) ++ rest) =
      .ok (.array items, rest) := by
  cases items with
  | nil => rfl
  | cons item items =>
    rw [renderChars, List.length_cons, List.length_append] at enough
    have few := length_lt_renderItems items
    have starts := startsValue_renderChars (exact item List.mem_cons_self)
    rw [renderChars, List.cons_append, List.append_assoc]
    show (scanItems (readValue fuel depth) (fuel + 1) true _).bind _ = _
    rw [scanItems_cons (nextItem_first (starts.append _))
      (reads item List.mem_cons_self _ (endsNumber_renderItems items rest))
      (scanItems_renderItems (fun other mem => exact other (List.mem_cons_of_mem _ mem))
        (fun other mem => reads other (List.mem_cons_of_mem _ mem)) (by omega))]
    rfl

/-- An object is read back if its values are. -/
theorem readValue_object {fields : Fields Json} {fuel depth : Nat} {rest : List Char}
    (ordered : Fields.Ordered fields)
    (reads : ∀ key value, (key, value) ∈ fields → ∀ after, EndsNumber after →
      readValue fuel depth (renderChars value ++ after) = .ok (value, after))
    (enough : (renderChars (.object fields)).length ≤ fuel + 1) :
    readValue (fuel + 1) (depth + 1) (renderChars (.object fields) ++ rest) =
      .ok (.object fields, rest) := by
  cases fields with
  | nil => rfl
  | cons field fields =>
    obtain ⟨key, value⟩ := field
    have puts : ∀ k v, (k, v) ∈ (key, value) :: fields → ∀ state after, EndsNumber after →
        readField (readValue fuel depth) state k (':' :: (renderChars v ++ after)) =
          .ok (Fields.insert k v state, after) :=
      fun k v mem state after ends => readField_colon (reads k v mem after ends) state k
    have short := length_lt_quote key
    rw [renderChars, List.length_cons, List.length_append, length_renderField] at enough
    rw [renderChars, List.cons_append, List.append_assoc]
    show (scanFields (readField (readValue fuel depth)) (fuel + 1) true [] _).bind _ = _
    rw [scanFields_cons rfl (by omega)
      (puts key value List.mem_cons_self [] _ (endsNumber_renderFields fields rest))
      (scanFields_renderFields [(key, value)] ordered
        (fun k v mem => puts k v (List.mem_cons_of_mem _ mem)) (by omega))]
    rfl

/-- A document is read back, with fuel for each of its characters. -/
theorem readValue_renderChars {document : Json} {fuel depth : Nat} {rest : List Char}
    (exact : Every Exact document) (shallow : document.depth ≤ depth)
    (enough : (renderChars document).length ≤ fuel) (ends : EndsNumber rest) :
    readValue fuel depth (renderChars document ++ rest) = .ok (document, rest) := by
  induction fuel generalizing document depth rest with
  | zero =>
    obtain ⟨c, more, written, -⟩ := startsValue_renderChars exact.here
    rw [written] at enough
    cases enough
  | succ fuel ih =>
    cases document with
    | null => rfl
    | bool b => cases b <;> rfl
    | number n =>
      cases n with
      | float x => exact absurd exact.here not_false
      | whole value fits =>
        rcases natural_or_negative value with ⟨n, rfl⟩ | ⟨n, nonzero, rfl⟩
        · rw [renderChars, toList_render_ofNat]
          exact readValue_digits ends
        · rw [renderChars, toList_render_neg nonzero]
          exact readValue_negative nonzero ends
    | string text =>
      have := length_lt_quote text
      rw [renderChars] at enough ⊢
      exact readValue_string (by omega)
    | array items =>
      obtain ⟨depth, rfl⟩ := Nat.exists_eq_add_one_of_ne_zero (Nat.ne_zero_of_lt shallow)
      have shallow : depthOfItems items ≤ depth := Nat.le_of_succ_le_succ shallow
      refine readValue_array (fun item mem => (exact.inside item mem).here) ?_ enough
      -- every item is shorter than the list and nests less deep
      intro item mem after
      have short := length_lt_of_mem_array mem
      exact ih (exact.inside item mem) (Nat.le_trans (depth_le_of_mem_items mem) shallow)
        (by omega)
    | object fields =>
      obtain ⟨depth, rfl⟩ := Nat.exists_eq_add_one_of_ne_zero (Nat.ne_zero_of_lt shallow)
      have shallow : depthOfFields fields ≤ depth := Nat.le_of_succ_le_succ shallow
      refine readValue_object exact.here ?_ enough
      -- every value is shorter than the object and nests less deep
      intro key value mem after
      have short := length_lt_of_mem_object mem
      exact ih (exact.inside value (List.mem_map_of_mem mem))
        (Nat.le_trans (depth_le_of_mem_fields mem) shallow) (by omega)

/-! ## Whole texts -/

/-- **A document reads as itself.** What is written of a document that nests within the limit, has
whole numbers only and its fields in order, is read as this document. -/
theorem read_render {document : Json} (exact : Every Exact document)
    (shallow : document.depth ≤ depthLimit) : read document.render = .ok document := by
  have whole := readValue_renderChars exact shallow
    (Nat.le_succ (renderChars document).length) endsNumber_nil
  rw [List.append_nil] at whole
  have all : readAll (readValue ((renderChars document).length + 1) depthLimit)
      (renderChars document) = .ok document := by
    simp only [readAll, whole, bind, Except.bind]
    rfl
  simp only [read, readText, render, String.toList_ofList, all]

end Json

end CatalogClient

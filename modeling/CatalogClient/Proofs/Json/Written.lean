import CatalogClient.Proofs.Json.ReadBack
import CatalogClient.Proofs.Json.Skipped

/-!
# Documents as they are written

A document has its fields in the order of their keys, each key once. `readWritten` reads a text in
the same way but leaves its fields as they are written, so that it shows which keys are repeated;
`readValue` gives what it gives, with the fields put in order (`readValue_eq_sorted`). What a text
reads as is told apart by the sign it starts with (`Written`), and everything about readers of a
text is proved by that.
-/

namespace CatalogClient

namespace Json

/-! ## Lists and objects in a text -/

/-- Items stand in a text one after the other up to the closing bracket, each as it is read. -/
inductive ItemsAt {α : Type} (read : Reader α) :
    Nat → Bool → List Char → List α → List Char → Prop
  | close {fuel : Nat} {first : Bool} {text close rest : List Char} :
    nextItem first text = .ok (false, close) → closeList close = .ok rest →
    ItemsAt read (fuel + 1) first text [] rest
  | item {fuel : Nat} {first : Bool} {text start after rest : List Char} {x : α} {xs : List α} :
    nextItem first text = .ok (true, start) → read start = .ok (x, after) →
    ItemsAt read fuel false after xs rest → ItemsAt read (fuel + 1) first text (x :: xs) rest

/-- Fields stand in a text one after the other up to the closing brace, each value as it is read. -/
inductive FieldsAt {α : Type} (read : Reader α) :
    Nat → Bool → List Char → List (String × α) → List Char → Prop
  | close {fuel : Nat} {first : Bool} {text close rest : List Char} :
    nextKey first text = .ok (false, close) → closeObject close = .ok rest →
    FieldsAt read (fuel + 1) first text [] rest
  | field {fuel : Nat} {first : Bool} {text start colon behind after rest : List Char}
    {key : String} {x : α} {fields : List (String × α)} :
    nextKey first text = .ok (true, start) → scanString (fuel + 1) start = .ok (key, colon) →
    scanColon colon = .ok behind → read behind = .ok (x, after) →
    FieldsAt read fuel false after fields rest →
    FieldsAt read (fuel + 1) first text ((key, x) :: fields) rest

section Sequences
variable {α β : Type} {read : Reader α} {fuel : Nat} {first : Bool} {text rest : List Char}

theorem scanItems_eq_ok_iff {xs : List α} :
    scanItems read fuel first text = .ok (xs, rest) ↔ ItemsAt read fuel first text xs rest := by
  constructor
  · intro scanned
    induction fuel generalizing first text xs with
    | zero => cases scanned
    | succ fuel ih =>
      obtain ⟨⟨more, start⟩, next, scanned⟩ := bind_eq_ok.mp scanned
      cases more with
      | true =>
        obtain ⟨⟨x, after⟩, read_here, scanned⟩ := bind_eq_ok.mp scanned
        obtain ⟨⟨xs, rest⟩, scanned, last⟩ := bind_eq_ok.mp scanned
        cases last
        exact .item next read_here (ih scanned)
      | false =>
        obtain ⟨rest, closed, last⟩ := bind_eq_ok.mp scanned
        cases last
        exact .close next closed
  · intro stand
    induction stand with
    | close next closed => exact bind_eq_ok.mpr ⟨_, next, bind_eq_ok.mpr ⟨_, closed, rfl⟩⟩
    | item next read_here _ ih =>
      exact bind_eq_ok.mpr ⟨_, next, bind_eq_ok.mpr ⟨_, read_here, bind_eq_ok.mpr ⟨_, ih, rfl⟩⟩⟩

/-- Reads a field from its colon on, and puts it behind those before it. -/
def appendField (read : Reader α) (fields : List (String × α)) (key : String) :
    Reader (List (String × α)) := fun text => do
  let text ← scanColon text
  let (x, text) ← read text
  return (fields ++ [(key, x)], text)

theorem scanFields_eq_ok_iff {before fields : List (String × α)} :
    scanFields (appendField read) fuel first before text = .ok (fields, rest) ↔
      ∃ more, fields = before ++ more ∧ FieldsAt read fuel first text more rest := by
  constructor
  · intro scanned
    induction fuel generalizing first text before with
    | zero => cases scanned
    | succ fuel ih =>
      obtain ⟨⟨more, start⟩, next, scanned⟩ := bind_eq_ok.mp scanned
      cases more with
      | true =>
        obtain ⟨⟨key, colon⟩, key_read, scanned⟩ := bind_eq_ok.mp scanned
        obtain ⟨⟨state, after⟩, field_read, scanned⟩ := bind_eq_ok.mp scanned
        obtain ⟨behind, passed, field_read⟩ := bind_eq_ok.mp field_read
        obtain ⟨⟨x, after⟩, read_here, last⟩ := bind_eq_ok.mp field_read
        cases last
        obtain ⟨more, rfl, stand⟩ := ih scanned
        exact ⟨(key, x) :: more, by simp, .field next key_read passed read_here stand⟩
      | false =>
        obtain ⟨rest, closed, last⟩ := bind_eq_ok.mp scanned
        cases last
        exact ⟨[], (List.append_nil _).symm, .close next closed⟩
  · rintro ⟨more, rfl, stand⟩
    induction stand generalizing before with
    | close next closed =>
      rw [List.append_nil]
      exact bind_eq_ok.mpr ⟨_, next, bind_eq_ok.mpr ⟨_, closed, rfl⟩⟩
    | @field fuel first text start colon behind after rest key x fields next key_read passed
        read_here _ ih =>
      have field_read : appendField read before key colon = .ok (before ++ [(key, x)], after) :=
        bind_eq_ok.mpr ⟨_, passed, bind_eq_ok.mpr ⟨_, read_here, rfl⟩⟩
      have later := @ih (before ++ [(key, x)])
      rw [List.append_assoc] at later
      exact bind_eq_ok.mpr ⟨_, next, bind_eq_ok.mpr ⟨_, key_read, bind_eq_ok.mpr ⟨_, field_read,
        later⟩⟩⟩

/-- A reader that gives all that another one gives does so of a list as well. -/
theorem ItemsAt.imp {read' : Reader α} {xs : List α}
    (more : ∀ text x, read text = .ok x → read' text = .ok x)
    (stand : ItemsAt read fuel first text xs rest) : ItemsAt read' fuel first text xs rest := by
  induction stand with
  | close next closed => exact .close next closed
  | item next read_here _ ih => exact .item next (more _ _ read_here) ih

theorem FieldsAt.imp {read' : Reader α} {fields : List (String × α)}
    (more : ∀ text x, read text = .ok x → read' text = .ok x)
    (stand : FieldsAt read fuel first text fields rest) :
    FieldsAt read' fuel first text fields rest := by
  induction stand with
  | close next closed => exact .close next closed
  | field next key_read passed read_here _ ih =>
    exact .field next key_read passed (more _ _ read_here) ih

/-- More fuel than it takes makes no difference. -/
theorem ItemsAt.succ {xs : List α} (stand : ItemsAt read fuel first text xs rest) :
    ItemsAt read (fuel + 1) first text xs rest := by
  induction stand with
  | close next closed => exact .close next closed
  | item next read_here _ ih => exact .item next read_here ih

theorem FieldsAt.succ {fields : List (String × α)}
    (stand : FieldsAt read fuel first text fields rest) :
    FieldsAt read (fuel + 1) first text fields rest := by
  induction stand with
  | close next closed => exact .close next closed
  | field next key_read passed read_here _ ih =>
    exact .field next (scanString_succ key_read) passed read_here ih

end Sequences

/-! ## Documents as written -/

/-- Reads a value that nests at most `depth` deep, with all fields of its objects in the order in which
they are written, also those of a key that comes again. -/
def readWritten : Nat → Nat → Reader Json
  | 0, _, text => stopAt .endInValue text
  | fuel + 1, depth, text =>
    match skipBlanks text with
    | [] => stopAt .endInValue []
    | 'n' :: rest => do
      let rest ← scanWord ['u', 'l', 'l'] rest
      return (.null, rest)
    | 't' :: rest => do
      let rest ← scanWord ['r', 'u', 'e'] rest
      return (.bool true, rest)
    | 'f' :: rest => do
      let rest ← scanWord ['a', 'l', 's', 'e'] rest
      return (.bool false, rest)
    | '-' :: rest => do
      let (n, rest) ← scanNumber true rest
      return (.number n, rest)
    | '"' :: rest => do
      let (s, rest) ← scanString (fuel + 1) rest
      return (.string s, rest)
    | '[' :: rest =>
      match depth with
      | 0 => stopAfterNext .tooDeep ('[' :: rest)
      | depth + 1 => do
        let (items, rest) ← scanItems (readWritten fuel depth) (fuel + 1) true rest
        return (.array items, rest)
    | '\x7b' :: rest =>
      match depth with
      | 0 => stopAfterNext .tooDeep ('\x7b' :: rest)
      | depth + 1 => do
        let (fields, rest) ←
          scanFields (appendField (readWritten fuel depth)) (fuel + 1) true [] rest
        return (.object fields, rest)
    | c :: rest =>
      if c.isDigit then do
        let (n, rest) ← scanNumber false (c :: rest)
        return (.number n, rest)
      else stopAfterNext .noValue (c :: rest)

/-- What stands in a text from its first sign on, given how values inside of it are read. -/
inductive Written (read : Nat → Reader Json) (fuel : Nat) :
    Nat → List Char → Json → List Char → Prop
  | null {depth : Nat} {text rest : List Char} :
    scanWord ['u', 'l', 'l'] text = .ok rest → Written read fuel depth ('n' :: text) .null rest
  | true {depth : Nat} {text rest : List Char} :
    scanWord ['r', 'u', 'e'] text = .ok rest →
    Written read fuel depth ('t' :: text) (.bool true) rest
  | false {depth : Nat} {text rest : List Char} :
    scanWord ['a', 'l', 's', 'e'] text = .ok rest →
    Written read fuel depth ('f' :: text) (.bool false) rest
  | negative {depth : Nat} {text rest : List Char} {n : JsonNumber} :
    scanNumber Bool.true text = .ok (n, rest) →
    Written read fuel depth ('-' :: text) (.number n) rest
  | number {depth : Nat} {text rest : List Char} {c : Char} {n : JsonNumber} : c.isDigit →
    scanNumber Bool.false (c :: text) = .ok (n, rest) →
    Written read fuel depth (c :: text) (.number n) rest
  | string {depth : Nat} {text rest : List Char} {s : String} :
    scanString fuel text = .ok (s, rest) → Written read fuel depth ('"' :: text) (.string s) rest
  | array {depth : Nat} {text rest : List Char} {items : List Json} :
    ItemsAt (read depth) fuel Bool.true text items rest →
    Written read fuel (depth + 1) ('[' :: text) (.array items) rest
  | object {depth : Nat} {text rest : List Char} {fields : List (String × Json)} :
    FieldsAt (read depth) fuel Bool.true text fields rest →
    Written read fuel (depth + 1) ('\x7b' :: text) (.object fields) rest

section Written
variable {fuel depth : Nat} {text rest : List Char} {document : Json}

theorem readWritten_eq_ok_iff :
    readWritten (fuel + 1) depth text = .ok (document, rest) ↔
      Written (readWritten fuel) (fuel + 1) depth (skipBlanks text) document rest := by
  constructor
  · intro scanned
    rw [readWritten] at scanned
    generalize skipBlanks text = shown at scanned ⊢
    split at scanned
    next => cases scanned
    next =>
      obtain ⟨behind, word, last⟩ := bind_eq_ok.mp scanned
      cases last
      exact .null word
    next =>
      obtain ⟨behind, word, last⟩ := bind_eq_ok.mp scanned
      cases last
      exact .true word
    next =>
      obtain ⟨behind, word, last⟩ := bind_eq_ok.mp scanned
      cases last
      exact .false word
    next =>
      obtain ⟨⟨n, behind⟩, number, last⟩ := bind_eq_ok.mp scanned
      cases last
      exact .negative number
    next =>
      obtain ⟨⟨s, behind⟩, string, last⟩ := bind_eq_ok.mp scanned
      cases last
      exact .string string
    next =>
      split at scanned
      next => cases scanned
      next =>
        obtain ⟨⟨items, behind⟩, read, last⟩ := bind_eq_ok.mp scanned
        cases last
        exact .array (scanItems_eq_ok_iff.mp read)
    next =>
      split at scanned
      next => cases scanned
      next =>
        obtain ⟨⟨fields, behind⟩, read, last⟩ := bind_eq_ok.mp scanned
        cases last
        obtain ⟨fields, rfl, stand⟩ := scanFields_eq_ok_iff.mp read
        exact .object stand
    next =>
      split at scanned
      next digit =>
        obtain ⟨⟨n, behind⟩, number, last⟩ := bind_eq_ok.mp scanned
        cases last
        exact .number digit number
      next => cases scanned
  · intro written
    rw [readWritten]
    generalize skipBlanks text = shown at written ⊢
    cases written with
    | null word | true word | false word => exact bind_eq_ok.mpr ⟨_, word, rfl⟩
    | negative number => exact bind_eq_ok.mpr ⟨_, number, rfl⟩
    | string string => exact bind_eq_ok.mpr ⟨_, string, rfl⟩
    | array stand => exact bind_eq_ok.mpr ⟨_, scanItems_eq_ok_iff.mpr stand, rfl⟩
    | object stand =>
      exact bind_eq_ok.mpr ⟨_, scanFields_eq_ok_iff.mpr ⟨_, rfl, stand⟩, rfl⟩
    | number digit number =>
      split
      next same => cases same
      -- the signs that other values start with are no digits
      iterate 7 next same => cases same; exact absurd digit (by decide)
      next same =>
        cases same
        rw [if_pos digit]
        exact bind_eq_ok.mpr ⟨_, number, rfl⟩

theorem Written.imp {read read' : Nat → Reader Json} {shown : List Char}
    (more : ∀ depth text x, read depth text = .ok x → read' depth text = .ok x)
    (written : Written read fuel depth shown document rest) :
    Written read' fuel depth shown document rest := by
  cases written with
  | null word => exact .null word
  | true word => exact .true word
  | false word => exact .false word
  | negative number => exact .negative number
  | number digit number => exact .number digit number
  | string string => exact .string string
  | array stand => exact .array (stand.imp (more _))
  | object stand => exact .object (stand.imp (more _))

theorem Written.succ {read : Nat → Reader Json} {shown : List Char}
    (written : Written read fuel depth shown document rest) :
    Written read (fuel + 1) depth shown document rest := by
  cases written with
  | null word => exact .null word
  | true word => exact .true word
  | false word => exact .false word
  | negative number => exact .negative number
  | number digit number => exact .number digit number
  | string string => exact .string (scanString_succ string)
  | array stand => exact .array stand.succ
  | object stand => exact .object stand.succ

/-- More fuel than it takes makes no difference. -/
theorem readWritten_succ (scanned : readWritten fuel depth text = .ok (document, rest)) :
    readWritten (fuel + 1) depth text = .ok (document, rest) := by
  induction fuel generalizing depth text document rest with
  | zero => cases scanned
  | succ fuel ih =>
    rw [readWritten_eq_ok_iff] at scanned ⊢
    exact (scanned.imp fun _ _ _ scanned => ih scanned).succ

/-- What is inside of a value can be read with as much fuel as the value itself. -/
theorem written_of_readWritten (scanned : readWritten fuel depth text = .ok (document, rest)) :
    Written (readWritten fuel) fuel depth (skipBlanks text) document rest := by
  cases fuel with
  | zero => cases scanned
  | succ fuel =>
    exact (readWritten_eq_ok_iff.mp scanned).imp fun _ _ _ scanned => readWritten_succ scanned

theorem readWritten_skipBlanks (fuel depth : Nat) (text : List Char) :
    readWritten (fuel + 1) depth (skipBlanks text) = readWritten (fuel + 1) depth text := by
  rw [readWritten, readWritten, skipBlanks_skipBlanks]

end Written

/-! ## Fields in order -/

mutual

/-- The document with the fields of all its objects in order, each key once. -/
def sorted : Json → Json
  | .array items => .array (sortedItems items)
  | .object fields => .object (Fields.ofList (sortedFields fields))
  | document => document

def sortedItems : List Json → List Json
  | [] => []
  | item :: items => sorted item :: sortedItems items

def sortedField : String × Json → String × Json
  | (key, value) => (key, sorted value)

def sortedFields : List (String × Json) → List (String × Json)
  | [] => []
  | field :: fields => sortedField field :: sortedFields fields

end

theorem sortedItems_eq_map (items : List Json) : sortedItems items = items.map sorted := by
  induction items with
  | nil => rfl
  | cons item items ih => rw [sortedItems, ih, List.map_cons]

theorem sortedFields_eq_map (fields : List (String × Json)) :
    sortedFields fields = fields.map fun field => (field.1, field.2.sorted) := by
  induction fields with
  | nil => rfl
  | cons field fields ih =>
    rw [sortedFields, ih, List.map_cons, sortedField]

section Sorted
variable {α β σ τ : Type}

theorem bind_eq_map_bind {ε : Type} {x : Except ε α} {f : α → Except ε τ} {g : α → Except ε σ}
    {h : σ → τ} (same : ∀ a, f a = (g a).map h) : x >>= f = (x >>= g).map h := by
  cases x with
  | error e => rfl
  | ok a => exact same a

theorem scanItems_map {g : α → β} {item : Reader α} {item' : Reader β}
    (same : ∀ text, item' text = (item text).map (Prod.map g id)) (fuel : Nat) (first : Bool)
    (text : List Char) :
    scanItems item' fuel first text =
      (scanItems item fuel first text).map (Prod.map (List.map g) id) := by
  induction fuel generalizing first text with
  | zero => rfl
  | succ fuel ih =>
    simp only [scanItems, bind, Except.bind]
    cases nextItem first text with
    | error fault => rfl
    | ok next =>
      obtain ⟨more, start⟩ := next
      cases more with
      | true =>
        simp only [if_true, same]
        cases item start with
        | error fault => rfl
        | ok read =>
          obtain ⟨x, after⟩ := read
          simp only [Except.map, Prod.map, id_eq, ih]
          cases scanItems item fuel false after <;> rfl
      | false =>
        simp only [Bool.false_eq_true, if_false]
        cases closeList start <;> rfl

theorem scanFields_map {h : σ → τ} {field : σ → String → Reader σ} {field' : τ → String → Reader τ}
    (same : ∀ state key text, field' (h state) key text =
      (field state key text).map (Prod.map h id)) (fuel : Nat) (first : Bool) (state : σ)
    (text : List Char) :
    scanFields field' fuel first (h state) text =
      (scanFields field fuel first state text).map (Prod.map h id) := by
  induction fuel generalizing first state text with
  | zero => rfl
  | succ fuel ih =>
    simp only [scanFields, bind, Except.bind]
    cases nextKey first text with
    | error fault => rfl
    | ok next =>
      obtain ⟨more, start⟩ := next
      cases more with
      | true =>
        simp only [if_true]
        cases scanString (fuel + 1) start with
        | error fault => rfl
        | ok read =>
          obtain ⟨key, colon⟩ := read
          simp only [same]
          cases field state key colon with
          | error fault => rfl
          | ok read => exact ih false read.1 read.2
      | false =>
        simp only [Bool.false_eq_true, if_false]
        cases closeObject start <;> rfl

/-- A field put in its place, when those before it are in place, is a field put in order. -/
theorem readField_sorted {read read' : Reader Json}
    (same : ∀ text, read' text = (read text).map (Prod.map sorted id))
    (fields : List (String × Json)) (key : String) (text : List Char) :
    readField read' (Fields.ofList (sortedFields fields)) key text =
      (appendField read fields key text).map
        (Prod.map (fun fields => Fields.ofList (sortedFields fields)) id) := by
  simp only [readField, appendField, bind, Except.bind]
  cases scanColon text with
  | error fault => rfl
  | ok behind =>
    simp only [same]
    cases read behind with
    | error fault => rfl
    | ok value =>
      simp only [Except.map, Prod.map, pure, Except.pure, sortedFields_eq_map, List.map_append,
        Fields.ofList, List.foldl_append]
      rfl

/-- **A document is what is written, put in order.** -/
theorem readValue_eq_sorted (fuel depth : Nat) (text : List Char) :
    readValue fuel depth text = (readWritten fuel depth text).map (Prod.map sorted id) := by
  induction fuel generalizing depth text with
  | zero => rfl
  | succ fuel ih =>
    rw [readValue, readWritten]
    generalize skipBlanks text = shown
    split
    next => rfl
    -- words, a number after its sign, and a string
    iterate 5 next => exact bind_eq_map_bind fun _ => rfl
    next rest =>
      cases depth with
      | zero => rfl
      | succ depth =>
        show (scanItems (readValue fuel depth) (fuel + 1) true rest).bind _ =
          ((scanItems (readWritten fuel depth) (fuel + 1) true rest).bind _).map _
        rw [scanItems_map (ih depth)]
        cases scanItems (readWritten fuel depth) (fuel + 1) true rest with
        | error fault => rfl
        | ok read =>
          obtain ⟨items, rest⟩ := read
          show Except.ok (array (items.map sorted), rest) = .ok ((array items).sorted, rest)
          rw [sorted, sortedItems_eq_map]
    next rest =>
      cases depth with
      | zero => rfl
      | succ depth =>
        show (scanFields (readField (readValue fuel depth)) (fuel + 1) true [] rest).bind _ =
          ((scanFields (appendField (readWritten fuel depth)) (fuel + 1) true [] rest).bind _).map _
        have same := scanFields_map (readField_sorted (ih depth)) (fuel + 1) true [] rest
        rw [show (Fields.ofList (sortedFields []) : Fields Json) = [] from rfl] at same
        rw [same]
        cases scanFields (appendField (readWritten fuel depth)) (fuel + 1) true [] rest <;> rfl
    next c rest _ _ _ _ _ _ _ =>
      by_cases digit : c.isDigit = true
      · simp only [*, if_true]
        exact bind_eq_map_bind fun _ => rfl
      · simp only [*]
        rfl

end Sorted

/-- Reads a whole text as one document, with its fields as they are written. -/
def readAsWritten (text : String) : Except JsonError Json :=
  readText (fun fuel => readWritten fuel depthLimit) text

theorem readText_eq_ok_iff {α : Type} {reader : Nat → Reader α} {text : String} {x : α} :
    readText reader text = .ok x ↔
      ∃ rest, reader (text.toList.length + 1) text.toList = .ok (x, rest) ∧
        skipBlanks rest = [] := by
  have all : readText reader text = .ok x ↔
      readAll (reader (text.toList.length + 1)) text.toList = .ok x := by
    simp only [readText]
    cases readAll (reader (text.toList.length + 1)) text.toList with
    | ok y => simp only [Except.ok.injEq]
    | error fault => simp only [reduceCtorEq]
  rw [all]
  constructor
  · intro whole
    obtain ⟨⟨y, rest⟩, front, last⟩ := bind_eq_ok.mp whole
    refine ⟨rest, ?_⟩
    cases blank : skipBlanks rest with
    | nil =>
      simp only [blank] at last
      cases last
      exact ⟨front, rfl⟩
    | cons c behind =>
      simp only [blank] at last
      cases last
  · rintro ⟨rest, front, blank⟩
    refine bind_eq_ok.mpr ⟨_, front, ?_⟩
    simp only [blank]
    rfl

/-- A text that reads as a document also reads as it is written, and the document is that in order. -/
theorem readAsWritten_of_read {text : String} {document : Json}
    (parsed : read text = .ok document) :
    ∃ written, readAsWritten text = .ok written ∧ written.sorted = document := by
  obtain ⟨rest, scanned, blank⟩ := readText_eq_ok_iff.mp parsed
  rw [readValue_eq_sorted] at scanned
  cases as_written : readWritten (text.toList.length + 1) depthLimit text.toList with
  | error fault => rw [as_written] at scanned; cases scanned
  | ok value =>
    rw [as_written] at scanned
    cases scanned
    exact ⟨value.1, readText_eq_ok_iff.mpr ⟨value.2, as_written, blank⟩, rfl⟩

/-! ## Between items and fields -/

/-- How a list or an object goes on in a text: it is closed, or something begins, behind a comma if
it is not the first. -/
inductive GoesOn (close : Char) (begins : List Char → List Char → Prop) :
    Bool → List Char → Bool × List Char → Prop
  | close {first : Bool} {text behind : List Char} : skipBlanks text = close :: behind →
    GoesOn close begins first text (false, close :: behind)
  | first {text start : List Char} : begins (skipBlanks text) start →
    GoesOn close begins true text (true, start)
  | later {text behind start : List Char} : skipBlanks text = ',' :: behind →
    begins (skipBlanks behind) start → GoesOn close begins false text (true, start)

/-- An item begins with whatever does not close the list. -/
def BeginsItem (shown start : List Char) : Prop :=
  shown = start ∧ ∃ c behind, start = c :: behind ∧ c ≠ ']'

/-- A key begins with its quote, and is read behind it. -/
def BeginsKey (shown start : List Char) : Prop := shown = '"' :: start

section Between
variable {first : Bool} {text : List Char} {found : Bool × List Char}

theorem goesOn_of_nextItem (next : nextItem first text = .ok found) :
    GoesOn ']' BeginsItem first text found := by
  rw [nextItem] at next
  split at next
  next => cases next
  next shown =>
    cases next
    exact .close shown
  next c behind no_close shown =>
    cases first with
    | true =>
      cases next
      exact .first ⟨shown, c, behind, rfl, no_close⟩
    | false =>
      split at next
      next absurd => cases absurd
      split at next
      next comma =>
        subst comma
        split at next
        next => cases next
        next => cases next
        next no_end no_close =>
          cases next
          obtain ⟨c, more, same⟩ := List.exists_cons_of_ne_nil no_end
          exact .later shown ⟨rfl, c, more, same, fun close => no_close more (close ▸ same)⟩
      next => cases next

theorem goesOn_of_nextKey (next : nextKey first text = .ok found) :
    GoesOn '\x7d' BeginsKey first text found := by
  rw [nextKey] at next
  split at next
  next => cases next
  next shown =>
    cases next
    exact .close shown
  next c behind no_close shown =>
    cases first with
    | true =>
      split at next
      next =>
        split at next
        next quote =>
          subst quote
          cases next
          exact .first shown
        next => cases next
      next no_first => exact absurd rfl no_first
    | false =>
      split at next
      next absurd => cases absurd
      split at next
      next comma =>
        subst comma
        split at next
        next => cases next
        next quote =>
          cases next
          exact .later shown quote
        next => cases next
        next => cases next
      next => cases next

end Between

/-! ## Values passed over -/

theorem length_lt_of_scanColon {text rest : List Char} (passed : scanColon text = .ok rest) :
    rest.length < text.length := by
  have fewer := length_skipBlanks_le text
  rw [scanColon] at passed
  generalize skipBlanks text = shown at passed fewer
  split at passed
  next => cases passed
  next => cases passed; exact fewer
  next => cases passed

/-- `skip` passes over what `read` reads, as long as the text is shorter than `limit`. -/
structure PassesOver (skip : List Char → Except Fault (List Char)) (read : Reader Json)
    (limit : Nat) : Prop where
  passes : ∀ {text rest : List Char} {x : Json}, text.length < limit → read text = .ok (x, rest) →
    skip text = .ok rest ∧ rest.length < text.length
  blanks : 0 < limit → ∀ text, skip (skipBlanks text) = skip text

section Passing
variable {skip : List Char → Except Fault (List Char)} {read : Reader Json} {limit n m : Nat}
  {first : Bool} {text rest : List Char}

theorem skipItems_of_itemsAt {items : List Json} (skips : PassesOver skip read limit)
    (stand : ItemsAt read n first text items rest) (short : text.length < limit)
    (enough : text.length < m) :
    skipItems skip m first text = .ok rest ∧ rest.length < text.length := by
  have fewer := length_skipBlanks_le text
  induction stand generalizing m with
  | @close n first text close rest next closed =>
    obtain ⟨m, rfl⟩ := Nat.exists_eq_add_one_of_ne_zero (Nat.ne_zero_of_lt enough)
    cases goesOn_of_nextItem next with
    | close shown =>
      obtain rfl := Except.ok.inj closed
      rw [shown] at fewer
      rw [skipItems, shown]
      exact ⟨rfl, fewer⟩
  | @item n first text start after rest x xs next read_here _ ih =>
    obtain ⟨m, rfl⟩ := Nat.exists_eq_add_one_of_ne_zero (Nat.ne_zero_of_lt enough)
    have fewer' := length_skipBlanks_le after
    cases goesOn_of_nextItem next with
    | first begins =>
      obtain ⟨shown, c, behind, rfl, no_close⟩ := begins
      rw [shown] at fewer
      obtain ⟨here, shorter⟩ := skips.passes (by omega) read_here
      obtain ⟨later, shortest⟩ := @ih m (by omega) (by omega) fewer'
      refine ⟨?_, by omega⟩
      rw [skipItems, shown]
      split
      next same => cases same
      next same => cases same; contradiction
      next same =>
        cases same
        rw [if_pos rfl, here]
        exact later
    | @later _ behind _ shown begins =>
      obtain ⟨rfl, -⟩ := begins
      rw [shown, List.length_cons] at fewer
      have fewest := length_skipBlanks_le behind
      obtain ⟨here, shorter⟩ := skips.passes (by omega) read_here
      rw [skips.blanks (by omega)] at here
      obtain ⟨later, shortest⟩ := @ih m (by omega) (by omega) fewer'
      refine ⟨?_, by omega⟩
      rw [skipItems, shown]
      show (if false = true then _ else if ',' = ',' then (skip behind).bind _ else _) = _
      rw [if_neg Bool.false_ne_true, if_pos rfl, here]
      exact later

theorem skipFields_of_fieldsAt {fields : List (String × Json)} (skips : PassesOver skip read limit)
    (stand : FieldsAt read n first text fields rest) (short : text.length < limit)
    (enough : text.length < m) :
    skipFields skip m first text = .ok rest ∧ rest.length < text.length := by
  have fewer := length_skipBlanks_le text
  induction stand generalizing m with
  | @close n first text close rest next closed =>
    obtain ⟨m, rfl⟩ := Nat.exists_eq_add_one_of_ne_zero (Nat.ne_zero_of_lt enough)
    cases goesOn_of_nextKey next with
    | close shown =>
      obtain rfl := Except.ok.inj closed
      rw [shown] at fewer
      rw [skipFields, shown]
      exact ⟨rfl, fewer⟩
  | @field n first text start colon behind after rest key x fields next key_read passed read_here _
      ih =>
    obtain ⟨m, rfl⟩ := Nat.exists_eq_add_one_of_ne_zero (Nat.ne_zero_of_lt enough)
    have fewer' := length_skipBlanks_le after
    have := length_lt_of_scanString key_read
    have := length_lt_of_scanColon passed
    -- what is passed over after the quote that opens the key
    have pass : ∀ {text}, skipBlanks text = '"' :: start → start.length < m + 1 →
        start.length < limit →
        skipField skip (m + 1) text = .ok after ∧ after.length < start.length := by
      intro text shown long short
      obtain ⟨here, shorter⟩ := skips.passes (by omega) read_here
      refine ⟨?_, by omega⟩
      rw [skipField, shown]
      show (skipString (m + 1) start).bind _ = _
      rw [skipString_of_scanString key_read long]
      show (scanColon colon).bind _ = _
      rw [passed]
      exact here
    cases goesOn_of_nextKey next with
    | first shown =>
      rw [shown, List.length_cons] at fewer
      have again : skipBlanks ('"' :: start) = '"' :: start := rfl
      obtain ⟨here, shorter⟩ := pass again (by omega) (by omega)
      obtain ⟨later, shortest⟩ := @ih m (by omega) (by omega) fewer'
      refine ⟨?_, by omega⟩
      rw [skipFields, shown]
      show (skipField skip (m + 1) ('"' :: start)).bind _ = _
      rw [here]
      exact later
    | @later _ behind _ shown quote =>
      rw [shown, List.length_cons] at fewer
      have fewest := length_skipBlanks_le behind
      rw [quote, List.length_cons] at fewest
      obtain ⟨here, shorter⟩ := pass quote (by omega) (by omega)
      obtain ⟨later, shortest⟩ := @ih m (by omega) (by omega) fewer'
      refine ⟨?_, by omega⟩
      rw [skipFields, shown]
      show (skipField skip (m + 1) behind).bind _ = _
      rw [here]
      exact later

end Passing

theorem skipValue_skipBlanks (fuel : Nat) (text : List Char) :
    skipValue (fuel + 1) (skipBlanks text) = skipValue (fuel + 1) text := by
  rw [skipValue, skipValue, skipBlanks_skipBlanks]

/-- A value that is read can be passed over, with fuel for each character of the text. -/
theorem skipValue_of_readWritten {n m depth : Nat} {text rest : List Char} {document : Json}
    (scanned : readWritten n depth text = .ok (document, rest)) (enough : text.length < m) :
    skipValue m text = .ok rest ∧ rest.length < text.length := by
  induction n generalizing depth text document rest m with
  | zero => cases scanned
  | succ n ih =>
    obtain ⟨m, rfl⟩ := Nat.exists_eq_add_one_of_ne_zero (Nat.ne_zero_of_lt enough)
    have fewer := length_skipBlanks_le text
    have skips : ∀ depth, PassesOver (skipValue m) (readWritten n depth) m := by
      refine fun depth => ⟨fun short read => ih read short, fun some_fuel text => ?_⟩
      obtain ⟨m, rfl⟩ := Nat.exists_eq_add_one_of_ne_zero (Nat.ne_of_gt some_fuel)
      exact skipValue_skipBlanks m text
    rw [readWritten_eq_ok_iff] at scanned
    rw [skipValue]
    generalize skipBlanks text = shown at scanned fewer
    cases scanned with
    | null word | true word | false word =>
      have := length_le_of_scanWord word
      rw [List.length_cons] at fewer
      exact ⟨word, by omega⟩
    | negative number =>
      have passed := skipNumber_of_scanNumber number
      have := length_lt_of_skipNumber passed
      rw [List.length_cons] at fewer
      exact ⟨passed, by omega⟩
    | string string =>
      rw [List.length_cons] at fewer
      have := length_lt_of_scanString string
      exact ⟨skipString_of_scanString string (by omega), by omega⟩
    | number digit number =>
      have passed := skipNumber_of_scanNumber number
      have := length_lt_of_skipNumber passed
      refine ⟨?_, by omega⟩
      split
      next same => cases same
      iterate 7 next same => cases same; exact absurd digit (by decide)
      next same =>
        cases same
        rw [if_pos digit]
        exact passed
    | array stand =>
      rw [List.length_cons] at fewer
      obtain ⟨passed, shorter⟩ :=
        skipItems_of_itemsAt (m := m + 1) (skips _) stand (by omega) (by omega)
      exact ⟨passed, by omega⟩
    | object stand =>
      rw [List.length_cons] at fewer
      obtain ⟨passed, shorter⟩ :=
        skipFields_of_fieldsAt (m := m + 1) (skips _) stand (by omega) (by omega)
      exact ⟨passed, by omega⟩

end Json

end CatalogClient

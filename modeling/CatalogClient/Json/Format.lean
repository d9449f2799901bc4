import CatalogClient.Json.Reader

/-!
# Typed values in JSON

A `Format` reads values of one type along two paths: straight from a text, and from a document
that is already read. On the way from a text a mismatch stops the reader where it stands; a
document has no places, so there the mismatch is all there is to say.
-/

namespace CatalogClient

/-- How values of a type are read. From a text: given fuel for the rest of the text, and how deep
lists and objects may still nest. -/
structure Format (α : Type) where
  ofText : Nat → Nat → Reader α
  ofDocument : Json → Except Mismatch α

namespace Json

/-- What a document is, for a mismatch. -/
def found : Json → Found
  | .null => .null
  | .bool b => .bool b
  | .number n => .number n
  | .string s => .text s
  | .array _ => .sequence
  | .object _ => .map

/-- Refuses the value that follows. Words, numbers and strings are read first, since they may be
ill-formed; lists and objects are refused unread. -/
def refuse {α : Type} (fuel : Nat) (expected : String) (text : List Char) : Except Fault α :=
  let mismatch {β : Type} (found : Found) (rest : List Char) : Except Fault β :=
    stopAt (.mismatch (.wrongType found expected)) rest
  match skipBlanks text with
  | [] => stopAt .endInValue []
  | 'n' :: rest => do
    let rest ← scanWord ['u', 'l', 'l'] rest
    mismatch .null rest
  | 't' :: rest => do
    let rest ← scanWord ['r', 'u', 'e'] rest
    mismatch (.bool true) rest
  | 'f' :: rest => do
    let rest ← scanWord ['a', 'l', 's', 'e'] rest
    mismatch (.bool false) rest
  | '-' :: rest => do
    let (n, rest) ← scanNumber true rest
    mismatch (.number n) rest
  | '"' :: rest => do
    let (s, rest) ← scanString fuel rest
    mismatch (.text s) rest
  | '[' :: rest => mismatch .sequence ('[' :: rest)
  | '\x7b' :: rest => mismatch .map ('\x7b' :: rest)
  | c :: rest =>
    if c.isDigit then do
      let (n, rest) ← scanNumber false (c :: rest)
      mismatch (.number n) rest
    else stopAfterNext .noValue (c :: rest)

/-- Refuses a document. -/
def refuseDocument {α : Type} (expected : String) (document : Json) : Except Mismatch α :=
  .error (.wrongType document.found expected)

/-- Stops a reader with a mismatch in the number just read. -/
def stopUnless {α : Type} (checked : Except Mismatch α) (rest : List Char) :
    Except Fault (α × List Char) :=
  match checked with
  | .ok x => .ok (x, rest)
  | .error m => stopAt (.mismatch m) rest

end Json

namespace Format

open Json

variable {α β : Type}

/-- The same texts and documents, for another type. -/
def map (f : α → β) (format : Format α) : Format β where
  ofText fuel depth text := do
    let (x, rest) ← format.ofText fuel depth text
    return (f x, rest)
  ofDocument document := (format.ofDocument document).map f

/-- Any document. -/
def document : Format Json where
  ofText fuel depth := readValue fuel depth
  ofDocument document := .ok document

/-- Numbers that pass `check`. -/
def number (expected : String) (check : JsonNumber → Except Mismatch α) : Format α where
  ofText fuel _ text :=
    match skipBlanks text with
    | '-' :: rest => do
      let (n, rest) ← scanNumber true rest
      stopUnless (check n) rest
    | c :: rest =>
      if c.isDigit then do
        let (n, rest) ← scanNumber false (c :: rest)
        stopUnless (check n) rest
      else refuse fuel expected (c :: rest)
    | [] => refuse fuel expected []
  ofDocument
    | .number n => check n
    | document => refuseDocument expected document

/-- Whole numbers in a range. One with a point or an exponent does not count as whole. -/
def whole (low high : Int) (expected : String) : Format Int :=
  number expected fun
    | .whole value _ =>
      if low ≤ value && value ≤ high then .ok value else .error (.outOfRange value expected)
    | .float x => .error (.wrongType (.number (.float x)) expected)

def word8 : Format UInt8 := (whole 0 255 "u8").map fun i => UInt8.ofNat i.toNat
def word32 : Format UInt32 := (whole 0 4294967295 "u32").map fun i => UInt32.ofNat i.toNat
def word64 : Format UInt64 :=
  (whole 0 18446744073709551615 "u64").map fun i => UInt64.ofNat i.toNat
def signed64 : Format Int64 :=
  (whole (-9223372036854775808) 9223372036854775807 "i64").map Int64.ofInt

/-- Any number, as a double. -/
def float : Format Binary64 := number "f64" fun n => .ok n.toBinary64

def bool : Format Bool where
  ofText fuel _ text :=
    match skipBlanks text with
    | 't' :: rest => do
      let rest ← scanWord ['r', 'u', 'e'] rest
      return (true, rest)
    | 'f' :: rest => do
      let rest ← scanWord ['a', 'l', 's', 'e'] rest
      return (false, rest)
    | text => refuse fuel "a boolean" text
  ofDocument
    | .bool b => .ok b
    | document => refuseDocument "a boolean" document

def text : Format String where
  ofText fuel _ text :=
    match skipBlanks text with
    | '"' :: rest => scanString fuel rest
    | text => refuse fuel "a string" text
  ofDocument
    | .string s => .ok s
    | document => refuseDocument "a string" document

/-- Nothing but null. -/
def unit : Format Unit where
  ofText fuel _ text :=
    match skipBlanks text with
    | 'n' :: rest => do
      let rest ← scanWord ['u', 'l', 'l'] rest
      return ((), rest)
    | text => refuse fuel "unit" text
  ofDocument
    | .null => .ok ()
    | document => refuseDocument "unit" document

/-- Null, or a value. -/
def optional (format : Format α) : Format (Option α) where
  ofText fuel depth text :=
    match skipBlanks text with
    | 'n' :: rest => do
      let rest ← scanWord ['u', 'l', 'l'] rest
      return (none, rest)
    | text => do
      let (x, rest) ← format.ofText fuel depth text
      return (some x, rest)
  ofDocument
    | .null => .ok none
    | document => (format.ofDocument document).map some

/-- Lists of any length. -/
def list (format : Format α) : Format (List α) where
  ofText fuel depth text :=
    match skipBlanks text with
    | '[' :: rest =>
      match depth with
      | 0 => stopAfterNext .tooDeep ('[' :: rest)
      | depth + 1 => scanItems (format.ofText fuel depth) fuel true rest
    | text => refuse fuel "a sequence" text
  ofDocument
    | .array items => items.mapM format.ofDocument
    | document => refuseDocument "a sequence" document

/-- What a pair is called in a mismatch. -/
def pairName : String := "a tuple of size 2"

/-- What a list was expected to be that has items left over. -/
def fewerItems : String := "fewer elements in array"

/-- Lists of exactly two items. -/
def pair (first : Format α) (second : Format β) : Format (α × β) where
  ofText fuel depth text :=
    match skipBlanks text with
    | '[' :: rest =>
      match depth with
      | 0 => stopAfterNext .tooDeep ('[' :: rest)
      | depth + 1 => do
        let short {γ : Type} (length : Nat) (rest : List Char) : Except Fault γ :=
          stopAt (.mismatch (.wrongLength length pairName)) (passListClose rest)
        let (more, rest) ← nextItem true rest
        if !more then short 0 rest
        else
          let (x, rest) ← first.ofText fuel depth rest
          let (more, rest) ← nextItem false rest
          if !more then short 1 rest
          else
            let (y, rest) ← second.ofText fuel depth rest
            let rest ← closeList rest
            return ((x, y), rest)
    | text => refuse fuel pairName text
  ofDocument
    | .array [] => .error (.wrongLength 0 pairName)
    | .array [x] => do
      let _ ← first.ofDocument x
      .error (.wrongLength 1 pairName)
    | .array (x :: y :: more) => do
      let a ← first.ofDocument x
      let b ← second.ofDocument y
      if more.isEmpty then return (a, b) else .error (.wrongLength (more.length + 2) fewerItems)
    | document => refuseDocument pairName document

/-- Objects of any fields, all of one format; of fields with one key the last one stays. -/
def fields (format : Format α) : Format (Fields α) where
  ofText fuel depth text :=
    match skipBlanks text with
    | '\x7b' :: rest =>
      match depth with
      | 0 => stopAfterNext .tooDeep ('\x7b' :: rest)
      | depth + 1 =>
        let field := fun (fields : Fields α) (key : String) (text : List Char) => do
          let text ← scanColon text
          let (value, text) ← format.ofText fuel depth text
          return (Fields.insert key value fields, text)
        scanFields field fuel true [] rest
    | text => refuse fuel "a map" text
  ofDocument
    | .object fields => do
      let values ← fields.mapM fun (key, value) => do
        let value ← format.ofDocument value
        return (key, value)
      return Fields.ofList values
    | document => refuseDocument "a map" document

/-- Reads a whole text. -/
def read (format : Format α) (text : String) : Except JsonError α :=
  readText (fun fuel => format.ofText fuel depthLimit) text

end Format

end CatalogClient

import CatalogClient.Json.Scanner

/-!
# Lists and objects in a text

What stands between the items of a list and between the fields of an object: commas, colons and
closing brackets. Readers of whole lists and objects take a reader for what they hold.
-/

namespace CatalogClient

namespace Json

/-- Looks for the next item of a list: whether there is one, and the text from it on; if there is
none, the text from the closing bracket on. -/
def nextItem (first : Bool) (text : List Char) : Except Fault (Bool × List Char) :=
  match skipBlanks text with
  | [] => stopAt .endInList []
  | ']' :: rest => .ok (false, ']' :: rest)
  | c :: rest =>
    if first then .ok (true, c :: rest)
    else if c = ',' then
      match skipBlanks rest with
      | [] => stopAt .endInValue []
      | ']' :: rest => stopAfterNext .trailingComma (']' :: rest)
      | rest => .ok (true, rest)
    else stopAfterNext .noListCommaOrEnd (c :: rest)

/-- Closes a list, after as many items as were asked for. -/
def closeList (text : List Char) : Except Fault (List Char) :=
  match skipBlanks text with
  | [] => stopAt .endInList []
  | ']' :: rest => .ok rest
  | ',' :: rest =>
    -- one item too many stops where it begins
    match skipBlanks rest with
    | ']' :: rest => stopAfterNext .trailingComma (']' :: rest)
    | rest => stopAfterNext .trailingCharacters rest
  | rest => stopAfterNext .trailingCharacters rest

/-- How far `closeList` gets, whether it succeeds or not. -/
def passListClose (text : List Char) : List Char :=
  match skipBlanks text with
  | ']' :: rest => rest
  | ',' :: rest => skipBlanks rest
  | rest => rest

/-- Looks for the next key of an object: whether there is one, and the text after its opening
quote; if there is none, the text from the closing brace on. -/
def nextKey (first : Bool) (text : List Char) : Except Fault (Bool × List Char) :=
  match skipBlanks text with
  | [] => stopAt .endInObject []
  | '\x7d' :: rest => .ok (false, '\x7d' :: rest)
  | c :: rest =>
    if first then
      if c = '"' then .ok (true, rest) else stopAfterNext .keyNotString (c :: rest)
    else if c = ',' then
      match skipBlanks rest with
      | [] => stopAt .endInValue []
      | '"' :: rest => .ok (true, rest)
      | '\x7d' :: rest => stopAfterNext .trailingComma ('\x7d' :: rest)
      | rest => stopAfterNext .keyNotString rest
    else stopAfterNext .noObjectCommaOrEnd (c :: rest)

/-- Closes an object, after as many fields as were asked for. -/
def closeObject (text : List Char) : Except Fault (List Char) :=
  match skipBlanks text with
  | [] => stopAt .endInObject []
  | '\x7d' :: rest => .ok rest
  | ',' :: rest => stopAfterNext .trailingComma (',' :: rest)
  | rest => stopAfterNext .trailingCharacters rest

/-- How far `closeObject` gets, whether it succeeds or not. -/
def passObjectClose (text : List Char) : List Char :=
  match skipBlanks text with
  | '\x7d' :: rest => rest
  | rest => rest

/-- Reads the colon between a key and its value. -/
def scanColon (text : List Char) : Except Fault (List Char) :=
  match skipBlanks text with
  | [] => stopAt .endInObject []
  | ':' :: rest => .ok rest
  | rest => stopAfterNext .noColon rest

/-- Reads the items of a list and its closing bracket; `fuel` bounds the number of items. -/
def scanItems {α : Type} (item : Reader α) : Nat → Bool → Reader (List α)
  | 0, _, text => stopAt .endInList text
  | fuel + 1, first, text => do
    let (more, text) ← nextItem first text
    if more then
      let (x, text) ← item text
      let (xs, text) ← scanItems item fuel false text
      return (x :: xs, text)
    else
      let text ← closeList text
      return ([], text)

/-- Reads the fields of an object and its closing brace. `field` is given what the fields before
made of the state, and the key, and reads from the colon on; `fuel` bounds the number of fields
and of the characters in a key. -/
def scanFields {σ : Type} (field : σ → String → Reader σ) : Nat → Bool → σ → Reader σ
  | 0, _, _, text => stopAt .endInObject text
  | fuel + 1, first, state, text => do
    let (more, text) ← nextKey first text
    if more then
      let (key, text) ← scanString (fuel + 1) text
      let (state, text) ← field state key text
      scanFields field fuel false state text
    else
      let text ← closeObject text
      return (state, text)

/-! ## Values nobody asked for -/

/-- Passes over the items of a list and its closing bracket. -/
def skipItems (item : List Char → Except Fault (List Char)) :
    Nat → Bool → List Char → Except Fault (List Char)
  | 0, _, text => stopAt .endInList text
  | fuel + 1, first, text =>
    match skipBlanks text with
    | [] => stopAt .endInList []
    | ']' :: rest => .ok rest
    | c :: rest =>
      if first then do
        let text ← item (c :: rest)
        skipItems item fuel false text
      else if c = ',' then do
        let text ← item rest
        skipItems item fuel false text
      else stopAfterNext .noListCommaOrEnd (c :: rest)

/-- Passes over a key, its colon and its value. -/
def skipField (value : List Char → Except Fault (List Char)) (fuel : Nat) (text : List Char) :
    Except Fault (List Char) :=
  match skipBlanks text with
  | [] => stopAt .endInObject []
  | '"' :: rest => do
    let text ← skipString fuel rest
    let text ← scanColon text
    value text
  | rest => stopAfterNext .keyNotString rest

/-- Passes over the fields of an object and its closing brace. -/
def skipFields (value : List Char → Except Fault (List Char)) :
    Nat → Bool → List Char → Except Fault (List Char)
  | 0, _, text => stopAt .endInObject text
  | fuel + 1, first, text =>
    match skipBlanks text with
    | [] => stopAt .endInObject []
    | '\x7d' :: rest => .ok rest
    | c :: rest =>
      if first then do
        let text ← skipField value (fuel + 1) (c :: rest)
        skipFields value fuel false text
      else if c = ',' then do
        let text ← skipField value (fuel + 1) rest
        skipFields value fuel false text
      else stopAfterNext .noObjectCommaOrEnd (c :: rest)

/-- Passes over a value, however deep. Its form is checked; the size of its numbers and the halves
of its surrogate pairs are not. `fuel` bounds what is left of the text. -/
def skipValue : Nat → List Char → Except Fault (List Char)
  | 0, text => stopAt .endInValue text
  | fuel + 1, text =>
    match skipBlanks text with
    | [] => stopAt .endInValue []
    | 'n' :: rest => scanWord ['u', 'l', 'l'] rest
    | 't' :: rest => scanWord ['r', 'u', 'e'] rest
    | 'f' :: rest => scanWord ['a', 'l', 's', 'e'] rest
    | '-' :: rest => skipNumber rest
    | '"' :: rest => skipString (fuel + 1) rest
    | '[' :: rest => skipItems (skipValue fuel) (fuel + 1) true rest
    | '\x7b' :: rest => skipFields (skipValue fuel) (fuel + 1) true rest
    | c :: rest =>
      if c.isDigit then skipNumber (c :: rest) else stopAfterNext .noValue (c :: rest)

end Json

end CatalogClient

import CatalogClient.Json.Structure

/-!
# Reading documents

`Json.read` reads a whole text as one document. Lists and objects nest at most `depthLimit` deep;
of fields with one key the last one stays.
-/

namespace CatalogClient

namespace Json

/-- How deep lists and objects may nest. -/
def depthLimit : Nat := 127

/-- Reads a value that nests at most `depth` deep. `fuel` bounds what is left of the text: every
step down and every item takes at least one character. -/
def readValue : Nat → Nat → Reader Json
  | 0, _, text => stopAt .endInValue text
  | fuel + 1, depth, text =>
    match skipBlanks text with
    | [] => stopAt .endInValue []
    | 'n' :: rest => do
      let rest ← scanWord ['u', 'l', 'l'] rest
      return (.null, rest)
    | 't' :: rest => do
      let rest ← scanWord ['r', 'u', 'e'] rest
      return (.bool true, rest)
    | 'f' :: rest => do
      let rest ← scanWord ['a', 'l', 's', 'e'] rest
      return (.bool false, rest)
    | '-' :: rest => do
      let (n, rest) ← scanNumber true rest
      return (.number n, rest)
    | '"' :: rest => do
      let (s, rest) ← scanString (fuel + 1) rest
      return (.string s, rest)
    | '[' :: rest =>
      match depth with
      | 0 => stopAfterNext .tooDeep ('[' :: rest)
      | depth + 1 => do
        let (items, rest) ← scanItems (readValue fuel depth) (fuel + 1) true rest
        return (.array items, rest)
    | '\x7b' :: rest =>
      match depth with
      | 0 => stopAfterNext .tooDeep ('\x7b' :: rest)
      | depth + 1 => do
        let field := fun (fields : Fields Json) (key : String) (text : List Char) => do
          let text ← scanColon text
          let (value, text) ← readValue fuel depth text
          return (Fields.insert key value fields, text)
        let (fields, rest) ← scanFields field (fuel + 1) true [] rest
        return (.object fields, rest)
    | c :: rest =>
      if c.isDigit then do
        let (n, rest) ← scanNumber false (c :: rest)
        return (.number n, rest)
      else stopAfterNext .noValue (c :: rest)

/-- Reads with `reader` and lets only blanks follow. -/
def readAll {α : Type} (reader : Reader α) (text : List Char) : Except Fault α := do
  let (x, rest) ← reader text
  match skipBlanks rest with
  | [] => return x
  | rest => stopAfterNext .trailingCharacters rest

/-- Reads a whole text with `reader`, which is given enough fuel for it. Faults get their place. -/
def readText {α : Type} (reader : Nat → Reader α) (text : String) : Except JsonError α :=
  let chars := text.toList
  match readAll (reader (chars.length + 1)) chars with
  | .ok x => .ok x
  | .error fault => .error (fault.locate text)

/-- Reads a text as one document. -/
def read (text : String) : Except JsonError Json :=
  readText (fun fuel => readValue fuel depthLimit) text

end Json

end CatalogClient

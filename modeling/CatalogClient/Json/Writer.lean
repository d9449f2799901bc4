import CatalogClient.Json.Basic
import CatalogClient.Text.Hex

/-!
# Writing documents

`Json.render` is the compact form: no blanks, fields in their order, and in strings only the
quote, the backslash and the control characters escaped.
-/

namespace CatalogClient

namespace Json

/-- A character inside a quoted string. -/
def escapeChar (c : Char) : List Char :=
  if c = '"' then ['\\', '"']
  else if c = '\\' then ['\\', '\\']
  else if c = '\x08' then ['\\', 'b']
  else if c = '\x0c' then ['\\', 'f']
  else if c = '\n' then ['\\', 'n']
  else if c = '\r' then ['\\', 'r']
  else if c = '\t' then ['\\', 't']
  else if c.toNat < 0x20 then
    ['\\', 'u', '0', '0', lowerHexDigit (c.toNat / 16), lowerHexDigit (c.toNat % 16)]
  else [c]

/-- A string in quotes. -/
def quote (text : String) : List Char := '"' :: (text.toList.flatMap escapeChar ++ ['"'])

mutual

/-- The characters of the compact form. -/
def renderChars : Json → List Char
  | .null => ['n', 'u', 'l', 'l']
  | .bool true => ['t', 'r', 'u', 'e']
  | .bool false => ['f', 'a', 'l', 's', 'e']
  | .number n => n.render.toList
  | .string text => quote text
  | .array [] => ['[', ']']
  | .array (item :: items) => '[' :: (renderChars item ++ renderItems items)
  | .object [] => ['\x7b', '\x7d']
  | .object (field :: fields) => '\x7b' :: (renderField field ++ renderFields fields)

/-- The items after the first, and the closing bracket. -/
def renderItems : List Json → List Char
  | [] => [']']
  | item :: items => ',' :: (renderChars item ++ renderItems items)

/-- A key and its value. -/
def renderField : String × Json → List Char
  | (key, value) => quote key ++ ':' :: renderChars value

/-- The fields after the first, and the closing brace. -/
def renderFields : List (String × Json) → List Char
  | [] => ['\x7d']
  | field :: fields => ',' :: (renderField field ++ renderFields fields)

end

/-- The compact form. -/
def render (document : Json) : String := String.ofList (renderChars document)

end Json

end CatalogClient

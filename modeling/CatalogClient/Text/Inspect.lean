import CatalogClient.Text.Hex
import CatalogClient.Text.Invisible

/-!
# Texts as they are inspected

An inspected text stands in double quotes. Quotes, backslashes, line ends and tabs are escaped by
a letter or sign, and whatever else would not show by its code point in braces.
-/

namespace CatalogClient

/-- A character of an inspected text. -/
def inspectChar (c : Char) : List Char :=
  if c = '"' then ['\\', '"']
  else if c = '\\' then ['\\', '\\']
  else if c = '\n' then ['\\', 'n']
  else if c = '\r' then ['\\', 'r']
  else if c = '\t' then ['\\', 't']
  else if c = '\x00' then ['\\', '0']
  else if isInvisible c then '\\' :: 'u' :: '\x7b' :: (lowerHex c.toNat ++ ['\x7d'])
  else [c]

/-- The text in quotes. -/
def inspectText (text : String) : String :=
  String.ofList ('"' :: (text.toList.flatMap inspectChar ++ ['"']))

end CatalogClient

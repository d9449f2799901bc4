import CatalogClient.Text.Hex
import CatalogClient.Text.Parts

/-!
# Tables of code points

Properties of characters are tables: ranges of code points in their order, each with a value. A
table is written as lines of words. A word is a code point, or two with a hyphen between them for
a range; where values differ from range to range, an equals sign and code points with dots between
them follow.
-/

namespace CatalogClient

/-- Characters of ASCII. They are plain in themselves, so what is said of them needs no table. -/
def isAscii (c : Char) : Bool := c.toNat < 0x80

/-- What is said of the code points from `first` to `last`. -/
structure CodeRange (α : Type) where
  first : Nat
  last : Nat
  value : α

/-- Ranges in the order of their code points, no two of which overlap. -/
abbrev CodeTable (α : Type) := Array (CodeRange α)

namespace CodeTable

variable {α : Type}

/-- A code point in hexadecimal digits. -/
def codeOfDigits (digits : List Char) : Nat :=
  digits.foldl (fun n c => n * 16 + (hexValue? c).getD 0) 0

/-- A code point, or two with a hyphen between them. -/
def rangeOfWord (word : List Char) : Nat × Nat :=
  let (first, last) := cut '-' word
  (codeOfDigits first, codeOfDigits (last.getD first))

def wordsOfLines (lines : List String) : List (List Char) :=
  lines.flatMap fun line => splitAtChar (· = ' ') line.toList

/-- The ranges on some lines, of which all have one value. -/
def rangesOfLines (value : α) (lines : List String) : List (CodeRange α) :=
  (wordsOfLines lines).map fun word =>
    let (first, last) := rangeOfWord word
    ⟨first, last, value⟩

/-- The ranges on some lines, each with the code points after its equals sign. -/
def codesOfLines (lines : List String) : List (CodeRange (List Nat)) :=
  (wordsOfLines lines).map fun word =>
    let (range, codes) := cut '=' word
    let (first, last) := rangeOfWord range
    ⟨first, last, match codes with
      | none | some [] => []
      | some codes => (splitAtChar (· = '.') codes).map codeOfDigits⟩

def ofRanges (ranges : List (CodeRange α)) : CodeTable α :=
  (ranges.mergeSort fun a b => decide (a.first ≤ b.first)).toArray

/-- Looks for a code point among the ranges from `low` up to, but not with, `high`. -/
def search (table : CodeTable α) (code low high : Nat) : Option (CodeRange α) :=
  if low < high then
    let middle := (low + high) / 2
    match table[middle]? with
    | none => none
    | some range =>
      if code < range.first then search table code low middle
      else if range.last < code then search table code (middle + 1) high
      else some range
  else none
termination_by high - low

/-- The range that a code point lies in. -/
def find? (table : CodeTable α) (code : Nat) : Option (CodeRange α) :=
  table.search code 0 table.size

/-- What is said of a character. -/
def value? (table : CodeTable α) (c : Char) : Option α := (table.find? c.toNat).map (·.value)

end CodeTable

end CatalogClient

import CatalogClient.Json.Fault
import CatalogClient.Text.Hex

/-!
# Tokens of documents

Readers for what a document is made of below the level of values: blanks, words, numbers and
strings. A number's digits are read before they are weighed, so its shape and its value are two
separate steps (`scanNumeral`, `Numeral.value`).
-/

namespace CatalogClient

namespace Json

def isBlank (c : Char) : Bool := c = ' ' || c = '\n' || c = '\t' || c = '\r'

def skipBlanks (text : List Char) : List Char := text.dropWhile isBlank

/-- Reads the letters given and nothing else. -/
def scanWord : List Char → List Char → Except Fault (List Char)
  | [], text => .ok text
  | _, [] => stopAt .endInValue []
  | letter :: letters, c :: rest =>
    if c = letter then scanWord letters rest else stopAfterNext .badWord (c :: rest)

/-! ## Numbers -/

/-- The exponent of a numeral: its value, or the sign of one that is too long to matter. -/
inductive NumeralExponent
  | value (e : Int)
  | endless (negative : Bool)

/-- A number as it is written. -/
structure Numeral where
  negative : Bool
  whole : List Char
  /-- The digits after the point. -/
  fraction : Option (List Char)
  exponent : Option NumeralExponent

/-- The value of a digit. -/
def digitValue (c : Char) : Nat := c.toNat - '0'.toNat

/-- The greatest exponent that is told apart from endless ones. -/
def greatestExponent : Nat := 2147483647

/-- Reads the digits of an exponent onto the value so far. One past the greatest exponent makes
it endless; if it would also make the number too large, reading stops there. -/
def scanExponentDigits (negative significant : Bool) (soFar : Nat) :
    List Char → Except Fault (NumeralExponent × List Char)
  | [] => .ok (.value (if negative then -(soFar : Int) else soFar), [])
  | c :: rest =>
    if c.isDigit then
      let next := soFar * 10 + digitValue c
      if greatestExponent < next then
        -- zero stays zero, and a small number becomes zero, whatever digits follow
        if significant && !negative then stopAt .numberTooLarge rest
        else .ok (.endless negative, rest.dropWhile Char.isDigit)
      else scanExponentDigits negative significant next rest
    else .ok (.value (if negative then -(soFar : Int) else soFar), c :: rest)

/-- Reads an exponent after its mark: an optional sign, then at least one digit. -/
def scanExponent (significant : Bool) (text : List Char) :
    Except Fault (NumeralExponent × List Char) :=
  let (negative, digits) := match text with
    | '+' :: rest => (false, rest)
    | '-' :: rest => (true, rest)
    | rest => (false, rest)
  match digits with
  | [] => stopAt .endInValue []
  | c :: rest =>
    if c.isDigit then scanExponentDigits negative significant (digitValue c) rest
    else stopAfterNext .badNumber (c :: rest)

/-- Reads the digits before the point; a zero stands alone. -/
def scanWhole : Reader (List Char)
  | [] => stopAt .endInValue []
  | '0' :: rest =>
    if (rest.head?.map Char.isDigit).getD false then stopAfterNext .badNumber rest
    else .ok (['0'], rest)
  | c :: rest =>
    if c.isDigit then .ok (c :: rest.takeWhile Char.isDigit, rest.dropWhile Char.isDigit)
    else stopAfterNext .badNumber (c :: rest)

/-- Reads a point with at least one digit after it, if there is a point. -/
def scanFraction : Reader (Option (List Char))
  | '.' :: rest =>
    if (rest.head?.map Char.isDigit).getD false then
      .ok (some (rest.takeWhile Char.isDigit), rest.dropWhile Char.isDigit)
    else match rest with
      | [] => stopAt .endInValue []
      | rest => stopAfterNext .badNumber rest
  | text => .ok (none, text)

/-- Reads a number after its sign. -/
def scanNumeral (negative : Bool) : Reader Numeral := fun text => do
  let (whole, text) ← scanWhole text
  let (fraction, text) ← scanFraction text
  let significant := (whole ++ fraction.getD []).any fun c => c != '0'
  match text with
  | mark :: rest =>
    if mark = 'e' || mark = 'E' then do
      let (exponent, text) ← scanExponent significant rest
      return (⟨negative, whole, fraction, some exponent⟩, text)
    else return (⟨negative, whole, fraction, none⟩, text)
  | [] => return (⟨negative, whole, fraction, none⟩, [])

/-- The end of the significands that are told apart, which have 64 bits. -/
def significandEnd : Nat := 18446744073709551616

/-- Weighs digits before the point: as many as fit, then each further one only scales. -/
def weighWhole : Nat × Nat → List Char → Nat × Nat
  | state, [] => state
  | (significand, dropped), c :: rest =>
    let next := significand * 10 + digitValue c
    if dropped = 0 && next < significandEnd then weighWhole (next, 0) rest
    else weighWhole (significand, dropped + 1) rest

/-- Weighs digits after the point up to the first that does not fit; gives also their number. -/
def weighFraction (significand taken : Nat) : List Char → Nat × Nat
  | [] => (significand, taken)
  | c :: rest =>
    let next := significand * 10 + digitValue c
    if next < significandEnd then weighFraction next (taken + 1) rest else (significand, taken)

namespace Numeral

/-- A double from a significand and a power of ten; nothing if it is out of range. -/
def float? (negative : Bool) (significand : Nat) (exponent : Int) : Option JsonNumber :=
  (Binary64.scaleByPowerOfTen significand exponent).map fun x =>
    .float { x with negative := negative }

/-- The number that a numeral stands for; nothing if it is out of range. A whole numeral that fits
in 64 bits is kept exactly, except for minus zero. -/
def value (n : Numeral) : Option JsonNumber :=
  let (significand, dropped) := weighWhole (0, 0) n.whole
  match n.fraction, n.exponent with
  | none, none =>
    -- minus zero is a double, since whole numbers know one zero only
    let signed : Int := if n.negative then -(significand : Int) else significand
    if h : dropped = 0 ∧ (n.negative → significand ≠ 0) ∧ FitsWord signed then
      some (.whole signed h.2.2)
    else float? n.negative significand dropped
  | fraction, exponent =>
    let (significand, taken) := weighFraction significand 0 (fraction.getD [])
    match exponent with
    | none => float? n.negative significand (dropped - taken)
    | some (.value e) => float? n.negative significand (dropped - taken + e)
    -- an endless exponent is only met where the number comes down to zero
    | some (.endless _) => some (.float { FiniteDouble.zero with negative := n.negative })

end Numeral

/-- Reads a number after its sign and weighs it. -/
def scanNumber (negative : Bool) : Reader JsonNumber := fun text => do
  let (numeral, rest) ← scanNumeral negative text
  match numeral.value with
  | some n => return (n, rest)
  | none => stopAt .numberTooLarge rest

/-! ## Strings -/

/-- Reads four hexadecimal digits. The four octets after the mark are taken whatever they are. -/
def scanHex4 (text : List Char) : Except Fault (Nat × List Char) :=
  if octetCount (text.take 4) < 4 then stopAt .endInString []
  else match text with
    | a :: b :: c :: d :: rest =>
      match hexValue? a, hexValue? b, hexValue? c, hexValue? d with
      | some a, some b, some c, some d => .ok (((a * 16 + b) * 16 + c) * 16 + d, rest)
      | _, _, _, _ => .error ⟨.badEscape, octetCount text - 4⟩
    | _ => .error ⟨.badEscape, octetCount text - 4⟩

/-- Reads the second half of a surrogate pair, after the first half `high`. -/
def scanLowSurrogate (high : Nat) (text : List Char) : Except Fault (Char × List Char) :=
  match text with
  | [] => stopAt .endInString []
  | '\\' :: [] => stopAt .endInString []
  | '\\' :: 'u' :: rest => do
    let (low, rest) ← scanHex4 rest
    -- two halves make one character past the first 2 ^ 16
    if 0xDC00 ≤ low && low ≤ 0xDFFF then
      return (Char.ofNat ((high - 0xD800) * 0x400 + (low - 0xDC00) + 0x10000), rest)
    else stopAt .loneSurrogate rest
  | '\\' :: rest => stopAfterNext .halfPair rest
  | rest => stopAfterNext .halfPair rest

/-- Reads an escape after its backslash. -/
def scanEscape : List Char → Except Fault (Char × List Char)
  | [] => stopAt .endInString []
  | '"' :: rest => .ok ('"', rest)
  | '\\' :: rest => .ok ('\\', rest)
  | '/' :: rest => .ok ('/', rest)
  | 'b' :: rest => .ok ('\x08', rest)
  | 'f' :: rest => .ok ('\x0c', rest)
  | 'n' :: rest => .ok ('\n', rest)
  | 'r' :: rest => .ok ('\r', rest)
  | 't' :: rest => .ok ('\t', rest)
  | 'u' :: rest => do
    let (unit, rest) ← scanHex4 rest
    if 0xDC00 ≤ unit && unit ≤ 0xDFFF then stopAt .loneSurrogate rest
    else if 0xD800 ≤ unit && unit ≤ 0xDBFF then scanLowSurrogate unit rest
    else return (Char.ofNat unit, rest)
  | rest => stopAfterNext .badEscape rest

/-- Reads a string after its opening quote; `fuel` bounds the number of characters. -/
def scanStringChars : Nat → Reader (List Char)
  | 0, text => stopAt .endInString text
  | _ + 1, [] => stopAt .endInString []
  | fuel + 1, c :: rest =>
    if c = '"' then .ok ([], rest)
    else if c = '\\' then do
      let (first, rest) ← scanEscape rest
      let (more, rest) ← scanStringChars fuel rest
      return (first :: more, rest)
    else if c.toNat < 0x20 then stopAt .controlCharacter rest
    else do
      let (more, rest) ← scanStringChars fuel rest
      return (c :: more, rest)

/-- Reads a string after its opening quote. -/
def scanString (fuel : Nat) : Reader String := fun text => do
  let (chars, rest) ← scanStringChars fuel text
  return (String.ofList chars, rest)

/-! ## Strings nobody asked for -/

/-- Passes over an escape after its backslash. Halves of surrogate pairs are not matched up. -/
def skipEscape : List Char → Except Fault (List Char)
  | [] => stopAt .endInString []
  | 'u' :: rest => do
    let (_, rest) ← scanHex4 rest
    return rest
  | c :: rest =>
    if ['"', '\\', '/', 'b', 'f', 'n', 'r', 't'].contains c then .ok rest
    else stopAfterNext .badEscape (c :: rest)

/-- Passes over a string after its opening quote; `fuel` bounds the number of characters. -/
def skipString : Nat → List Char → Except Fault (List Char)
  | 0, text => stopAt .endInString text
  | _ + 1, [] => stopAt .endInString []
  | fuel + 1, c :: rest =>
    if c = '"' then .ok rest
    else if c = '\\' then do
      let rest ← skipEscape rest
      skipString fuel rest
    else if c.toNat < 0x20 then stopAt .controlCharacter (c :: rest)
    else skipString fuel rest

/-! ## Numbers nobody asked for -/

/-- Passes over a number after its sign. Its size does not matter. -/
def skipNumber (text : List Char) : Except Fault (List Char) := do
  let rest ← match text with
    | [] => stopAt .badNumber []
    | text => (scanWhole text).map Prod.snd
  let rest ← match rest with
    | '.' :: digits =>
      if (digits.head?.map Char.isDigit).getD false then .ok (digits.dropWhile Char.isDigit)
      else stopAfterNext .badNumber digits
    | rest => .ok rest
  match rest with
  | mark :: more =>
    if mark = 'e' || mark = 'E' then
      let digits := match more with
        | '+' :: digits => digits
        | '-' :: digits => digits
        | digits => digits
      if (digits.head?.map Char.isDigit).getD false then .ok (digits.dropWhile Char.isDigit)
      else stopAfterNext .badNumber digits
    else .ok rest
  | [] => .ok []

end Json

end CatalogClient

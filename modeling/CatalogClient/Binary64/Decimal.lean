import CatalogClient.Binary64.Arithmetic

/-!
# Reading decimals

`Binary64.ofDecimal?` reads a decimal text as the double nearest to it. `scaleByPowerOfTen` is the
cheaper rule by which documents are read: a significand of 64 bits is rounded, then multiplied or
divided by a rounded power of ten, so its result can miss the nearest double by one gap.
-/

namespace CatalogClient

namespace Binary64

/-- The double nearest to `coefficient * 10 ^ exponent`. -/
def ofScientific (negative : Bool) (coefficient : Nat) (exponent : Int) : Binary64 :=
  if 0 ≤ exponent then round negative (coefficient * Nat.pow 10 exponent.toNat * unitsPerOne) 1
  else round negative (coefficient * unitsPerOne) (Nat.pow 10 (-exponent).toNat)

/-- The greatest exponent of a power of ten that is in range. -/
def greatestPowerOfTen : Nat := 308

/-- `x / 10 ^ n`, by steps of the greatest power in range. -/
def divByPowerOfTen (x : Binary64) (n : Nat) : Binary64 :=
  if n ≤ greatestPowerOfTen then x / powerOfTen n
  else if x = zero then x
  else divByPowerOfTen (x / powerOfTen greatestPowerOfTen) (n - greatestPowerOfTen)
termination_by n
decreasing_by simp only [greatestPowerOfTen] at *; omega

/-- `significand * 10 ^ exponent` by rounding the significand, then scaling it; nothing when the
result leaves the range. -/
def scaleByPowerOfTen (significand : Nat) (exponent : Int) : Option FiniteDouble :=
  let start := ofNat significand
  let scaled :=
    if exponent < 0 then divByPowerOfTen start (-exponent).toNat
    else if exponent.toNat ≤ greatestPowerOfTen then start * powerOfTen exponent.toNat
    else if start = zero then start
    else .infinity false
  match scaled with
  | .finite x => some x
  | _ => none

end Binary64

/-- A decimal exponent past this bound gives zero or infinity whatever the digits are. -/
def decimalExponentBound : Nat := 100000

/-- The digits before and after the point, and what follows them. -/
def splitDigits (text : List Char) : List Char × List Char × List Char :=
  let whole := text.takeWhile Char.isDigit
  match text.dropWhile Char.isDigit with
  | '.' :: rest => (whole, rest.takeWhile Char.isDigit, rest.dropWhile Char.isDigit)
  | rest => (whole, [], rest)

/-- The number that decimal digits spell. -/
def digitsValue (digits : List Char) : Nat :=
  digits.foldl (fun n c => n * 10 + (c.toNat - '0'.toNat)) 0

/-- An exponent mark with its number, or nothing at all; clamped to `decimalExponentBound`. -/
def readExponent? : List Char → Option Int
  | [] => some 0
  | mark :: rest =>
    let (negative, digits) := match rest with
      | '-' :: digits => (true, digits)
      | '+' :: digits => (false, digits)
      | digits => (false, digits)
    if (mark = 'e' || mark = 'E') && !digits.isEmpty && digits.all Char.isDigit then
      let size : Int := min (digitsValue digits) decimalExponentBound
      some (if negative then -size else size)
    else none

namespace Binary64

/-- Reads a decimal, `inf` or `nan`, each with an optional sign. -/
def ofDecimal? (text : String) : Option Binary64 :=
  let (negative, body) := match text.toList with
    | '-' :: body => (true, body)
    | '+' :: body => (false, body)
    | body => (false, body)
  let word := (String.ofList body).toLower
  if word = "inf" || word = "infinity" then some (.infinity negative)
  else if word = "nan" then some .nan
  else
    let (whole, fraction, rest) := splitDigits body
    if whole.isEmpty && fraction.isEmpty then none
    else (readExponent? rest).map fun exponent =>
      ofScientific negative (digitsValue (whole ++ fraction)) (exponent - fraction.length)

end Binary64

end CatalogClient

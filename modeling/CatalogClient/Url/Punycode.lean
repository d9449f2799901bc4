import CatalogClient.Text.Parts

/-!
# Host labels in ASCII

A label with characters past ASCII is written in ASCII as `xn--`, its ASCII characters, and the
places of the others as one run of numbers to base 36. Each number is the distance from one
insertion to the next, counted over characters and places together. `encodeLabel` writes a label
so, and `decode?` reads what stands after `xn--`.
-/

namespace CatalogClient

namespace Punycode

def digit (d : Nat) : Char :=
  if d < 26 then Char.ofNat ('a'.toNat + d) else Char.ofNat ('0'.toNat + (d - 26))

/-- The value of a digit in either case. -/
def digitValue? (c : Char) : Option Nat :=
  if c.isLower then some (c.toNat - 'a'.toNat)
  else if c.isUpper then some (c.toNat - 'A'.toNat)
  else if c.isDigit then some (c.toNat - '0'.toNat + 26)
  else none

/-- The bound below which a digit ends its number, at the place `k` of the number. -/
def threshold (k bias : Nat) : Nat :=
  if k ≤ bias then 1 else if bias + 26 ≤ k then 26 else k - bias

theorem threshold_pos (k bias : Nat) : 0 < threshold k bias := by
  unfold threshold; split
  · omega
  · split <;> omega

/-- A number by its digits, the least first; the last digit is the one below its threshold. -/
def digits (q k bias : Nat) : List Char :=
  let t := threshold k bias
  if q < t then [digit q]
  else digit (t + (q - t) % (36 - t)) :: digits ((q - t) / (36 - t)) (k + 36) bias
termination_by q
decreasing_by
  have := threshold_pos k bias
  exact Nat.lt_of_le_of_lt (Nat.div_le_self _ _) (by omega)

/-- Scales a distance down until it is small; gives it with the sum of the places passed. -/
def scaleDown (delta k : Nat) : Nat × Nat :=
  if delta ≤ 455 then (delta, k) else scaleDown (delta / 35) (k + 36)
termination_by delta
decreasing_by omega

/-- The bias for the next number, from the distance just written. -/
def adapt (delta count : Nat) (first : Bool) : Nat :=
  let delta := if first then delta / 700 else delta / 2
  let (delta, k) := scaleDown (delta + delta / count) 0
  k + 36 * delta / (delta + 38)

/-! ## Writing -/

/-- What is known between two characters of the label. -/
structure State where
  delta : Nat
  bias : Nat
  /-- How many characters of the label are written. -/
  written : Nat
  /-- How many characters of the label are in ASCII. -/
  ascii : Nat
  output : List Char

/-- Passes over the label once for the characters with code point `n`. -/
def insertAll (n : Nat) (label : List Char) (state : State) : State :=
  label.foldl (fun s c =>
    if c.toNat < n then { s with delta := s.delta + 1 }
    else if c.toNat = n then
      { s with
        output := s.output ++ digits s.delta 36 s.bias
        bias := adapt s.delta (s.written + 1) (s.written = s.ascii)
        delta := 0
        written := s.written + 1 }
    else s) state

/-- Takes the code points in order; `n` is the least one not passed yet. -/
def insertCodes (label : List Char) : Nat → List Nat → State → State
  | _, [], s => s
  | n, m :: codes, s =>
    let s := insertAll m label { s with delta := s.delta + (m - n) * (s.written + 1) }
    insertCodes label (m + 1) codes { s with delta := s.delta + 1 }

/-- What the labels in ASCII begin with that stand for others. -/
def lead : List Char := "xn--".toList

/-- A label in ASCII. -/
def encodeLabel (label : List Char) : List Char :=
  if label.all fun c => c.toNat < 0x80 then label
  else
    let ascii := label.filter fun c => c.toNat < 0x80
    let codes := ((label.map Char.toNat).filter (0x80 ≤ ·)).mergeSort.eraseDups
    let head := if ascii.isEmpty then [] else ascii ++ ['-']
    let s := insertCodes label 0x80 codes ⟨0, 72, ascii.length, ascii.length, []⟩
    lead ++ head ++ s.output

/-! ## Reading -/

/-- What is known between two digits: the label so far, the code point and the place of the last
insertion, and the number that is being read, with the weight and the place of its next digit. -/
structure Reader where
  text : List Char
  code : Nat
  index : Nat
  bias : Nat
  number : Nat
  weight : Nat
  place : Nat

namespace Reader

def start (ascii : List Char) : Reader := ⟨ascii, 0x80, 0, 72, 0, 1, 36⟩

/-- No number is under way. -/
def isBetween (r : Reader) : Bool := r.place = 36

/-- Numbers have 32 bits. -/
def fits (n : Nat) : Bool := n < 4294967296

/-- A code point stands for a character. -/
def isCharacter (code : Nat) : Bool := code < 0xD800 || (0xDFFF < code && code < 0x110000)

/-- Inserts a character as far from the last one as the number says. -/
def insert? (r : Reader) : Option Reader :=
  let count := r.text.length + 1
  let sum := r.index + r.number
  let code := r.code + sum / count
  let index := sum % count
  if fits sum && isCharacter code then
    some {
      text := r.text.take index ++ Char.ofNat code :: r.text.drop index
      code := code
      index := index + 1
      bias := adapt r.number count (r.index = 0)
      number := 0
      weight := 1
      place := 36 }
  else none

/-- Reads a digit; the one below its threshold ends the number. -/
def digit? (r : Reader) (c : Char) : Option Reader := do
  let d ← digitValue? c
  let bound := threshold r.place r.bias
  let number := r.number + d * r.weight
  if d < bound then insert? { r with number := number }
  else
    let weight := r.weight * (36 - bound)
    if fits number && fits weight then
      some { r with number := number, weight := weight, place := r.place + 36 }
    else none

end Reader

/-- The label that stands after `xn--`: its ASCII characters up to the last hyphen, then the
digits. -/
def decode? (text : List Char) : Option (List Char) := do
  let (ascii, digits) := match cutLast '-' text with
    | (some (c :: ascii), digits) => (c :: ascii, digits)
    | _ => ([], text)
  let r ← digits.foldlM Reader.digit? (Reader.start ascii)
  if r.isBetween then some r.text else none

end Punycode

end CatalogClient

/-!
# Octets of a text

How many octets a text takes as UTF-8, and how octets from outside are read as a text: every
ill-formed part is replaced by one U+FFFD, where a part reaches as far as some well-formed text
could still go on.
-/

namespace CatalogClient

/-- How many octets the characters take. -/
def octetCount : List Char → Nat
  | [] => 0
  | c :: text => c.utf8Size + octetCount text

/-- A character of which some octets are read: the bits so far, how many octets are owed, and
between which bounds the next one has to lie. -/
structure Unfinished where
  bits : Nat
  owed : Nat
  low : Nat
  high : Nat

/-- What an octet at the start of a character says. -/
inductive LeadOctet
  | character (c : Char)
  | opens (u : Unfinished)
  | illFormed

/-- The octets that open a character. The bounds keep out overlong forms, surrogates and numbers
past U+10FFFF. -/
def leadOctet (b : Nat) : LeadOctet :=
  if b < 0x80 then .character (Char.ofNat b)
  else if b < 0xC2 then .illFormed
  else if b < 0xE0 then .opens ⟨b - 0xC0, 1, 0x80, 0xBF⟩
  else if b = 0xE0 then .opens ⟨0, 2, 0xA0, 0xBF⟩
  else if b = 0xED then .opens ⟨0xD, 2, 0x80, 0x9F⟩
  else if b < 0xF0 then .opens ⟨b - 0xE0, 2, 0x80, 0xBF⟩
  else if b = 0xF0 then .opens ⟨0, 3, 0x90, 0xBF⟩
  else if b < 0xF4 then .opens ⟨b - 0xF0, 3, 0x80, 0xBF⟩
  else if b = 0xF4 then .opens ⟨4, 3, 0x80, 0x8F⟩
  else .illFormed

/-- Stands for a part that is no text. -/
def replacement : Char := Char.ofNat 0xFFFD

/-- Reads octets as characters, from within the character given. -/
def lenientChars : Option Unfinished → List UInt8 → List Char
  | none, [] => []
  | some _, [] => [replacement]
  | state, b :: rest =>
    let fresh := fun (_ : Unit) => match leadOctet b.toNat with
      | .character c => c :: lenientChars none rest
      | .opens u => lenientChars (some u) rest
      | .illFormed => replacement :: lenientChars none rest
    match state with
    | none => fresh ()
    | some u =>
      if u.low ≤ b.toNat && b.toNat ≤ u.high then
        let bits := u.bits * 64 + (b.toNat - 0x80)
        if u.owed = 1 then Char.ofNat bits :: lenientChars none rest
        else lenientChars (some ⟨bits, u.owed - 1, 0x80, 0xBF⟩) rest
      -- the octet that does not go on is read again, as the start of a character
      else replacement :: fresh ()

/-- The text that octets spell, with U+FFFD for what is no text. -/
def textOfOctets (octets : List UInt8) : String := String.ofList (lenientChars none octets)

/-- The characters that well-formed octets spell. -/
def chars? (octets : List UInt8) : Option (List Char) :=
  let text := lenientChars none octets
  if text.flatMap String.utf8EncodeChar = octets then some text else none

end CatalogClient

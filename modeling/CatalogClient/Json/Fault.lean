import CatalogClient.Json.Basic
import CatalogClient.Text.Octets

/-!
# Why a text is no document

A reader stops with a `Fault`: a cause, and how many octets were left unread at that point. The
place in the text is worked out from the number of octets read, once the whole text is known.
-/

namespace CatalogClient

/-- What was found where a value of another type belongs. -/
inductive Found
  | null
  | bool (b : Bool)
  | number (n : JsonNumber)
  | text (s : String)
  | sequence
  | map

/-- A value that does not have the type asked for. -/
inductive Mismatch
  | wrongType (found : Found) (expected : String)
  | outOfRange (value : Int) (expected : String)
  | wrongLength (length : Nat) (expected : String)
  | missingField (name : String)
  | repeatedField (name : String)

inductive JsonCause
  | endInValue
  | endInList
  | endInObject
  | endInString
  | noColon
  | noListCommaOrEnd
  | noObjectCommaOrEnd
  | badWord
  | noValue
  | badEscape
  | badNumber
  | numberTooLarge
  | controlCharacter
  | keyNotString
  | loneSurrogate
  | halfPair
  | trailingComma
  | trailingCharacters
  | tooDeep
  | mismatch (m : Mismatch)

/-- A cause, and the octets left unread when it was met. -/
structure Fault where
  cause : JsonCause
  unread : Nat

/-- A place in a text: the line from one on, and the octets of the line that were read. -/
structure Place where
  line : Nat
  column : Nat
deriving DecidableEq

structure JsonError where
  cause : JsonCause
  place : Place

namespace Place

/-- Where a reader stands after these octets. -/
def after (octets : List UInt8) : Place :=
  octets.foldl (fun p b => if b = 10 then ⟨p.line + 1, 0⟩ else ⟨p.line, p.column + 1⟩) ⟨1, 0⟩

end Place

namespace Fault

/-- The fault with its place in the whole text. -/
def locate (f : Fault) (text : String) : JsonError :=
  let octets := text.toUTF8.toList
  ⟨f.cause, .after (octets.take (octets.length - f.unread))⟩

end Fault

/-- A reader takes what it needs from the front of the characters and gives back the rest. -/
abbrev Reader (α : Type) := List Char → Except Fault (α × List Char)

/-- Stops before the characters given. -/
def stopAt {α : Type} (cause : JsonCause) (rest : List Char) : Except Fault α :=
  .error ⟨cause, octetCount rest⟩

/-- Stops after the next octet, if there is one. -/
def stopAfterNext {α : Type} (cause : JsonCause) (rest : List Char) : Except Fault α :=
  .error ⟨cause, octetCount rest - 1⟩

end CatalogClient

import CatalogClient.Text.CombiningClass
import CatalogClient.Text.Composition

/-!
# Normal form

A text is brought into the form in which every character that can be composed is composed: all
characters are taken apart, the marks put in order, and each mark is composed with the character
it stands on unless another mark of its class, or of a greater one, stands between them.
-/

namespace CatalogClient

/-- Takes a character apart, at most so many times. The second part is never composed. -/
def takenApart : Nat → Char → List Char
  | 0, c => [c]
  | times + 1, c =>
    match parts? c with
    | some (first, second) => takenApart times first ++ [second]
    | none => [c]

/-- A text all of whose characters are taken apart. No character is composed more than three times
over. -/
def decomposed (text : List Char) : List Char := orderMarks (text.flatMap (takenApart 3))

/-- A text that is being composed, all parts in reverse. -/
structure Composer where
  /-- What stands before the character that marks are composed with. -/
  before : List Char
  /-- The character that marks are composed with, if one came already. -/
  base : Option Char
  /-- The marks after it that were not composed. -/
  marks : List Char

namespace Composer

/-- All characters so far, in reverse. -/
def reversed (k : Composer) : List Char := k.marks ++ k.base.toList ++ k.before

/-- The mark that stands last does not keep a character from the base. -/
def reaches (k : Composer) (c : Char) : Bool :=
  match k.marks with
  | [] => true
  | mark :: _ => combiningClass mark < combiningClass c

def add (k : Composer) (c : Char) : Composer :=
  let composed := if k.reaches c then k.base.bind (composed? · c) else none
  match composed with
  | some whole => { k with base := some whole }
  | none =>
    if combiningClass c = 0 then ⟨k.reversed, some c, []⟩
    else { k with marks := c :: k.marks }

end Composer

/-- A text in the form in which all is composed. -/
def normalForm (text : List Char) : List Char :=
  ((decomposed text).foldl Composer.add ⟨[], none, []⟩).reversed.reverse

end CatalogClient

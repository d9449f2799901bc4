import CatalogClient.Text.Parts
import CatalogClient.Text.Percent

/-!
# Paths of URLs

A path is a row of segments, each after a slash, and dot segments are resolved as it is read. A
letter with a colon or a bar after it names a drive: no dot segment leads out of it, and at the
start of a path to a file it is written with a colon.
-/

namespace CatalogClient

/-- A path of segments, each after a slash, or a text that has no structure. -/
inductive UrlPath
  | segments (parts : List (List Char))
  | plain (text : List Char)
deriving DecidableEq

namespace UrlPath

/-- What paths encode of the shown characters. -/
def encoded : List Char := ['"', '#', '<', '>', '?', '\x60', '\x7b', '\x7d']

/-- What paths leave as it is. -/
def keeps (c : Char) : Bool := isGraphic c && !(encoded.contains c)

/-- Plain paths keep all that is shown, blanks included. -/
def keepsPlain (c : Char) : Bool := 0x20 ≤ c.toNat && c.toNat < 0x7F

/-- A segment that stands for the directory itself. -/
def isSingleDot (segment : List Char) : Bool :=
  segment = ['.'] || segment.map Char.toLower = "%2e".toList

/-- A segment that stands for the directory above. -/
def isDoubleDot (segment : List Char) : Bool :=
  [['.', '.'], ".%2e".toList, "%2e.".toList, "%2e%2e".toList].contains (segment.map Char.toLower)

/-- The letter of a drive. -/
def drive? : List Char → Option Char
  | [letter, sign] => if letter.isAlpha && (sign = ':' || sign = '|') then some letter else none
  | _ => none

/-- The directory above, of segments in reverse. Nothing is above a drive. -/
def above : List (List Char) → List (List Char)
  | [] => []
  | last :: before => if (drive? last).isSome then last :: before else before

/-- Segments that are being resolved, in reverse, and whether a path to a file starts with a drive,
which makes its host void. -/
structure Resolved where
  reversed : List (List Char)
  hasDrive : Bool

/-- Adds a segment other than a dot segment. -/
def Resolved.add (toFile : Bool) (path : Resolved) (segment : List Char) : Resolved :=
  match if toFile && path.reversed.isEmpty then drive? segment else none with
  | some letter => ⟨[[letter, ':']], true⟩
  | none => { path with reversed := percentEncode keeps segment :: path.reversed }

/-- Resolves segments in turn. A dot segment at the end leaves an empty segment, so the path still
ends with a slash. -/
def resolve (toFile : Bool) (path : Resolved) : List (List Char) → Resolved
  | [] => path
  | segment :: more =>
    let directory : Option (List (List Char)) :=
      if isDoubleDot segment then some (above path.reversed)
      else if isSingleDot segment then some path.reversed
      else none
    match directory with
    | none => resolve toFile (path.add toFile segment) more
    | some reversed =>
      if more.isEmpty then { path with reversed := [] :: reversed }
      else resolve toFile { path with reversed := reversed } more

/-- Reads segments up to the end of a text. -/
def parse (isSlash : Char → Bool) (text : List Char) : UrlPath :=
  .segments (resolve false ⟨[], false⟩ (splitAtChar isSlash text)).reversed.reverse

/-- Drops empty segments at the start, though not the last segment. -/
def dropEmpty : List (List Char) → List (List Char)
  | [] :: second :: more => dropEmpty (second :: more)
  | parts => parts

/-- Reads the segments of a path to a file, and tells whether they start with a drive. -/
def parseToFile (isSlash : Char → Bool) (text : List Char) : UrlPath × Bool :=
  let path := resolve true ⟨[], false⟩ (splitAtChar isSlash text)
  (.segments (dropEmpty path.reversed.reverse), path.hasDrive)

def render : UrlPath → List Char
  | .segments parts => parts.flatMap fun part => '/' :: part
  | .plain text => text

end UrlPath

end CatalogClient

import CatalogClient.Text.Direction
import CatalogClient.Text.Joining
import CatalogClient.Text.NormalForm
import CatalogClient.Url.Domain.Letters
import CatalogClient.Url.Punycode

/-!
# Domain names

A domain name is a row of labels with points between them. All ways to write a name come to one
form in ASCII: characters are replaced by those that stand for them, the text is composed, and each
label with other characters than those of ASCII is encoded. A label that comes encoded must be the
encoding of a label in this form.
-/

namespace CatalogClient

/-- A label as it is shown and as it is written in ASCII. -/
structure DomainLabel where
  shown : List Char
  ascii : List Char
deriving DecidableEq

namespace DomainLabel

/-- The label starts with the sign of an encoded one. -/
def isEncoded (label : List Char) : Bool := Punycode.lead.isPrefixOf label

/-- All characters of the label stand for themselves, and it is composed. -/
def isNormal (label : List Char) : Bool :=
  label.all (fun c => nameLetters? c = some [c]) && normalForm label = label

/-- No label begins with a mark, and joiners stand only where they join or part letters. -/
def isWellFormed (label : List Char) : Bool :=
  !((label.head?.map isMark).getD false) && joinersStandRightly [] label

/-- Reads a label that comes encoded. It stands for a label that needs to be encoded. -/
def decoded? (label : List Char) : Option DomainLabel := do
  let text := label.drop Punycode.lead.length
  if text.length ≤ 2000 then
    let shown ← Punycode.decode? text
    if label.all isAscii && !shown.all isAscii && isNormal shown then some ⟨shown, label⟩ else none
  else none

/-- Reads a label in normal form. Only labels up to a thousand characters are encoded. -/
def ofNormal? (label : List Char) : Option DomainLabel := do
  let read ←
    if isEncoded label then decoded? label
    else if label.all isAscii then some ⟨label, label⟩
    else if label.length ≤ 1000 then some ⟨label, Punycode.encodeLabel label⟩
    else none
  if isWellFormed read.shown then some read else none

end DomainLabel

namespace Domain

/-- A name whose characters are all in ASCII and whose labels are not encoded. -/
def isPlain (name : List Char) : Bool :=
  name.all isAscii
    && !(splitAtChar (· = '.') (name.map Char.toLower)).any DomainLabel.isEncoded

/-- A name with its characters replaced by those that stand for them, and composed. -/
def normal? (name : List Char) : Option (List Char) := do
  let letters ← name.mapM nameLetters?
  some (normalForm letters.flatten)

/-- Where some character of a name runs from the right, each label has to keep its direction. -/
def keepsDirections (labels : List (List Char)) : Bool :=
  !labels.any (·.any runsFromRight) || labels.all fun label => label.isEmpty || keepsDirection label

/-- A name in ASCII; for a plain one this is its lower case. -/
def toAscii? (name : List Char) : Option (List Char) :=
  if isPlain name then some (name.map Char.toLower)
  else do
    let normal ← normal? name
    let labels ← (splitAtChar (· = '.') normal).mapM DomainLabel.ofNormal?
    if keepsDirections (labels.map (·.shown)) then some (joinWith ['.'] (labels.map (·.ascii)))
    else none

end Domain

end CatalogClient

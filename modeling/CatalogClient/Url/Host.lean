import CatalogClient.Text.Octets
import CatalogClient.Text.Percent
import CatalogClient.Url.Domain

/-!
# Hosts of URLs

A host is a domain name, an address of either kind, or empty. A name whose last label is a number
has to be an address.
-/

namespace CatalogClient

/-- Why a text is no absolute URL. -/
inductive UrlFault
  | noScheme
  | emptyHost
  | badPort
  | badIpv4
  | badIpv6
  | badDomain
  /-- The host of a scheme that knows no domain names holds a sign that parts a URL. -/
  | badOpaqueHost
deriving DecidableEq

inductive Host
  | domain (name : List Char)
  | ipv4 (address : Nat)
  /-- The eight groups of 16 bits. -/
  | ipv6 (groups : List Nat)
  | empty
deriving DecidableEq

namespace Host

/-! ## Addresses of four parts -/

/-- A number to a base; nothing if a digit does not belong. -/
def number? (base : Nat) (digits : List Char) : Option Nat :=
  digits.foldlM (fun n c => do
    let d ← hexValue? c
    if d < base then some (n * base + d) else none) 0

/-- A part of an address: to base 16 after `0x`, to base 8 after `0`, else to base 10. -/
def ipv4Part? : List Char → Option Nat
  | [] => none
  | '0' :: 'x' :: digits | '0' :: 'X' :: digits => number? 16 digits
  | '0' :: digits => number? 8 digits
  | digits => number? 10 digits

/-- The labels of a name without an empty one at the end. -/
def ipv4Labels (name : List Char) : List (List Char) :=
  let labels := splitAtChar (· = '.') name
  if labels.length > 1 && labels.getLast? = some [] then labels.dropLast else labels

/-- The name's last label is a number, so the name has to be an address. -/
def endsInNumber (name : List Char) : Bool :=
  match (ipv4Labels name).getLast? with
  | none | some [] => false
  | some label =>
    label.all Char.isDigit
      || (match label with
        | '0' :: 'x' :: digits | '0' :: 'X' :: digits => (number? 16 digits).isSome
        | _ => false)

/-- An address of at most four parts, of which the last fills what the others leave. -/
def ipv4? (name : List Char) : Option Nat := do
  let labels := ipv4Labels name
  let parts ← labels.mapM ipv4Part?
  let last ← parts.getLast?
  let first := parts.dropLast
  -- what the last part fills
  let width := Nat.pow 256 (4 - first.length)
  if 4 < parts.length || first.any (255 < ·) || width ≤ last then none
  else some (first.foldl (fun n part => n * 256 + part) 0 * width + last)

/-! ## Addresses of eight groups -/

/-- Groups of hexadecimal digits between colons, the last two as four parts if so written. -/
def ipv6Groups? : List (List Char) → Option (List Nat)
  | [] => some []
  | [last] =>
    if last.contains '.' then do
      let parts := splitAtChar (· = '.') last
      if parts.length = 4 && parts.all (fun p => p = ['0'] || (p.head? != some '0' && !p.isEmpty))
      then
        let values ← parts.mapM (number? 10)
        match values with
        | [a, b, c, d] => if values.all (· < 256) then some [a * 256 + b, c * 256 + d] else none
        | _ => none
      else none
    else if last.isEmpty || 4 < last.length then none
    else do
      let value ← number? 16 last
      some [value]
  | group :: groups =>
    if group.isEmpty || 4 < group.length then none
    else do
      let value ← number? 16 group
      let more ← ipv6Groups? groups
      some (value :: more)

/-- The groups on one side of a double colon. -/
def ipv6Side? (side : List Char) : Option (List Nat) :=
  if side.isEmpty then some [] else ipv6Groups? (splitAtChar (· = ':') side)

/-- Splits at the first double colon. -/
def splitDoubleColon : List Char → Option (List Char × List Char)
  | ':' :: ':' :: rest => some ([], rest)
  | c :: rest => (splitDoubleColon rest).map fun (before, after) => (c :: before, after)
  | [] => none

/-- Eight groups, of which a double colon leaves out as many zeros as are missing. -/
def ipv6? (text : List Char) : Option (List Nat) :=
  match splitDoubleColon text with
  | none => do
    let groups ← ipv6Side? text
    if groups.length = 8 then some groups else none
  | some (before, after) => do
    if before.contains '.' then none
    else
      let left ← ipv6Side? before
      let right ← ipv6Side? after
      let count := left.length + right.length
      if count < 8 then some (left ++ List.replicate (8 - count) 0 ++ right) else none

/-- The first longest run of zeros, as its start and length. -/
def longestZeros (groups : List Nat) : Nat × Nat :=
  let runs := (List.range groups.length).map fun i =>
    (i, ((groups.drop i).takeWhile (· = 0)).length)
  runs.foldl (fun best run => if best.2 < run.2 then run else best) (0, 0)

/-- Groups between colons, the longest run of at least two zeros as a double colon. -/
def renderIpv6 (groups : List Nat) : List Char :=
  let (start, length) := longestZeros groups
  let side (part : List Nat) := joinWith [':'] (part.map lowerHex)
  if length < 2 then side groups
  else side (groups.take start) ++ [':', ':'] ++ side (groups.drop (start + length))

def renderIpv4 (address : Nat) : List Char :=
  joinWith ['.'] ([16777216, 65536, 256, 1].map fun place =>
    (toString (address / place % 256)).toList)

/-! ## Names -/

/-- Signs that part a URL, and so belong to no host. -/
def isSeparating (c : Char) : Bool :=
  [Char.ofNat 0, '\t', '\n', '\r', ' ', '#', '/', ':', '<', '>', '?', '@', '[', '\\', ']', '^',
    '|'].contains c

/-- Characters that no domain name can hold: controls, separating signs and the percent sign. -/
def isForbidden (c : Char) : Bool :=
  c.toNat < 0x20 || c.toNat = 0x7F || c = '%' || isSeparating c

/-- Reads the host of a URL whose scheme knows domain names. -/
def parse (text : List Char) : Except UrlFault Host :=
  match text with
  | [] => .error .emptyHost
  | '[' :: rest =>
    if rest.getLast? = some ']' then
      match ipv6? rest.dropLast with
      | some groups => .ok (.ipv6 groups)
      | none => .error .badIpv6
    else .error .badIpv6
  | text =>
    match Domain.toAscii? (lenientChars none (percentDecode text)) with
    | none => .error .badDomain
    | some name =>
      if name.any isForbidden then .error .badDomain
      else if name.isEmpty then .error .emptyHost
      else if endsInNumber name then
        match ipv4? name with
        | some address => .ok (.ipv4 address)
        | none => .error .badIpv4
      else .ok (.domain name)

/-- The host of a URL whose scheme does not know domain names, taken as it is written. -/
def parseOpaque (text : List Char) : Except UrlFault Host :=
  match text with
  | [] => .ok .empty
  | '[' :: _ => parse text
  | text =>
    if text.any isSeparating then .error .badOpaqueHost
    else .ok (.domain (percentEncode isGraphic text))

def render : Host → List Char
  | .domain name => name
  | .ipv4 address => renderIpv4 address
  | .ipv6 groups => '[' :: renderIpv6 groups ++ [']']
  | .empty => []

end Host

end CatalogClient

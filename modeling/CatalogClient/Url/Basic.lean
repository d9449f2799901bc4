import CatalogClient.Url.Credentials
import CatalogClient.Url.Host
import CatalogClient.Url.Path

/-!
# Absolute URLs

A URL is read into its parts and written back in normal form: dot segments resolved, and each part
percent-encoded by its own rule. What a server is asked for is the path and the query; the
fragment stays with the client.
-/

namespace CatalogClient

structure Url where
  scheme : List Char
  credentials : Option Credentials
  /-- The host, with the port unless it is the scheme's own. -/
  host : Option (Host × Option Nat)
  path : UrlPath
  query : Option (List Char)
  fragment : Option (List Char)
deriving DecidableEq

namespace Url

def httpSchemes : List (List Char) := ["http".toList, "https".toList]

/-- Schemes whose hosts are domain names and whose paths always start with a slash. -/
def isSpecial (scheme : List Char) : Bool :=
  (["http", "https", "ws", "wss", "ftp", "file"].map String.toList).contains scheme

/-- The port that goes without saying. -/
def defaultPort? (scheme : List Char) : Option Nat :=
  if scheme = "http".toList || scheme = "ws".toList then some 80
  else if scheme = "https".toList || scheme = "wss".toList then some 443
  else if scheme = "ftp".toList then some 21
  else none

/-! ## What each part keeps -/

/-- What queries encode of the shown characters; an apostrophe only where the scheme is special. -/
def encodedInQuery (special : Bool) : List Char :=
  ['"', '#', '<', '>'] ++ if special then ['\''] else []

/-- What fragments encode of the shown characters. -/
def encodedInFragment : List Char := ['"', '<', '>', '\x60']

def keptInQuery (special : Bool) (c : Char) : Bool :=
  isGraphic c && !((encodedInQuery special).contains c)

def keptInFragment (c : Char) : Bool := isGraphic c && !(encodedInFragment.contains c)

/-! ## Reading -/

/-- Drops line ends and tabs anywhere, and controls and blanks around the text. -/
def trim (text : List Char) : List Char :=
  let isEdge (c : Char) : Bool := c.toNat ≤ 0x20
  let inner := ((text.dropWhile isEdge).reverse.dropWhile isEdge).reverse
  inner.filter fun c => !(c = '\t' || c = '\n' || c = '\r')

/-- Reads a scheme and its colon: a letter, then letters, digits and `+`, `-`, `.`. -/
def scheme? (text : List Char) : Option (List Char × List Char) :=
  let inScheme (c : Char) : Bool := c.isAlphanum || c = '+' || c = '-' || c = '.'
  match text with
  | [] => none
  | c :: _ =>
    if c.isAlpha then
      match text.dropWhile inScheme with
      | ':' :: rest => some ((text.takeWhile inScheme).map Char.toLower, rest)
      | _ => none
    else none

/-- Splits off a port at the first colon outside of brackets. -/
def splitPort : Bool → List Char → List Char × Option (List Char)
  | _, [] => ([], none)
  | inBrackets, c :: rest =>
    if c = ':' && !inBrackets then ([], some rest)
    else
      let inBrackets := if c = '[' then true else if c = ']' then false else inBrackets
      let (host, port) := splitPort inBrackets rest
      (c :: host, port)

/-- Reads a port up to a backslash, and gives what is left from there on. The scheme's own port
counts as none. -/
def parsePort (scheme text : List Char) : Except UrlFault (Option Nat × List Char) :=
  let rest := text.dropWhile Char.isDigit
  let digits := text.takeWhile Char.isDigit
  let port := digits.foldl (fun n c => n * 10 + (c.toNat - '0'.toNat)) 0
  if (rest.head?.any (· != '\\')) || 65535 < port then .error .badPort
  else if digits.isEmpty || defaultPort? scheme = some port then .ok (none, rest)
  else .ok (some port, rest)

/-- Slashes end the parts of a path; where the scheme is special, backslashes count as slashes. -/
def isSlash (special : Bool) (c : Char) : Bool := c = '/' || (special && c = '\\')

/-- What stands between the scheme and the query. -/
structure Hierarchy where
  credentials : Option Credentials
  host : Option (Host × Option Nat)
  path : UrlPath

/-- A text without the slash it starts with, if it does. -/
def dropSlash (special : Bool) : List Char → List Char
  | [] => []
  | c :: rest => if isSlash special c then rest else c :: rest

/-- Reads a path behind a host. -/
def parsePath (special : Bool) (text : List Char) : UrlPath :=
  if text.isEmpty && !special then .segments []
  else UrlPath.parse (isSlash special) (dropSlash special text)

/-- Reads credentials, a host and a port, and what else stands before the path. An `@` in front of
all else needs something behind it, unless the URL ends there. -/
def parseAuthority (scheme authority : List Char) (isLast : Bool) :
    Except UrlFault (Option Credentials × (Host × Option Nat) × List Char) := do
  let (credentialsText, rest) := cutLast '@' authority
  let credentials := credentialsText.bind Credentials.parse
  if credentialsText = some [] && rest.isEmpty && !isLast then throw .emptyHost
  let (hostText, portText) := splitPort false rest
  if hostText.isEmpty && (credentials.isSome || portText.isSome) then throw .emptyHost
  let host ← if isSpecial scheme then Host.parse hostText else Host.parseOpaque hostText
  let (port, rest) ← match portText with
    | none => .ok (none, [])
    | some text => parsePort scheme text
  return (credentials, (host, port), rest)

/-- Reads what stands behind the slashes of a URL with a host. -/
def parseHosted (scheme text : List Char) (isLast : Bool) : Except UrlFault Hierarchy := do
  let special := isSpecial scheme
  let after := text.dropWhile (!isSlash special ·)
  let (credentials, host, rest) ←
    parseAuthority scheme (text.takeWhile (!isSlash special ·)) (isLast && after.isEmpty)
  return ⟨credentials, some host, parsePath special (rest ++ after)⟩

/-- Reads a path to a file, without a host or with one that gives way to a drive. -/
def fileHierarchy (host : Host) (text : List Char) : Hierarchy :=
  let (path, hasDrive) := UrlPath.parseToFile (isSlash true) text
  ⟨none, some (if hasDrive then .empty else host, none), path⟩

/-- Reads what stands behind the slashes of a URL of a file. The host is optional: neither a drive
nor this machine counts as one. -/
def parseFileHost (text : List Char) : Except UrlFault Hierarchy := do
  let hostText := text.takeWhile (!isSlash true ·)
  let after := text.dropWhile (!isSlash true ·)
  if (UrlPath.drive? hostText).isSome then return fileHierarchy .empty text
  else if hostText.isEmpty then return fileHierarchy .empty after
  else
    let host ← Host.parse hostText
    if host = .domain "localhost".toList then return fileHierarchy .empty after
    else return fileHierarchy host (dropSlash true after)

/-- Reads the place of a file. -/
def parseFile (text : List Char) : Except UrlFault Hierarchy :=
  if (text.takeWhile (isSlash true)).length < 2 then
    .ok (fileHierarchy .empty (dropSlash true text))
  else parseFileHost (text.drop 2)

/-- Reads what stands between the scheme and the query; `isLast` says that there is nothing after
it. -/
def parseHierarchy (scheme text : List Char) (isLast : Bool) : Except UrlFault Hierarchy :=
  if scheme = "file".toList then parseFile text
  else if isSpecial scheme then parseHosted scheme (text.dropWhile (isSlash true)) isLast
  else match text with
    | '/' :: '/' :: rest => parseHosted scheme rest isLast
    | '/' :: rest => .ok ⟨none, none, UrlPath.parse (isSlash false) rest⟩
    | text => .ok ⟨none, none, .plain (percentEncode UrlPath.keepsPlain text)⟩

/-- Reads an absolute URL. -/
def parse (text : String) : Except UrlFault Url :=
  match scheme? (trim text.toList) with
  | none => .error .noScheme
  | some (scheme, rest) => do
    let (rest, fragment) := cut '#' rest
    let (rest, query) := cut '?' rest
    let hierarchy ← parseHierarchy scheme rest (query.isNone && fragment.isNone)
    return {
      scheme := scheme
      credentials := hierarchy.credentials
      host := hierarchy.host
      path := hierarchy.path
      query := query.map (percentEncode (keptInQuery (isSpecial scheme)))
      fragment := fragment.map (percentEncode keptInFragment) }

/-! ## Writing -/

/-- The URL names a host. -/
def hasHost (url : Url) : Bool :=
  match url.host with
  | none | some (.empty, _) => false
  | some _ => true

/-- The URL is reached by HTTP. -/
def isHttp (url : Url) : Bool := httpSchemes.contains url.scheme

/-- Host and port. -/
def authority (url : Url) : List Char :=
  match url.host with
  | none => []
  | some (host, none) => host.render
  | some (host, some port) => host.render ++ ':' :: (toString port).toList

/-- A part after its mark, if it is there. -/
def renderPart (mark : Char) : Option (List Char) → List Char
  | none => []
  | some text => mark :: text

/-- What a server is asked for. -/
def target (url : Url) : String :=
  String.ofList (url.path.render ++ renderPart '?' url.query)

/-- The URL in normal form. Without a host, a path that starts with two slashes is kept apart from
one. -/
def render (url : Url) : String :=
  let front := match url.host, url.path with
    | none, .segments ([] :: _ :: _) => "/.".toList
    | none, _ => []
    | some _, _ =>
      '/' :: '/' :: (url.credentials.map Credentials.render).getD [] ++ url.authority
  String.ofList (url.scheme ++ ':' :: front ++ url.path.render ++ renderPart '?' url.query
    ++ renderPart '#' url.fragment)

/-- Signs that a URL's host can hold and an address of HTTP cannot. -/
def unsentInHost : List Char := ['"', '\x60', '\x7b', '\x7d']

/-- HTTP can carry the URL: it is short enough, and HTTP knows all signs of its host. -/
def isSendable (url : Url) : Bool :=
  url.render.length ≤ 65534 && !url.authority.any unsentInHost.contains

/-! ## Who asks -/

/-- Who asks by the credentials of the URL. -/
def login? (url : Url) : Option Login := url.credentials.bind Credentials.login?

/-- The URL without the credentials that say who asks. Others stay where they are. -/
def withoutLogin (url : Url) : Url :=
  if url.login?.isSome then { url with credentials := none } else url

end Url

end CatalogClient

import CatalogClient.Text.Octets
import CatalogClient.Text.Parts
import CatalogClient.Url.Path

/-!
# Credentials in URLs

In front of its host a URL can name a user, with or without a password. Both are percent-encoded
in the URL. `Credentials.login?` gives what they say.
-/

namespace CatalogClient

/-- A user and a password as they stand in a URL. -/
structure Credentials where
  user : List Char
  password : Option (List Char)
deriving DecidableEq

/-- Who asks, in plain characters. -/
structure Login where
  user : List Char
  password : Option (List Char)
deriving DecidableEq

namespace Credentials

/-- What credentials encode of the shown characters besides what paths encode. -/
def encoded : List Char := ['/', ':', ';', '=', '@', '[', '\\', ']', '^', '|']

/-- What credentials leave as it is. -/
def keeps (c : Char) : Bool := UrlPath.keeps c && !(encoded.contains c)

/-- Reads what stands before the host: a user, and a password after the first colon. An empty
password is none, and with an empty user there is nothing to keep. -/
def parse (text : List Char) : Option Credentials :=
  let (user, password) := cut ':' text
  let user := percentEncode keeps user
  match user, password with
  | [], none | [], some [] => none
  | user, none | user, some [] => some ⟨user, none⟩
  | user, some password => some ⟨user, some (percentEncode keeps password)⟩

/-- The credentials in front of a host. -/
def render (c : Credentials) : List Char :=
  c.user ++ (match c.password with
    | none => []
    | some password => ':' :: password) ++ ['@']

/-- What the credentials say. A user that is no text says nothing, a password that is no text
counts as none, and without both there is nobody. -/
def login? (c : Credentials) : Option Login := do
  let user ← chars? (percentDecode c.user)
  let password := c.password.bind fun text => chars? (percentDecode text)
  if user.isEmpty && password.isNone then none else some ⟨user, password⟩

end Credentials

end CatalogClient

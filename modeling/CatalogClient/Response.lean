import CatalogClient.Error
import CatalogClient.Json.Writer
import CatalogClient.Json.Format

/-!
# Responses

A success keeps its body as the document or the text that it was asked for as, and can be decoded
further into a type. Documents convert from what is already read; texts are read as JSON first.

Correspondence:
  `decode_payload`                 ↔ `Payload.ofBody`
  `Success::json`, `Success::text` ↔ `Success.json?`, `Success.text?`
  `Success::decode`                ↔ `Success.decode`, its type being a `Format`
-/

namespace CatalogClient

/-- A body as it was asked for. -/
inductive Payload
  | json (document : Json)
  | text (body : String)

namespace Payload

/-- The payload in a response's body. A response without content has nothing to read. -/
def ofBody (kind : ResponseKind) (status : Status) (body : String) : Except FetchError Payload :=
  match kind with
  | .text => .ok (.text body)
  | .json =>
    if status = 204 then .ok (.json .null)
    else match Json.read body with
      | .ok document => .ok (.json document)
      | .error e => .error (.decode status (.notJson e) body)

/-- The payload as a text: the text itself, or the document in compact form. -/
def asText : Payload → String
  | .json document => document.render
  | .text body => body

end Payload

structure Success where
  payload : Payload
  status : Status
  statusText : String
  headers : List (String × String)

namespace Success

def json? (success : Success) : Option Json :=
  match success.payload with
  | .json document => some document
  | .text _ => none

def text? (success : Success) : Option String :=
  match success.payload with
  | .text body => some body
  | .json _ => none

/-- Decodes the payload into the type of a format. -/
def decode {α : Type} (success : Success) (format : Format α) : Except FetchError α :=
  let fail (fault : DecodeFault) : Except FetchError α :=
    .error (.decode success.status fault success.payload.asText)
  match success.payload with
  | .json document =>
    match format.ofDocument document with
    | .ok x => .ok x
    | .error m => fail (.documentShape m)
  | .text body =>
    match format.read body with
    | .ok x => .ok x
    | .error e => fail (.textShape e)

end Success

end CatalogClient

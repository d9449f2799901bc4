import CatalogClient.Request.Form
import CatalogClient.Json.Writer

/-!
# Requests in wire form

`Request.encode` gives the URL that is asked for and the body that is sent. A payload travels as
the body if the method carries one; otherwise it is appended to the URL's query.

Correspondence:
  `encode_raw`                ↔ `rawPayload`
  `RequestDescriptor::encode` ↔ `Request.payload`, `Request.appendQuery`, `Request.encode`
-/

namespace CatalogClient

/-- What of a request goes on the wire besides its headers. -/
structure EncodedRequest where
  url : String
  body : Option String
deriving DecidableEq

/-- The payload of a raw body. Null and the empty array are no payload at all. -/
def rawPayload : Json → Except EncodeFault (Option String)
  | .null => .ok none
  | .string text => .ok (some text)
  | .bool b => .ok (some (Json.bool b).render)
  | .number n => .ok (some (Json.number n).render)
  | .array [] => .ok none
  | .array (_ :: _) => .error .nonEmptyArray
  | .object fields => (Form.pairs fields).map fun pairs => some (Form.render pairs)

namespace Request

def payload (request : Request) : Except EncodeFault (Option String) :=
  match request.body with
  | none => .ok none
  | some body => if request.serializeBody then rawPayload body else .ok (some body.render)

/-- The URL with a query appended: after `&` if the URL has a query already, else after `?`. -/
def appendQuery (url query : String) : String :=
  if query.isEmpty then url
  else url ++ (if url.toList.contains '?' then "&" else "?") ++ query

def encode (request : Request) : Except EncodeFault EncodedRequest := do
  let payload ← request.payload
  if request.method.carriesBody then return ⟨request.url, payload⟩
  else return ⟨appendQuery request.url (payload.getD ""), none⟩

section Encode
variable {request : Request} {payload : Option String}

theorem encode_of_carriesBody (has : request.payload = .ok payload)
    (carries : request.method.carriesBody = true) :
    request.encode = .ok ⟨request.url, payload⟩ := by
  simp only [encode, has, carries]
  rfl

theorem encode_of_not_carriesBody (has : request.payload = .ok payload)
    (bare : request.method.carriesBody = false) :
    request.encode = .ok ⟨appendQuery request.url (payload.getD ""), none⟩ := by
  simp only [encode, has, bare]
  rfl

end Encode

end Request

end CatalogClient

import CatalogClient.Json.Basic

/-!
# Requests

A request is described apart from its attempts: between the attempts at one request only the
attempt number changes.

Correspondence:
  `Method::as_str`, `response_kind`, `carries_body` ↔ `Method.name`, `responseKind`, `carriesBody`
  `ResponseKind::accept`                            ↔ `ResponseKind.accept`
  `RequestDescriptor::new`, its `with_` methods     ↔ `Request.new`, its `with` functions
  `RequestDescriptor::next_attempt`                 ↔ `Request.nextAttempt`, `Attempt.next`
-/

namespace CatalogClient

/-- How a response body is meant to be read. -/
inductive ResponseKind
  | json
  | text
deriving DecidableEq

/-- The media types asked for. -/
def ResponseKind.accept : ResponseKind → String
  | .json => "application/json"
  | .text => "text/plain, */*"

inductive Method
  | get
  | post
  | put
  | delete
deriving DecidableEq

namespace Method

/-- The method's name on the wire. -/
def name : Method → String
  | .get => "GET"
  | .post => "POST"
  | .put => "PUT"
  | .delete => "DELETE"

def ofName? : String → Option Method
  | "GET" => some .get
  | "POST" => some .post
  | "PUT" => some .put
  | "DELETE" => some .delete
  | _ => none

/-- Reads answer with documents, writes with plain acknowledgments. -/
def responseKind : Method → ResponseKind
  | .get | .put => .json
  | .post | .delete => .text

/-- The payload travels as the body, rather than in the query of the URL. -/
def carriesBody : Method → Bool
  | .post | .put => true
  | .get | .delete => false

theorem carriesBody_eq_true_iff {method : Method} :
    method.carriesBody = true ↔ method = .post ∨ method = .put := by
  cases method <;> decide

theorem carriesBody_eq_false_iff {method : Method} :
    method.carriesBody = false ↔ method = .get ∨ method = .delete := by
  cases method <;> decide

end Method

/-- The number of an attempt at a request, from one on. It stops counting at its greatest value. -/
abbrev Attempt := UInt32

/-- The number of the attempt after this one. -/
def Attempt.next (a : Attempt) : Attempt := if a = 4294967295 then a else a + 1

theorem Attempt.toNat_next (a : Attempt) : a.next.toNat = min (a.toNat + 1) 4294967295 := by
  unfold Attempt.next
  have hlt := a.toNat_lt
  split
  · rename_i h
    subst h
    decide
  · rename_i h
    have hne : a.toNat ≠ 4294967295 := fun e => h (UInt32.toNat_inj.mp e)
    rw [UInt32.toNat_add]
    simp only [UInt32.toNat_one]
    omega

structure Request where
  method : Method
  url : String
  contentType : Option String
  /-- The body is in wire form already: a text goes out as it is, a flat object as form fields.
  Otherwise the body goes out as JSON text. -/
  serializeBody : Bool
  body : Option Json
  attempt : Attempt

namespace Request

/-- A fresh request without a body. -/
def new (method : Method) (url : String) : Request :=
  ⟨method, url, none, true, none, 1⟩

def withContentType (request : Request) (contentType : String) : Request :=
  { request with contentType := some contentType }

/-- The request with a body that goes out as JSON text. -/
def withJsonBody (request : Request) (body : Json) : Request :=
  { request with serializeBody := false, body := some body }

/-- The request with a body that goes out as supplied. -/
def withRawBody (request : Request) (body : Json) : Request :=
  { request with serializeBody := true, body := some body }

/-- The request with its attempts counted from the one given. -/
def withAttempt (request : Request) (attempt : Attempt) : Request :=
  { request with attempt := attempt }

/-- The same request, one attempt later. -/
def nextAttempt (request : Request) : Request :=
  { request with attempt := request.attempt.next }

end Request

end CatalogClient

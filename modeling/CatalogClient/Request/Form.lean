import CatalogClient.Json.Datum
import CatalogClient.Request.Basic
import CatalogClient.Text.Percent

/-!
# Form fields

A flat object goes out as form fields: `key=value` pairs joined by `&`, key and value
percent-encoded apart. The items of an array are fields of their own under the key with `[]`
after it.

Correspondence:
  `form_pair`   ↔ `Form.pair`, `Form.renderPair`
  `encode_form` ↔ `Form.pairs`, `Form.render`
-/

namespace CatalogClient

/-- Why a body has no wire form. -/
inductive EncodeFault
  /-- A raw body is an array with items. -/
  | nonEmptyArray
  /-- The form field named holds an array or an object. -/
  | nestedField (field : String)
  /-- The value has no document. -/
  | notJson (fault : DatumFault)
  /-- Another reason, in the words of whoever found it. -/
  | described (message : String)
deriving DecidableEq

def EncodeFault.message : EncodeFault → String
  | .nonEmptyArray => "a raw body must be a string or a flat object, got a non-empty array"
  | .nestedField field => "form field '" ++ field ++ "' must hold a scalar value"
  | .notJson fault => "body is not serializable as JSON: " ++ fault.message
  | .described message => message

namespace Form

/-- The text of a scalar in a form: nothing for null, strings as they are, and the JSON text of
booleans and numbers. -/
def scalarText? : Json → Option String
  | .null => some ""
  | .string text => some text
  | .bool b => some (if b then "true" else "false")
  | .number n => some n.render
  | .array _ | .object _ => none

/-- A field with the text of its value. -/
def pair (key : String) (value : Json) : Except EncodeFault (String × String) :=
  match scalarText? value with
  | some text => .ok (key, text)
  | none => .error (.nestedField key)

/-- The pairs that one field of an object gives. -/
def pairsOfField (field : String × Json) : Except EncodeFault (List (String × String)) :=
  match field.2 with
  | .array items => items.mapM (pair (field.1 ++ "[]"))
  | value => (pair field.1 value).map fun p => [p]

/-- The pairs of an object, in the order of its fields. -/
def pairs : List (String × Json) → Except EncodeFault (List (String × String))
  | [] => .ok []
  | field :: fields => do
    let here ← pairsOfField field
    let more ← pairs fields
    return here ++ more

/-- A pair on the wire. -/
def renderPair (p : String × String) : String :=
  encodeComponent p.1 ++ "=" ++ encodeComponent p.2

/-- Pairs on the wire. -/
def render (pairs : List (String × String)) : String := "&".intercalate (pairs.map renderPair)

end Form

end CatalogClient

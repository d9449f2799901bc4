import CatalogClient.Json.Basic

/-!
# Values on their way into documents

A caller's value has more shapes than a document: numbers of any size, and maps under keys of any
kind. `Datum.toJson` gives the document for it, if there is one.
-/

namespace CatalogClient

inductive Datum
  | null
  | bool (b : Bool)
  | whole (i : Int)
  | float (x : Binary64)
  | text (s : String)
  | list (items : List Datum)
  /-- Values under keys, in the order in which they come. -/
  | map (entries : List (Datum × Datum))
  /-- A document stands for itself. -/
  | document (j : Json)
deriving Inhabited

/-- Why a value has no document. -/
inductive DatumFault
  | keyNotString
  | numberTooLarge
  | keyNotFinite
deriving DecidableEq

def DatumFault.message : DatumFault → String
  | .keyNotString => "key must be a string"
  | .numberTooLarge => "number out of range"
  | .keyNotFinite => "float key must be finite (got NaN or +/-inf)"

namespace Datum

/-- The text of a key. Keys without parts have one. -/
def keyText : Datum → Except DatumFault String
  | .bool b => .ok (toString b)
  | .whole i => .ok (toString i)
  | .float (.finite x) => .ok (x.render JsonNumber.layout)
  | .float _ => .error .keyNotFinite
  | .text s => .ok s
  | .document (.string s) => .ok s
  | .document (.bool b) => .ok (toString b)
  | .document (.number n) => .ok n.render
  | .null | .list _ | .map _ | .document _ => .error .keyNotString

mutual

/-- The document for a value. Doubles that are not finite become null. -/
def toJson : Datum → Except DatumFault Json
  | .null => .ok .null
  | .bool b => .ok (.bool b)
  | .whole i =>
    if h : FitsWord i then .ok (.number (.whole i h))
    else .error .numberTooLarge
  | .float (.finite x) => .ok (.number (.float x))
  | .float _ => .ok .null
  | .text s => .ok (.string s)
  | .list items => do
    let items ← toJsonItems items
    return .array items
  | .map entries => do
    let fields ← toJsonEntries entries
    return .object (Fields.ofList fields)
  | .document j => .ok j

def toJsonItems : List Datum → Except DatumFault (List Json)
  | [] => .ok []
  | item :: items => do
    let first ← toJson item
    let more ← toJsonItems items
    return first :: more

def toJsonEntry : Datum × Datum → Except DatumFault (String × Json)
  | (key, value) => do
    let key ← keyText key
    let value ← toJson value
    return (key, value)

def toJsonEntries : List (Datum × Datum) → Except DatumFault (List (String × Json))
  | [] => .ok []
  | entry :: entries => do
    let first ← toJsonEntry entry
    let more ← toJsonEntries entries
    return first :: more

end

end Datum

end CatalogClient

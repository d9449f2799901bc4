import CatalogClient.Binary64.Decimal
import CatalogClient.Binary64.Shortest
import CatalogClient.Json.Fields

/-!
# JSON documents

Numbers that are whole and fit in 64 bits, signed or unsigned, are kept exactly; all others are
doubles. Objects hold their fields in the order of the keys.
-/

namespace CatalogClient

/-- The whole numbers that fit in 64 bits, signed or unsigned. -/
def FitsWord (value : Int) : Prop := -9223372036854775808 ≤ value ∧ value ≤ 18446744073709551615

instance (value : Int) : Decidable (FitsWord value) := inferInstanceAs (Decidable (_ ∧ _))

/-- A number of a document. -/
inductive JsonNumber
  | whole (value : Int) (fits : FitsWord value)
  | float (x : FiniteDouble)
deriving DecidableEq

inductive Json
  | null
  | bool (b : Bool)
  | number (n : JsonNumber)
  | string (text : String)
  | array (items : List Json)
  | object (fields : List (String × Json))
deriving Inhabited

namespace JsonNumber

/-- Documents write a number out where its point stands at most sixteen digits in and at most
four zeros follow it; otherwise they use an exponent, with a sign. Of two equally near decimals
they take the even one. -/
def layout : Layout := ⟨-4, 16, true, .even⟩

/-- A whole number; as a double when it does not fit in 64 bits, zero when that overflows. -/
def ofInt (i : Int) : JsonNumber :=
  if h : FitsWord i then .whole i h
  else match Binary64.ofInt i with
    | .finite x => .float x
    | _ => .float .zero

def render : JsonNumber → String
  | .whole value _ => toString value
  | .float x => x.render layout

/-- The number as a double, rounded if it is whole and large. -/
def toBinary64 : JsonNumber → Binary64
  | .whole value _ => Binary64.ofInt value
  | .float x => .finite x

end JsonNumber

namespace Json

def ofInt (i : Int) : Json := .number (.ofInt i)

/-- An object of the fields given; of fields with one key the last one stays. -/
def ofFields (fields : List (String × Json)) : Json := .object (Fields.ofList fields)

/-- The value of a field, if the document is an object and has it. -/
def get? (key : String) : Json → Option Json
  | .object fields => Fields.get? key fields
  | _ => none

def asObject? : Json → Option (Fields Json)
  | .object fields => some fields
  | _ => none

end Json

end CatalogClient

import CatalogClient.Options

/-!
# Shapes

The shapes that a response can be asked to have, each with the type of its values and the format
they are read by.
-/

namespace CatalogClient

inductive Shape
  /-- Any document. -/
  | value
  | word8
  | word64
  | signed64
  | float
  | bool
  | text
  /-- Null or a text. -/
  | optionalText
  | texts
  /-- Nothing but null. -/
  | unit
  /-- A text and a word. -/
  | pair
  /-- Words under keys. -/
  | words
  | listing
  | options
deriving DecidableEq

/-- The schemas that a catalog lists. -/
structure Listing where
  schemas : Fields Json

namespace Listing

def structName : String := "struct Listing"

def key : String := "schemas"

/-- Reads the fields of a listing after a key; all but the schemas are passed over. -/
def scanField (fuel depth : Nat) (schemas : Option (Fields Json)) (name : String) :
    Reader (Option (Fields Json)) := fun text =>
  if name = key then
    if schemas.isSome then stopAt (.mismatch (.repeatedField key)) (Json.passObjectClose text)
    else do
      let text ← Json.scanColon text
      let (fields, text) ← (Format.fields Format.document).ofText fuel depth text
      return (some fields, text)
  else do
    let text ← Json.scanColon text
    let text ← Json.skipValue fuel text
    return (schemas, text)

/-- A listing is an object with its schemas under their key, or a list of just the schemas. -/
def format : Format Listing where
  ofText fuel depth text :=
    match Json.skipBlanks text with
    | '[' :: rest =>
      match depth with
      | 0 => stopAfterNext .tooDeep ('[' :: rest)
      | depth + 1 => do
        let (more, rest) ← Json.nextItem true rest
        if !more then
          stopAt (.mismatch (.wrongLength 0 (structName ++ " with 1 element")))
            (Json.passListClose rest)
        else
          let (fields, rest) ← (Format.fields Format.document).ofText fuel depth rest
          let rest ← Json.closeList rest
          return (⟨fields⟩, rest)
    | '\x7b' :: rest =>
      match depth with
      | 0 => stopAfterNext .tooDeep ('\x7b' :: rest)
      | depth + 1 => do
        let (schemas, rest) ← Json.scanFields (scanField fuel depth) fuel true none rest
        match schemas with
        | some fields => return (⟨fields⟩, rest)
        | none => stopAt (.mismatch (.missingField key)) rest
    | text => Json.refuse fuel structName text
  ofDocument
    | .array [] => .error (.wrongLength 0 (structName ++ " with 1 element"))
    | .array (item :: more) => do
      let fields ← (Format.fields Format.document).ofDocument item
      if more.isEmpty then return ⟨fields⟩
      else .error (.wrongLength (more.length + 1) Format.fewerItems)
    | .object fields =>
      match Fields.get? key fields with
      | some schemas => do
        let fields ← (Format.fields Format.document).ofDocument schemas
        return ⟨fields⟩
      | none => .error (.missingField key)
    | document => Json.refuseDocument structName document

end Listing

namespace Shape

/-- The type of a shape's values. -/
def Value : Shape → Type
  | value => Json
  | word8 => UInt8
  | word64 => UInt64
  | signed64 => Int64
  | float => Binary64
  | bool => Bool
  | text => String
  | optionalText => Option String
  | texts => List String
  | unit => Unit
  | pair => String × UInt64
  | words => Fields UInt64
  | listing => Listing
  | options => ClientOptions

def format : (shape : Shape) → Format shape.Value
  | value => Format.document
  | word8 => Format.word8
  | word64 => Format.word64
  | signed64 => Format.signed64
  | float => Format.float
  | bool => Format.bool
  | text => Format.text
  | optionalText => Format.optional Format.text
  | texts => Format.list Format.text
  | unit => Format.unit
  | pair => Format.pair Format.text Format.word64
  | words => Format.fields Format.word64
  | listing => Listing.format
  | options => ClientOptions.format

end Shape

end CatalogClient

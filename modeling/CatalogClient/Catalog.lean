import CatalogClient.Client.Calls

/-!
# Outline of a catalog

A command that reads the schema document of a catalog and prints the names of its schemas, each
followed by the names of its tables. Whatever is not there, or not an object, counts as empty.

Correspondence:
  the lookup of an object under a key ↔ `fieldsUnder`
  the two nested loops over names     ↔ `outline`, `schemaLines`
  the command                         ↔ `command`, `report`
-/

namespace CatalogClient

namespace Catalog

/-- The fields of an object under a key. -/
def fieldsUnder (key : String) (document : Json) : List (String × Json) :=
  ((document.get? key).bind Json.asObject?).getD []

/-- The lines for one schema: its name, then its tables. -/
def schemaLines (schema : String × Json) : List String :=
  schema.1 :: (fieldsUnder "tables" schema.2).map fun table => "  " ++ table.1

/-- The lines for a whole catalog. -/
def outline (document : Json) : List String := (fieldsUnder "schemas" document).flatMap schemaLines

/-- What a command leaves behind. -/
structure Result where
  exitCode : Nat
  stdout : String
  stderr : String
deriving DecidableEq

def Result.failed (message : String) : Result := ⟨1, "", "Error: " ++ message ++ "\n"⟩

def Result.printed (lines : List String) : Result :=
  ⟨0, String.join (lines.map fun line => line ++ "\n"), ""⟩

/-- The usual options, with a shorter time for each attempt. -/
def options : ClientOptions := { ClientOptions.standard with timeoutMs := 30000 }

def request (url : String) : Request :=
  (Request.new .get url).withContentType "application/x-www-form-urlencoded; charset=UTF-8"

/-- What is printed for the outcome of the request. -/
def report : Outcome → Result
  | .error error => .failed error.message
  | .ok success =>
    match success.json? with
    | none => .failed "catalog did not return JSON"
    | some document => .printed (outline document)

/-- Runs the command with its arguments. -/
def command (busy : Busy.Indicator) (arguments : List String) : Activity Result :=
  match arguments with
  | [] => return .failed "usage: catalog <schema-url>"
  | url :: _ => do
    let client := (Client.new busy).withOptions options
    let outcome ← client.fetch (request url)
    return report outcome

end Catalog

end CatalogClient

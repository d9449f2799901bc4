import CatalogClient.Catalog

/-!
# The command line

This program holds no network of its own. The document that the catalog's server would send is
taken from standard input; with nothing on standard input, no network leads to the server.
-/

namespace CatalogClient

namespace Catalog

/-- The network for what standard input holds. -/
def networkOfInput (input : String) : Nat → Arrival :=
  if input.isEmpty then World.nowhere else fun _ => .response 200 [] input

/-- Runs the command against the document given in place of a server. -/
def runOnInput (arguments : List String) (input : String) : Result :=
  let (busy, world) := World.start (networkOfInput input) (fun _ => .zero) false
  match command busy arguments world with
  | some (result, _) => result
  | none => .failed "the request does not end"

end Catalog

end CatalogClient

def main (arguments : List String) : IO UInt32 := do
  let input ← (← IO.getStdin).readToEnd
  let result := CatalogClient.Catalog.runOnInput arguments input
  (← IO.getStdout).putStr result.stdout
  (← IO.getStderr).putStr result.stderr
  return UInt32.ofNat result.exitCode

import CatalogClient.Json.Format

/-!
# Client options

Options can be given in part: a field that is left out keeps its default. As an object they come
in any order, and unknown fields are passed over; as a list they come in the order of their
declaration, and any number of them at the end can be left out.

Correspondence:
  `ClientOptions::default`, `DEFAULT_USER_AGENT` ↔ `ClientOptions.standard`, `userAgent`
  `ClientOptions` as it is deserialized          ↔ `ClientOptions.format`
-/

namespace CatalogClient

structure ClientOptions where
  /-- How long one attempt may take, in milliseconds. -/
  timeoutMs : UInt64
  /-- The highest attempt number that may still be retried. -/
  maxRetries : UInt32
  /-- What the delay before a retry is scaled by, in milliseconds. -/
  backoffScaleMs : Binary64
  /-- Headers sent with every request, names and values. -/
  headers : List (String × String)
deriving DecidableEq

namespace ClientOptions

/-- The header that identifies the client. -/
def userAgent : String × String := ("User-Agent", "ERMREST/1.0")

def standard : ClientOptions := ⟨300000, 1, .one, [userAgent]⟩

instance : Inhabited ClientOptions := ⟨standard⟩

end ClientOptions

inductive OptionName
  | timeoutMs
  | maxRetries
  | backoffScaleMs
  | headers
deriving DecidableEq

namespace OptionName

/-- The order in which options come in a list. -/
def all : List OptionName := [timeoutMs, maxRetries, backoffScaleMs, headers]

/-- The key of an option in an object. -/
def key : OptionName → String
  | timeoutMs => "timeout_ms"
  | maxRetries => "max_retries"
  | backoffScaleMs => "backoff_scale_ms"
  | headers => "headers"

def ofKey? (key : String) : Option OptionName := all.find? fun name => name.key = key

end OptionName

/-- Options of which some are given. -/
structure PartialOptions where
  timeoutMs : Option UInt64
  maxRetries : Option UInt32
  backoffScaleMs : Option Binary64
  headers : Option (List (String × String))
deriving DecidableEq

namespace PartialOptions

def empty : PartialOptions := ⟨none, none, none, none⟩

/-- The option is given. -/
def has (options : PartialOptions) : OptionName → Bool
  | .timeoutMs => options.timeoutMs.isSome
  | .maxRetries => options.maxRetries.isSome
  | .backoffScaleMs => options.backoffScaleMs.isSome
  | .headers => options.headers.isSome

/-- Every option that is not given takes its default. -/
def complete (options : PartialOptions) : ClientOptions :=
  ⟨options.timeoutMs.getD ClientOptions.standard.timeoutMs,
    options.maxRetries.getD ClientOptions.standard.maxRetries,
    options.backoffScaleMs.getD ClientOptions.standard.backoffScaleMs,
    options.headers.getD ClientOptions.standard.headers⟩

/-- How an option's value is read, and added to the options so far. -/
def format (options : PartialOptions) : OptionName → Format PartialOptions
  | .timeoutMs => Format.word64.map fun v => { options with timeoutMs := some v }
  | .maxRetries => Format.word32.map fun v => { options with maxRetries := some v }
  | .backoffScaleMs => Format.float.map fun v => { options with backoffScaleMs := some v }
  | .headers =>
    (Format.list (Format.pair Format.text Format.text)).map fun v =>
      { options with headers := some v }

/-- Reads options in the order of their names, as many as there are, and the closing bracket. -/
def scanPositions (fuel depth : Nat) : List OptionName → Bool → PartialOptions →
    Reader PartialOptions
  | [], _, options, text => do
    let text ← Json.closeList text
    return (options, text)
  | name :: names, first, options, text => do
    let (more, text) ← Json.nextItem first text
    if more then
      let (options, text) ← (options.format name).ofText fuel depth text
      scanPositions fuel depth names false options text
    else
      let text ← Json.closeList text
      return (options, text)

/-- Reads a field after its key. -/
def scanField (fuel depth : Nat) (options : PartialOptions) (key : String) :
    Reader PartialOptions := fun text =>
  match OptionName.ofKey? key with
  | none => do
    let text ← Json.scanColon text
    let text ← Json.skipValue fuel text
    return (options, text)
  | some name =>
    if options.has name then
      -- the value of a repeated field is not looked at
      stopAt (.mismatch (.repeatedField name.key)) (Json.passObjectClose text)
    else do
      let text ← Json.scanColon text
      (options.format name).ofText fuel depth text

/-- Takes options from the items of a list, in the order of their names. -/
def ofItems (options : PartialOptions) : List OptionName → List Json →
    Except Mismatch PartialOptions
  | _, [] => .ok options
  | [], more => .error (.wrongLength (OptionName.all.length + more.length) Format.fewerItems)
  | name :: names, item :: items => do
    let options ← (options.format name).ofDocument item
    ofItems options names items

/-- Takes options from the fields of an object. -/
def ofFields (options : PartialOptions) : List (String × Json) → Except Mismatch PartialOptions
  | [] => .ok options
  | (key, value) :: fields =>
    match OptionName.ofKey? key with
    | none => ofFields options fields
    | some name =>
      if options.has name then .error (.repeatedField name.key)
      else do
        let options ← (options.format name).ofDocument value
        ofFields options fields

end PartialOptions

namespace ClientOptions

/-- What options are called in a mismatch. -/
def structName : String := "struct ClientOptions"

def format : Format ClientOptions where
  ofText fuel depth text :=
    match Json.skipBlanks text with
    | '[' :: rest =>
      match depth with
      | 0 => stopAfterNext .tooDeep ('[' :: rest)
      | depth + 1 => do
        let (options, rest) ←
          PartialOptions.scanPositions fuel depth OptionName.all true .empty rest
        return (options.complete, rest)
    | '\x7b' :: rest =>
      match depth with
      | 0 => stopAfterNext .tooDeep ('\x7b' :: rest)
      | depth + 1 => do
        let (options, rest) ←
          Json.scanFields (PartialOptions.scanField fuel depth) fuel true .empty rest
        return (options.complete, rest)
    | text => Json.refuse fuel structName text
  ofDocument
    | .array items => (PartialOptions.empty.ofItems OptionName.all items).map (·.complete)
    | .object fields => (PartialOptions.empty.ofFields fields).map (·.complete)
    | document => Json.refuseDocument structName document

/-- Reads options from a text. -/
def read (text : String) : Except JsonError ClientOptions := format.read text

end ClientOptions

end CatalogClient

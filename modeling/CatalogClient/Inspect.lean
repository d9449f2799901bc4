import CatalogClient.Busy
import CatalogClient.Retry
import CatalogClient.Request.Encoding
import CatalogClient.Text.Inspect

/-!
# Values as they are inspected

The texts by which requests, options, failures and indicators show what they hold: the name of the
type, then its fields by name in braces.
-/

namespace CatalogClient

namespace Inspect

/-- A type's name with its fields in braces. -/
def record (name : String) (fields : List (String × String)) : String :=
  name ++ " \x7b " ++ ", ".intercalate (fields.map fun (field, text) => field ++ ": " ++ text)
    ++ " \x7d"

/-- Items in brackets. -/
def list (items : List String) : String := "[" ++ ", ".intercalate items ++ "]"

def option (text? : Option String) : String :=
  match text? with
  | some text => "Some(" ++ text ++ ")"
  | none => "None"

/-- Inspected doubles are written out from four places after the point on, exponents have no plus
sign, and of two equally near decimals the greater is taken. -/
def layout : Layout := ⟨-3, 16, false, .away⟩

def double : Binary64 → String
  | .nan => "NaN"
  | .infinity negative => if negative then "-inf" else "inf"
  | .finite x => x.render layout

mutual

def json : Json → String
  | .null => "Null"
  | .bool b => "Bool(" ++ toString b ++ ")"
  | .number n => "Number(" ++ n.render ++ ")"
  | .string text => "String(" ++ inspectText text ++ ")"
  | .array items => "Array [" ++ ", ".intercalate (jsonItems items) ++ "]"
  | .object fields => "Object \x7b" ++ ", ".intercalate (jsonFields fields) ++ "\x7d"

def jsonItems : List Json → List String
  | [] => []
  | item :: items => json item :: jsonItems items

def jsonField : String × Json → String
  | (key, value) => inspectText key ++ ": " ++ json value

def jsonFields : List (String × Json) → List String
  | [] => []
  | field :: fields => jsonField field :: jsonFields fields

end

def method : Method → String
  | .get => "Get"
  | .post => "Post"
  | .put => "Put"
  | .delete => "Delete"

def request (r : Request) : String :=
  record "RequestDescriptor"
    [("method", method r.method), ("url", inspectText r.url),
      ("content_type", option (r.contentType.map inspectText)),
      ("serialize_body", toString r.serializeBody), ("body", option (r.body.map json)),
      ("attempt", toString r.attempt.toNat)]

def options (o : ClientOptions) : String :=
  record "ClientOptions"
    [("timeout_ms", toString o.timeoutMs.toNat), ("max_retries", toString o.maxRetries.toNat),
      ("backoff_scale_ms", double o.backoffScaleMs),
      ("headers", list (o.headers.map fun (name, value) =>
        "(" ++ inspectText name ++ ", " ++ inspectText value ++ ")"))]

def counter (c : Busy.Counter) : String :=
  record "BusyIndicator" [("in_flight", toString c.inFlight), ("hook", toString c.hooked)]

def client (o : ClientOptions) (c : Busy.Counter) : String :=
  record "FetchClient" [("options", options o), ("busy", counter c)]

def urlFault : UrlFault → String
  | .noScheme => "RelativeUrlWithoutBase"
  | .emptyHost => "EmptyHost"
  | .badPort => "InvalidPort"
  | .badIpv4 => "InvalidIpv4Address"
  | .badIpv6 => "InvalidIpv6Address"
  | .badDomain => "IdnaError"
  | .badOpaqueHost => "InvalidDomainCharacter"

/-- The fault at the bottom of a failed transport, with those it went through. -/
def transport (fault : TransportFault) : String :=
  record "reqwest::Error" <| match fault with
    | .build (.url fault) => [("kind", "Builder"), ("source", urlFault fault)]
    | .build .headerName => [("kind", "Builder"), ("source", "http::Error(InvalidHeaderName)")]
    | .build .headerValue => [("kind", "Builder"), ("source", "http::Error(InvalidHeaderValue)")]
    | .scheme url => [("kind", "Builder"), ("url", inspectText url), ("source", "BadScheme")]
    | .unsendable url =>
      [("kind", "Builder"), ("url", inspectText url),
        ("source", inspectText "Parsed Url is not a valid Uri")]
    | .unreachable host url =>
      [("kind", "Request"), ("url", inspectText url),
        ("source", "hyper_util::client::legacy::Error(Connect, ConnectError(\"tcp connect error\", "
          ++ host ++ ", " ++ record "Os" [("code", "101"), ("kind", "NetworkUnreachable"),
            ("message", inspectText "Network is unreachable")] ++ "))")]
    | .noResponse url timedOut =>
      [("kind", "Request"), ("url", inspectText url),
        ("source", if timedOut then "TimedOut"
          else "hyper_util::client::legacy::Error(SendRequest, hyper::Error(IncompleteMessage))")]
    | .brokenBody timedOut =>
      [("kind", "Decode"),
        ("source", record "reqwest::Error" [("kind", "Body"),
          ("source", if timedOut then "TimedOut" else "hyper::Error(Body, IncompleteBody)")])]

def error : FetchError → String
  | .transport fault => "Transport(" ++ transport fault ++ ")"
  | .http status statusText body =>
    record "Http" [("status", toString status), ("status_text", inspectText statusText),
      ("body", inspectText body)]
  | .encode fault => "Encode(" ++ inspectText fault.message ++ ")"
  | .decode status fault body =>
    record "Decode" [("status", toString status), ("message", inspectText fault.message),
      ("body", inspectText body)]
  | .runtime reason =>
    "Runtime(" ++ record "Custom" [("kind", "Other"), ("error", inspectText reason)] ++ ")"

/-- A failure with its request; what else the context holds is not shown. -/
def context (e : FetchError) (r : Request) : String :=
  "ErrorContext \x7b error: " ++ error e ++ ", request: " ++ request r ++ ", .. \x7d"

end Inspect

end CatalogClient

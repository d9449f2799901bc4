import CatalogClient.Json.Message
import CatalogClient.Request.Form
import CatalogClient.Status
import CatalogClient.Url.Host

/-!
# Failures

Every failure of a request is one of five kinds. What is asked of a failure depends on its kind
alone: the status it counts as, the text of the response if one came, and whether it may pass by
itself, so that another attempt makes sense.

Correspondence:
  `FetchError::status`, `status_text`, `response_text` ↔ `status`, `statusText`, `responseText`
  `FetchError::text_status`, `description`             ↔ `textStatus`, `description`
  `FetchError::is_transient`                           ↔ `isTransient`
  `diagnostic_message`                                 ↔ `diagnostic`
-/

namespace CatalogClient

/-- Why a request could not be built at all. -/
inductive BuildFault
  /-- The URL is not an absolute URL. -/
  | url (fault : UrlFault)
  /-- A header's name is no header name. -/
  | headerName
  /-- A header's value holds a character that headers cannot hold. -/
  | headerValue
deriving DecidableEq

/-- How the transport of a request failed. -/
inductive TransportFault
  | build (fault : BuildFault)
  /-- The URL names no host, or not one that is reached by HTTP. -/
  | scheme (url : String)
  /-- HTTP cannot carry the URL. -/
  | unsendable (url : String)
  /-- No network leads to the host. -/
  | unreachable (host url : String)
  /-- The host gave no valid response, or none in time. -/
  | noResponse (url : String) (timedOut : Bool)
  /-- The body of the response did not arrive whole, or not in time. -/
  | brokenBody (timedOut : Bool)
deriving DecidableEq

/-- Why the body of a response is not what was asked for. -/
inductive DecodeFault
  | notJson (e : JsonError)
  /-- The text of the response does not read as the type asked for. -/
  | textShape (e : JsonError)
  /-- The document of the response does not have the type asked for. -/
  | documentShape (m : Mismatch)
  /-- Another reason, in the words of whoever found it. -/
  | described (message : String)

inductive FetchError
  | transport (fault : TransportFault)
  /-- The response's status is none of a success. -/
  | http (status : Status) (statusText : String) (body : String)
  /-- The body has no wire form. -/
  | encode (fault : EncodeFault)
  /-- A response came, and its body is not what was asked for. -/
  | decode (status : Status) (fault : DecodeFault) (body : String)
  /-- What a blocking call runs on could not be started. -/
  | runtime (reason : String)

namespace TransportFault

def message : TransportFault → String
  | .build _ => "builder error"
  | .scheme url | .unsendable url => "builder error for url (" ++ url ++ ")"
  | .unreachable _ url | .noResponse url _ => "error sending request for url (" ++ url ++ ")"
  | .brokenBody _ => "error decoding response body"

def timedOut : TransportFault → Bool
  | .noResponse _ timedOut | .brokenBody timedOut => timedOut
  | _ => false

/-- The request was refused before anything was sent. -/
def isLocal : TransportFault → Bool
  | .build _ | .scheme _ | .unsendable _ => true
  | _ => false

end TransportFault

def DecodeFault.message : DecodeFault → String
  | .notJson e => "invalid JSON response: " ++ e.message
  | .textShape e => "unexpected response shape: " ++ e.message
  | .documentShape m => "unexpected response shape: " ++ m.message
  | .described message => message

namespace FetchError

/-- The name of the failure's kind. -/
def kind : FetchError → String
  | .transport _ => "Transport"
  | .http .. => "Http"
  | .encode _ => "Encode"
  | .decode .. => "Decode"
  | .runtime _ => "Runtime"

/-- The status of the response, zero if there was none. -/
def status : FetchError → Status
  | .http status .. | .decode status .. => status
  | .transport _ | .encode _ | .runtime _ => 0

/-- The reason phrase that goes with the status, empty if it has none. -/
def statusText : FetchError → String
  | .http _ statusText _ => statusText
  | error => error.status.reasonPhrase?.getD ""

/-- The body of the response, if there was one. -/
def responseText : FetchError → Option String
  | .http _ _ body | .decode _ _ body => some body
  | .transport _ | .encode _ | .runtime _ => none

/-- The coarse class of the failure. -/
def textStatus : FetchError → String
  | .transport fault => if fault.timedOut then "timeout" else "error"
  | .decode .. => "parsererror"
  | _ => "error"

/-- What went wrong, in words. -/
def description : FetchError → String
  | .transport fault => fault.message
  | .http _ statusText _ => statusText
  | .encode fault => fault.message
  | .decode _ fault _ => fault.message
  | .runtime reason => reason

/-- The failure in one text. -/
def message : FetchError → String
  | .transport fault => "transport error: " ++ fault.message
  | .http status statusText body =>
    "http error " ++ toString status ++ " " ++ statusText ++ ": " ++ body
  | .encode fault => "encode error: " ++ fault.message
  | .decode _ fault _ => "decode error: " ++ fault.message
  | .runtime reason => "runtime error: " ++ reason

/-- The failure may pass by itself. A request that never left cannot fare better next time. -/
def isTransient : FetchError → Bool
  | .transport fault => !fault.isLocal && Status.isRetryable 0
  | .http status .. => status.isRetryable
  | .encode _ | .decode .. | .runtime _ => false

/-- What is told about a failure that nobody handles, for the URL as it was given. -/
def diagnostic (error : FetchError) (url : String) : String :=
  "Status: " ++ toString error.status ++ "\n"
    ++ (match error.responseText with
      | some text => "ResponseText: " ++ text ++ "\n"
      | none => "")
    ++ "TextStatus: " ++ error.textStatus ++ "\n"
    ++ "ErrorThrown: " ++ error.description ++ "\n"
    ++ "URL: " ++ url ++ "\n"

end FetchError

end CatalogClient

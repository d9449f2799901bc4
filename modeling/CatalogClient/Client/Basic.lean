import CatalogClient.Header
import CatalogClient.Text.Base64
import CatalogClient.World

/-!
# The client

A request is put on the wire, what comes back decides the attempt's outcome, and the retry policy
decides whether the attempt was the last one. `Client.run` follows a request to its end, with the
busy indicator raised all the time.

Correspondence:
  `FetchClient::send_once`                    ↔ `Request.prepare`, `Client.attempt`, `Arrival.outcome`
  one round of the loop in `FetchClient::run` ↔ `Client.turn`, `Client.conclude`
  that loop                                   ↔ `Client.follow`
  `FetchClient::run`                          ↔ `Client.run`
  `FetchClient::alert`                        ↔ `Client.showAlert`
  `ErrorContext::into_error`                  ↔ `Ending.outcome`
-/

namespace CatalogClient

/-- Where failures are shown that nobody handles. -/
inductive AlertSink
  /-- To the user. -/
  | user
  /-- Only in the log. -/
  | log
deriving DecidableEq

structure Client where
  options : ClientOptions
  busy : Busy.Indicator
  alertSink : AlertSink
deriving DecidableEq

/-- What is known about a request that failed for good: the failure, the request as of its last
attempt, and the client that can issue it again. -/
structure ErrorContext where
  error : FetchError
  request : Request
  client : Client

/-- How a request ended. -/
abbrev Ending := Except ErrorContext Success

def Ending.outcome : Ending → Outcome
  | .ok success => .ok success
  | .error context => .error context.error

/-- The first header that cannot be sent, by its name or else by its value. -/
def Header.fault? : List (String × String) → Option BuildFault
  | [] => none
  | (name, value) :: more =>
    if !isName name then some .headerName
    else if !isValue value then some .headerValue
    else fault? more

namespace Request

/-- What a request asks for by headers: what it accepts, the client's own, and its content type. -/
def headers (request : Request) (own : List (String × String)) : List (String × String) :=
  ("Accept", request.method.responseKind.accept) :: own
    ++ (request.contentType.map fun t => ("Content-Type", t)).toList

/-- Tells the server who asks. -/
def authorization (login : Login) : String × String :=
  let text := login.user ++ ':' :: login.password.getD []
  ("Authorization", "Basic " ++ String.ofList (base64 (text.flatMap String.utf8EncodeChar)))

/-- The request as it is sent with the client's own headers, or the failure that keeps it from
being sent. The attempt number takes no part. -/
def prepare (request : Request) (own : List (String × String)) : Except FetchError WireRequest :=
  match request.encode with
  | .error fault => .error (.encode fault)
  | .ok encoded =>
    match Url.parse encoded.url with
    | .error fault => .error (.transport (.build (.url fault)))
    | .ok given =>
      let url := given.withoutLogin
      -- a URL without a host is refused at once, others only when the request is sent
      if !url.hasHost then .error (.transport (.scheme url.render))
      else match Header.fault? (request.headers own) with
        | some fault => .error (.transport (.build fault))
        | none =>
          if !url.isHttp then .error (.transport (.scheme url.render))
          else if !url.isSendable then .error (.transport (.unsendable url.render))
          else
            let headers := (given.login?.map authorization).toList ++ request.headers own
            .ok ⟨request.method, url, headers, encoded.body⟩

end Request

namespace Client

def new (busy : Busy.Indicator) : Client := ⟨.standard, busy, .log⟩

def withOptions (client : Client) (options : ClientOptions) : Client :=
  { client with options := options }

def retryPolicy (client : Client) : RetryPolicy := client.options.retryPolicy

/-- Shows a message where the client shows its failures. -/
def showAlert (client : Client) (message : String) : Activity Unit :=
  match client.alertSink with
  | .user => Activity.record (.alerted message)
  | .log => Activity.record (.logged (.unhandled message))

/-- Makes one attempt. -/
def attempt (client : Client) (request : Request) : Activity Outcome := do
  Activity.record (.started request)
  match request.prepare client.options.headers with
  | .error error => return .error error
  | .ok wire =>
    let arrival ← Activity.transmit client.busy wire
    return arrival.outcome wire

/-- Decides what comes after an attempt, and logs it unless the attempt succeeded. The draw is the
one that belongs to the request sent last. -/
def conclude (client : Client) (request : Request) (outcome : Outcome) : Activity Step := do
  Activity.record (.finished request outcome)
  let w ← Activity.look
  let step := client.retryPolicy.nextStep request.attempt (w.draw w.sent) outcome
  match step with
  | .completed (.ok _) => pure ()
  | .completed (.error error) => Activity.record (.logged (.failed request error))
  | .retryAfter delayMs => Activity.record (.logged (.retrying request delayMs))
  return step

/-- Makes one attempt and finds out whether it was the last one. -/
def turn (client : Client) (request : Request) : Activity (Round Request Ending) := do
  let outcome ← client.attempt request
  match ← client.conclude request outcome with
  | .completed (.ok success) => return .done (.ok success)
  | .completed (.error error) => return .done (.error ⟨error, request, client⟩)
  | .retryAfter _ => return .again request.nextAttempt

/-- Makes attempts until one is final. -/
def follow (client : Client) : Request → Activity Ending := World.loop client.turn

/-- Runs a request to its end. The indicator stays raised from before the first attempt until the
end is known, and is let go before anybody is told. -/
def run (client : Client) (request : Request) : Activity Ending := do
  let guard ← Activity.acquire client.busy
  let ending ← client.follow request
  Activity.release guard
  return ending

end Client

end CatalogClient

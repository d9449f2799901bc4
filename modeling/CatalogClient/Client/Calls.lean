import CatalogClient.Client.Basic
import CatalogClient.Json.Datum

/-!
# Ways to call a client

All ways to issue a request come down to `Client.run`. Some give its outcome back, some hand it to
a continuation; a failure that no handler takes goes to the alert sink.

Correspondence:
  `FetchClient::get`, `post`, `put`, `delete`      ↔ the same names in `Client`
  `FetchClient::fetch`, `remove`, `execute`        ↔ the same names in `Client`
  `FetchClient::execute_blocking`                  ↔ `Client.executeBlocking`
  `to_json`                                        ↔ `Datum.toJson`
  `FetchClient::dispatch`, `dispatch_with_handler` ↔ `Client.dispatch`, `dispatchWithHandler`
  `spawn_dispatch`, `spawn_dispatch_with_handler`  ↔ `spawnDispatch`, `spawnDispatchWithHandler`
  `ErrorContext::alert`, `retry`, `retry_dispatch` ↔ `ErrorContext.alert`, `retry`, `retryDispatch`
-/

namespace CatalogClient

namespace Client

/-- Runs a request and gives its outcome. -/
def execute (client : Client) (request : Request) : Activity Outcome := do
  let ending ← client.run request
  return ending.outcome

/-- The generic read: the method decides how the response is read. -/
def fetch (client : Client) (request : Request) : Activity Outcome := client.execute request

/-- Runs a request while the caller waits. -/
def executeBlocking (client : Client) (request : Request) : Activity Outcome :=
  client.execute request

/-- The generic delete: whatever the request was, it becomes a DELETE without a body. -/
def remove (client : Client) (request : Request) : Activity Outcome :=
  client.execute { request with method := .delete, body := none }

/-- Reads the document at a URL. -/
def get (client : Client) (url : String) : Activity Outcome := client.fetch (.new .get url)

/-- Deletes what is at a URL. -/
def delete (client : Client) (url : String) : Activity Outcome := client.remove (.new .delete url)

/-- A request that carries a document. -/
def documentRequest (method : Method) (url : String) (body : Json) : Request :=
  ((Request.new method url).withContentType "application/json").withJsonBody body

/-- Sends a value as JSON and reads a plain acknowledgment. A value without a document fails before
anything is begun. -/
def post (client : Client) (url : String) (body : Datum) : Activity Outcome :=
  match body.toJson with
  | .error fault => return .error (.encode (.notJson fault))
  | .ok document => client.execute (documentRequest .post url document)

/-- Sends a value as JSON and reads a document. A value without a document fails before anything is
begun. -/
def put (client : Client) (url : String) (body : Datum) : Activity Outcome :=
  match body.toJson with
  | .error fault => return .error (.encode (.notJson fault))
  | .ok document => client.fetch (documentRequest .put url document)

end Client

namespace ErrorContext

/-- What is told about the failure, for the URL as it was given. -/
def diagnostic (context : ErrorContext) : String := context.error.diagnostic context.request.url

/-- Shows the failure as one that nobody handles. -/
def alert (context : ErrorContext) : Activity Unit := context.client.showAlert context.diagnostic

/-- Issues the request again, one attempt later and under the same policy. -/
def retry (context : ErrorContext) : Activity Outcome :=
  context.client.execute context.request.nextAttempt

end ErrorContext

/-- What goes on with a success and the caller's own value. -/
abbrev Continuation (P R : Type) := Success → P → Activity R

/-- What goes on with a failure. It is given the continuation that was not used, and the value. -/
abbrev ErrorHandler (P R : Type) := ErrorContext → Continuation P R → P → Activity R

namespace Client

variable {P R : Type}

/-- Runs a request and hands its end to the continuation or to the handler. -/
def dispatchWithHandler (client : Client) (request : Request) (onSuccess : Continuation P R)
    (param : P) (onError : ErrorHandler P R) : Activity R := do
  match ← client.run request with
  | .ok success => onSuccess success param
  | .error context => onError context onSuccess param

/-- Runs a request and hands its success to the continuation. A failure is shown, and gives
nothing. -/
def dispatch (client : Client) (request : Request) (onSuccess : Continuation P R) (param : P) :
    Activity (Option R) :=
  client.dispatchWithHandler request (fun success param => some <$> onSuccess success param) param
    fun context _ _ => do
      context.alert
      return none

/-- Like `dispatchWithHandler`, as a task of its own on a copy of the client. -/
def spawnDispatchWithHandler (client : Client) (request : Request) (onSuccess : Continuation P R)
    (param : P) (onError : ErrorHandler P R) : Activity R :=
  client.dispatchWithHandler request onSuccess param onError

/-- Like `dispatch`, as a task of its own on a copy of the client. -/
def spawnDispatch (client : Client) (request : Request) (onSuccess : Continuation P R)
    (param : P) : Activity (Option R) :=
  client.dispatch request onSuccess param

end Client

namespace ErrorContext

variable {P R : Type}

/-- Issues the request again, one attempt later, and hands its end on as before. -/
def retryDispatch (context : ErrorContext) (onSuccess : Continuation P R) (param : P)
    (onError : ErrorHandler P R) : Activity R :=
  context.client.dispatchWithHandler context.request.nextAttempt onSuccess param onError

end ErrorContext

end CatalogClient

import CatalogClient.Busy
import CatalogClient.Retry
import CatalogClient.Request.Encoding
import CatalogClient.Url.Basic

/-!
# The world of a client

A client acts on a world: a network that answers requests, a source of random draws, indicators,
and a journal of what happened. The network is the list of all that will ever come back, in the
order in which requests are sent, so a run of the client is a function of its world. What the
transport does within one send, such as following a redirect, is not seen: an arrival is what it
comes back with.

Attempts can go on for ever, so an `Activity` may end or not; one that does not end has no result.
-/

namespace CatalogClient

/-- A request as it is sent. -/
structure WireRequest where
  method : Method
  url : Url
  headers : List (String × String)
  body : Option String

/-- What comes back for a request that was sent. -/
inductive Arrival
  | response (status : Status) (headers : List (String × String)) (body : String)
  /-- No network leads to the host, so the request did not arrive either. -/
  | unreachable
  /-- No valid response, or silence until the time is up. -/
  | noResponse (timedOut : Bool)
  /-- A response whose body breaks off, or falls silent until the time is up. -/
  | brokenBody (timedOut : Bool)

namespace Arrival

/-- A response with its body as octets. Two statuses have no body whatever is sent. -/
def ofOctets (status : Status) (headers : List (String × String)) (octets : List UInt8) : Arrival :=
  .response status headers (if status = 204 || status = 304 then "" else textOfOctets octets)

/-- The request arrived at its host. -/
def isDelivered : Arrival → Bool
  | .unreachable => false
  | _ => true

/-- It took all the time there was. -/
def timedOut : Arrival → Bool
  | .noResponse timedOut | .brokenBody timedOut => timedOut
  | _ => false

/-- The outcome of an attempt for which this came back. -/
def outcome (wire : WireRequest) : Arrival → Outcome
  | .unreachable =>
    .error (.transport (.unreachable (String.ofList wire.url.authority) wire.url.render))
  | .noResponse timedOut => .error (.transport (.noResponse wire.url.render timedOut))
  | .brokenBody timedOut => .error (.transport (.brokenBody timedOut))
  | .response status headers body =>
    if status.isSuccess then
      (Payload.ofBody wire.method.responseKind status body).map fun payload =>
        ⟨payload, status, status.reasonPhrase?.getD "", headers⟩
    else .error (.http status (status.reasonPhrase?.getD "") body)

end Arrival

/-- What the client logs. -/
inductive LogEntry
  /-- The request will be tried again after a delay. -/
  | retrying (request : Request) (delayMs : Nat)
  /-- The request failed for good. -/
  | failed (request : Request) (error : FetchError)
  /-- Nobody handled a failure. -/
  | unhandled (diagnostic : String)

namespace LogEntry

/-- How urgent an entry is. -/
def level : LogEntry → String
  | .retrying .. => "DEBUG"
  | .failed .. => "WARN"
  | .unhandled _ => "ERROR"

def message : LogEntry → String
  | .retrying _ delayMs => "retrying request after " ++ toString delayMs ++ " ms"
  | .failed _ error => "request failed: " ++ error.message
  | .unhandled diagnostic => "request failed\n" ++ diagnostic

/-- What of the request goes with an entry, its URL as it was given. -/
def requestFields (request : Request) : List (String × String) :=
  [("method", request.method.name), ("url", request.url),
    ("attempt", toString request.attempt.toNat)]

/-- The fields of an entry besides its message. -/
def fields : LogEntry → List (String × String)
  | .retrying request _ => requestFields request
  | .failed request error => requestFields request ++ [("status", toString error.status)]
  | .unhandled _ => []

end LogEntry

inductive Event
  /-- An attempt at a request began. -/
  | started (request : Request)
  /-- A request was put on the wire, while the indicator was raised or not, and arrived at its host
  or not. -/
  | sent (wire : WireRequest) (busy delivered : Bool)
  /-- The outcome of an attempt became known. -/
  | finished (request : Request) (outcome : Outcome)
  | logged (entry : LogEntry)
  /-- A message was shown to the user. -/
  | alerted (message : String)

structure World where
  /-- What comes back for the request sent as the n-th, counted from zero. -/
  network : Nat → Arrival
  /-- The random draw for the delay after that request. -/
  draw : Nat → Binary64
  /-- How many requests were sent. -/
  sent : Nat
  board : Busy.Board
  journal : List Event

/-- What a client does: it may change the world, and it may never end. -/
abbrev Activity (α : Type) := StateT World Option α

/-- What one round of a loop comes to. -/
inductive Round (α β : Type)
  /-- Another round, from here. -/
  | again (state : α)
  | done (result : β)

/-- Makes rounds until one is the last. Nothing bounds their number. -/
def World.loop {α β : Type} (round : α → Activity (Round α β)) (state : α) (w : World) :
    Option (β × World) := do
  let (next, w) ← round state w
  match next with
  | .again state => w |>.loop round state
  | .done result => some (result, w)
partial_fixpoint

namespace Activity

/-- The world as it is. -/
def look : Activity World := fun w => some (w, w)

def record (event : Event) : Activity Unit :=
  modify fun w => { w with journal := w.journal ++ [event] }

def acquire (i : Busy.Indicator) : Activity Busy.Guard := do
  let w ← look
  let (g, board) := w.board.acquire i
  set { w with board := board }
  return g

def release (g : Busy.Guard) : Activity Unit :=
  modify fun w => { w with board := w.board.release g }

/-- How many slots of an indicator are taken. -/
def inFlight (i : Busy.Indicator) : Activity Nat := do
  let w ← look
  return (w.board.counter i).inFlight

/-- Sends a request and gives what comes back. -/
def transmit (i : Busy.Indicator) (wire : WireRequest) : Activity Arrival := do
  let w ← look
  let arrival := w.network w.sent
  set { w with sent := w.sent + 1 }
  record (.sent wire (w.board.counter i).isBusy arrival.isDelivered)
  return arrival

end Activity

namespace World

/-- A world with one indicator, in which nothing happened yet. -/
def start (network : Nat → Arrival) (draw : Nat → Binary64) (hooked : Bool) :
    Busy.Indicator × World :=
  let (i, board) := Busy.Board.add [] hooked
  (i, ⟨network, draw, 0, board, []⟩)

/-- What a server answers that has run out of prepared answers. -/
def exhausted : Arrival := .response 500 [] "no mock response available"

/-- A network with one server that gives prepared answers in turn. -/
def scripted (script : List Arrival) : Nat → Arrival := fun n => (script[n]?).getD exhausted

/-- A network that leads nowhere. -/
def nowhere : Nat → Arrival := fun _ => .unreachable

/-- How many requests arrived at their host. -/
def arrivals (w : World) : Nat :=
  w.journal.countP fun event => match event with
    | .sent _ _ delivered => delivered
    | _ => false

end World

end CatalogClient

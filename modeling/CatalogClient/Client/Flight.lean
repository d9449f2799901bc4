import CatalogClient.Client.Basic

/-!
# Requests in flight together

A flight is a request on its way, taken apart into the stages between which other requests can
act. `Client.advance` moves a flight from one stage to the next, and what moves when is up to
whoever holds the flights: `Client.together` takes turns, and `Client.runWithin` drops a flight
whose time is up.

Correspondence:
  `FetchClient::run` between two awaits    ↔ `Client.advance`, `Client.settle`
  that call dropped midway, with its guard ↔ `Client.abandon`
-/

namespace CatalogClient

/-- Where a request stands. -/
inductive Stage
  /-- An attempt is due. -/
  | due (request : Request)
  /-- An attempt is on its way. -/
  | underway (request : Request) (wire : WireRequest) (arrival : Arrival)
  /-- The delay before the next attempt runs. -/
  | resting (request : Request) (delayMs : Nat)
  | ended (ending : Ending)
  /-- Nobody waits for it any more. -/
  | dropped

namespace Stage

/-- The flight holds its slot of the indicator. -/
def isActive : Stage → Bool
  | .due _ | .underway .. | .resting .. => true
  | .ended _ | .dropped => false

/-- How long the flight stays at this stage, in milliseconds, if time matters at all. -/
def durationMs (timeoutMs : Nat) : Stage → Nat
  | .underway _ _ arrival => if arrival.timedOut then timeoutMs else 0
  | .resting _ delayMs => delayMs
  | _ => 0

end Stage

/-- A flight with the guard it holds. -/
structure Flight where
  guard : Busy.Guard
  stage : Stage

namespace Client

/-- Begins a request. -/
def launch (client : Client) (request : Request) : Activity Flight := do
  let guard ← Activity.acquire client.busy
  return ⟨guard, .due request⟩

/-- Goes on after an attempt; an end lets the indicator go. -/
def settle (client : Client) (flight : Flight) (request : Request) (outcome : Outcome) :
    Activity Flight := do
  match ← client.conclude request outcome with
  | .completed (.ok success) =>
    Activity.release flight.guard
    return { flight with stage := .ended (.ok success) }
  | .completed (.error error) =>
    Activity.release flight.guard
    return { flight with stage := .ended (.error ⟨error, request, client⟩) }
  | .retryAfter delayMs => return { flight with stage := .resting request delayMs }

/-- Moves a flight to its next stage. One that ended or was dropped stays where it is. -/
def advance (client : Client) (flight : Flight) : Activity Flight :=
  match flight.stage with
  | .due request => do
    Activity.record (.started request)
    match request.prepare client.options.headers with
    | .error error => client.settle flight request (.error error)
    | .ok wire =>
      let arrival ← Activity.transmit client.busy wire
      return { flight with stage := .underway request wire arrival }
  | .underway request wire arrival => client.settle flight request (arrival.outcome wire)
  | .resting request _ => return { flight with stage := .due request.nextAttempt }
  | .ended _ | .dropped => return flight

/-- Drops a flight midway, which lets the indicator go. -/
def abandon (flight : Flight) : Activity Flight :=
  if flight.stage.isActive then do
    Activity.release flight.guard
    return { flight with stage := .dropped }
  else return flight

/-- Moves each flight once, unless all have ended. -/
def takeTurn (client : Client) (flights : List Flight) :
    Activity (Round (List Flight) (List Flight)) :=
  if flights.any fun f => f.stage.isActive then return .again (← flights.mapM client.advance)
  else return .done flights

/-- Moves flights in turn until all have ended. -/
def takeTurns (client : Client) : List Flight → Activity (List Flight) :=
  World.loop client.takeTurn

/-- Runs requests together: each is begun up to its first wait, then all take turns. -/
def together (client : Client) (requests : List Request) : Activity (List Outcome) := do
  let flights ← requests.mapM fun request => do
    let flight ← client.launch request
    client.advance flight
  let flights ← client.takeTurns flights
  return flights.filterMap fun f =>
    match f.stage with
    | .ended ending => some ending.outcome
    | _ => none

/-- Moves a flight once, `elapsedMs` after it began, unless it has ended. -/
def advanceOnceWithin (client : Client) (limitMs : Nat) :
    Nat × Flight → Activity (Round (Nat × Flight) Flight)
  | (elapsedMs, flight) =>
    if flight.stage.isActive then
      let elapsedMs := elapsedMs + flight.stage.durationMs client.options.timeoutMs.toNat
      -- the stage would last past the limit, so its end is not waited for
      if limitMs ≤ elapsedMs then return .done (← abandon flight)
      else return .again (elapsedMs, ← client.advance flight)
    else return .done flight

/-- Moves a flight until it ends or `limitMs` have passed. -/
def advanceWithin (client : Client) (limitMs : Nat) (flight : Flight) : Activity Flight :=
  World.loop (client.advanceOnceWithin limitMs) (0, flight)

/-- Runs a request and drops it if it has not ended after `limitMs`. -/
def runWithin (client : Client) (limitMs : Nat) (request : Request) :
    Activity (Option Outcome) := do
  let flight ← client.launch request
  let flight ← client.advanceWithin limitMs flight
  match flight.stage with
  | .ended ending => return some ending.outcome
  | _ => return none

end Client

end CatalogClient

import CatalogClient.Client.Calls

/-!
# Handlers as lists of reactions

A handler that reacts to failures by a plan: each failure takes reactions from the front of the
plan, and resuming the request leaves the rest of the plan to the next failure. What is delivered
on the way is kept as a trail.
-/

namespace CatalogClient

/-- What a handler can do about a failure. -/
inductive Reaction
  /-- Shows the failure, and goes on with the next reaction to it. -/
  | alert
  /-- Ends with the failure. -/
  | giveUp
  /-- Issues the request again, and ends with its outcome. -/
  | retry
  /-- Issues the request again for the same continuation. -/
  | resume
deriving DecidableEq

/-- What reached the caller, with its own value and the slots taken at that time. -/
inductive Delivery (P : Type)
  | success (success : Success) (param : P) (inFlight : Nat)
  | failure (context : ErrorContext) (param : P) (inFlight : Nat)
  | gaveUp (error : FetchError)
  | retried (outcome : Outcome)

/-- All that reached the caller, in order. -/
abbrev Trail (P : Type) := List (Delivery P)

namespace Reaction

variable {P : Type}

/-- Notes a success. -/
def noteSuccess (busy : Busy.Indicator) : Continuation P (Trail P) := fun success param => do
  let n ← Activity.inFlight busy
  return [.success success param n]

/-- Reacts to a failure that is noted already. -/
def respond (busy : Busy.Indicator) : List Reaction → ErrorHandler P (Trail P)
  | [], _, _, _ => return []
  | .alert :: more, context, onSuccess, param => do
    context.alert
    respond busy more context onSuccess param
  | .giveUp :: _, context, _, _ => return [.gaveUp context.error]
  | .retry :: _, context, _, _ => do
    let outcome ← context.retry
    return [.retried outcome]
  | .resume :: more, context, onSuccess, param =>
    -- the next failure is answered by what is left of the plan
    context.retryDispatch onSuccess param fun context onSuccess param => do
      let n ← Activity.inFlight busy
      let trail ← respond busy more context onSuccess param
      return .failure context param n :: trail

/-- The handler that follows a plan. -/
def handler (busy : Busy.Indicator) (plan : List Reaction) : ErrorHandler P (Trail P) :=
  fun context onSuccess param => do
    let n ← Activity.inFlight busy
    let trail ← respond busy plan context onSuccess param
    return .failure context param n :: trail

end Reaction

namespace Client

variable {P : Type}

/-- Runs a request with a handler that follows a plan. -/
def dispatchWithPlan (client : Client) (request : Request) (param : P) (plan : List Reaction) :
    Activity (Trail P) :=
  client.dispatchWithHandler request (Reaction.noteSuccess client.busy) param
    (Reaction.handler client.busy plan)

/-- Runs a request without a handler. -/
def dispatchNoting (client : Client) (request : Request) (param : P) : Activity (Trail P) := do
  let trail ← client.dispatch request (Reaction.noteSuccess client.busy) param
  return trail.getD []

end Client

end CatalogClient

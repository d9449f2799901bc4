import CatalogClient.Client.Calls
import CatalogClient.Proofs.Flight

/-!
# All ways to call a client

A `Call` is one way to issue a request with all that is given to it. Each of them runs one request
and goes on with its end (`perform_eq`), but for a POST or PUT whose value has no document, which
does nothing at all (`perform_of_refused`).
-/

namespace CatalogClient

/-- Hands an ending on, to the continuation or to the handler. -/
def Ending.deliver {P R : Type} (onSuccess : Continuation P R) (param : P)
    (onError : ErrorHandler P R) : Ending → Activity R
  | .ok success => onSuccess success param
  | .error context => onError context onSuccess param

/-- One way to issue a request, with all that is given to it. -/
inductive Call (P R : Type)
  | get (client : Client) (url : String)
  | post (client : Client) (url : String) (body : Datum)
  | put (client : Client) (url : String) (body : Datum)
  | delete (client : Client) (url : String)
  | fetch (client : Client) (request : Request)
  | remove (client : Client) (request : Request)
  | execute (client : Client) (request : Request)
  | executeBlocking (client : Client) (request : Request)
  | dispatch (client : Client) (request : Request) (onSuccess : Continuation P R) (param : P)
  | spawnDispatch (client : Client) (request : Request) (onSuccess : Continuation P R) (param : P)
  | dispatchWithHandler (client : Client) (request : Request) (onSuccess : Continuation P R)
    (param : P) (onError : ErrorHandler P R)
  | spawnDispatchWithHandler (client : Client) (request : Request) (onSuccess : Continuation P R)
    (param : P) (onError : ErrorHandler P R)
  | retry (context : ErrorContext)
  | retryDispatch (context : ErrorContext) (onSuccess : Continuation P R) (param : P)
    (onError : ErrorHandler P R)

/-- What a call gives: the outcome, or what a continuation or a handler gave, if there was any. -/
inductive Given (R : Type)
  | outcome (outcome : Outcome)
  | result (result : Option R)

namespace Call

variable {P R : Type}

/-- The call as the client answers it. -/
def perform : Call P R → Activity (Given R)
  | .get client url => .outcome <$> client.get url
  | .post client url body => .outcome <$> client.post url body
  | .put client url body => .outcome <$> client.put url body
  | .delete client url => .outcome <$> client.delete url
  | .fetch client request => .outcome <$> client.fetch request
  | .remove client request => .outcome <$> client.remove request
  | .execute client request => .outcome <$> client.execute request
  | .executeBlocking client request => .outcome <$> client.executeBlocking request
  | .dispatch client request onSuccess param =>
    .result <$> client.dispatch request onSuccess param
  | .spawnDispatch client request onSuccess param =>
    .result <$> client.spawnDispatch request onSuccess param
  | .dispatchWithHandler client request onSuccess param onError =>
    (.result ∘ some) <$> client.dispatchWithHandler request onSuccess param onError
  | .spawnDispatchWithHandler client request onSuccess param onError =>
    (.result ∘ some) <$> client.spawnDispatchWithHandler request onSuccess param onError
  | .retry context => .outcome <$> context.retry
  | .retryDispatch context onSuccess param onError =>
    (.result ∘ some) <$> context.retryDispatch onSuccess param onError

/-- A request that carries a value as a document, if the value has one. -/
def documentRequest? (method : Method) (url : String) (body : Datum) : Option Request :=
  match body.toJson with
  | .error _ => none
  | .ok document => some (Client.documentRequest method url document)

/-- The client that runs a request for a call, and the request. -/
def run? : Call P R → Option (Client × Request)
  | .get client url => some (client, .new .get url)
  | .post client url body => (documentRequest? .post url body).map (client, ·)
  | .put client url body => (documentRequest? .put url body).map (client, ·)
  | .delete client url => some (client, { Request.new .delete url with body := none })
  | .remove client request => some (client, { request with method := .delete, body := none })
  | .fetch client request | .execute client request | .executeBlocking client request
  | .dispatch client request .. | .spawnDispatch client request ..
  | .dispatchWithHandler client request .. | .spawnDispatchWithHandler client request .. =>
    some (client, request)
  | .retry context | .retryDispatch context .. => some (context.client, context.request.nextAttempt)

/-- What a call does with the end of its run. -/
def goOn : Call P R → Ending → Activity (Given R)
  | .dispatch _ _ onSuccess param, ending | .spawnDispatch _ _ onSuccess param, ending =>
    .result <$> ending.deliver (fun success param => some <$> onSuccess success param) param
      fun context _ _ => do
        context.alert
        return none
  | .dispatchWithHandler _ _ onSuccess param onError, ending
  | .spawnDispatchWithHandler _ _ onSuccess param onError, ending
  | .retryDispatch _ onSuccess param onError, ending =>
    (.result ∘ some) <$> ending.deliver onSuccess param onError
  | _, ending => return .outcome ending.outcome

end Call

namespace Client

variable {P R : Type}

theorem execute_apply (client : Client) (request : Request) (w : World) :
    client.execute request w = (client.run request w).map fun p => (p.1.outcome, p.2) := by
  unfold execute
  rw [Activity.bind_apply]
  cases client.run request w <;> rfl

theorem dispatchWithHandler_apply (client : Client) (request : Request)
    (onSuccess : Continuation P R) (param : P) (onError : ErrorHandler P R) (w : World) :
    client.dispatchWithHandler request onSuccess param onError w =
      (client.run request w).bind fun p => p.1.deliver onSuccess param onError p.2 := by
  unfold dispatchWithHandler
  rw [Activity.bind_apply]
  congr 1

theorem executed_eq (client : Client) (request : Request) :
    (Given.outcome <$> client.execute request : Activity (Given R)) =
      client.run request >>= fun ending => pure (.outcome ending.outcome) := by
  funext w
  rw [Activity.map_apply, execute_apply, Option.map_map, Activity.bind_apply]
  cases client.run request w <;> rfl

theorem dispatched_eq {S : Type} (f : R → S) (client : Client) (request : Request)
    (onSuccess : Continuation P R) (param : P) (onError : ErrorHandler P R) :
    f <$> client.dispatchWithHandler request onSuccess param onError =
      client.run request >>= fun ending => f <$> ending.deliver onSuccess param onError := by
  funext w
  rw [Activity.map_apply, dispatchWithHandler_apply, Activity.bind_apply]
  cases client.run request w with
  | none => rfl
  | some p => rw [Option.bind_some, Option.bind_some, Activity.map_apply]

end Client

namespace Call

variable {P R : Type} {call : Call P R} {client : Client} {request : Request}

/-- A call that begins a run is that run and what is done with its end. -/
theorem perform_eq (begins : call.run? = some (client, request)) :
    call.perform = client.run request >>= call.goOn := by
  cases call with
  | post client' url body | put client' url body =>
    obtain ⟨request', document, rest⟩ := Option.map_eq_some_iff.mp begins
    obtain ⟨rfl, rfl⟩ := Prod.mk.inj rest
    unfold documentRequest? at document
    cases written : body.toJson with
    | error fault => rw [written] at document; cases document
    | ok value =>
      rw [written] at document
      obtain rfl := Option.some.inj document
      simp only [perform, Client.post, Client.put, written]
      exact Client.executed_eq _ _
  | dispatch client' request' onSuccess param | spawnDispatch client' request' onSuccess param =>
    obtain ⟨rfl, rfl⟩ := Prod.mk.inj (Option.some.inj begins)
    show (dispatch client' request' onSuccess param).perform = _
    exact Client.dispatched_eq _ _ _ _ _ _
  | dispatchWithHandler | spawnDispatchWithHandler | retryDispatch =>
    obtain ⟨rfl, rfl⟩ := Prod.mk.inj (Option.some.inj begins)
    exact Client.dispatched_eq _ _ _ _ _ _
  | _ =>
    obtain ⟨rfl, rfl⟩ := Prod.mk.inj (Option.some.inj begins)
    exact Client.executed_eq _ _

/-- A call that begins none has a value without a document, and does nothing. -/
theorem perform_of_refused (refused : call.run? = none) (w : World) :
    ∃ fault, call.perform w = some (.outcome (.error (.encode (.notJson fault))), w) := by
  cases call with
  | post client url body | put client url body =>
    have none := Option.map_eq_none_iff.mp refused
    unfold documentRequest? at none
    cases written : body.toJson with
    | ok value => rw [written] at none; cases none
    | error fault =>
      refine ⟨fault, ?_⟩
      simp only [perform, Client.post, Client.put, written]
      rfl
  | _ => cases refused

/-- A call that begins a run is a flight and what is done with its end. -/
theorem perform_eq_fly (begins : call.run? = some (client, request)) :
    call.perform = client.launch request >>= client.fly >>= call.goOn := by
  rw [perform_eq begins, Client.run_eq_fly]

end Call

end CatalogClient

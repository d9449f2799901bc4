import CatalogClient.Proofs.Budget
import CatalogClient.Proofs.Busy
import CatalogClient.Proofs.Calls

/-!
# One delivery for each dispatch

A dispatch is a run and one delivery of its end, made in the world that the run leaves, where the slot
of the run is free again and nothing was shown (`quiet_of_run`). So whatever ends delivers once, and
`deliversOnce_iff` says what ends.
-/

namespace CatalogClient

/-! ## What is shown as a failure -/

/-- The message that an event shows where nobody handles a failure. -/
def Event.alert? : Event → Option String
  | .alerted message | .logged (.unhandled message) => some message
  | _ => none

/-- The messages shown, in order. -/
def alertsIn (events : List Event) : List String := events.filterMap Event.alert?

@[simp] theorem alertsIn_append (xs ys : List Event) :
    alertsIn (xs ++ ys) = alertsIn xs ++ alertsIn ys :=
  List.filterMap_append

/-- How a sink shows a message. -/
def AlertSink.event : AlertSink → String → Event
  | .user, message => .alerted message
  | .log, message => .logged (.unhandled message)

theorem Client.showAlert_apply (client : Client) (message : String) (w : World) :
    client.showAlert message w =
      some ((), { w with journal := w.journal ++ [client.alertSink.event message] }) := by
  unfold showAlert
  cases client.alertSink <;> rfl

/-- From one world to the other all slots that were taken were given back, and nothing was shown. -/
def World.QuietTo (w w' : World) : Prop :=
  (∀ i, (w'.board.counter i).inFlight = (w.board.counter i).inFlight) ∧
    ∃ events, w'.journal = w.journal ++ events ∧ alertsIn events = []

theorem World.QuietTo.refl (w : World) : w.QuietTo w :=
  ⟨fun _ => rfl, [], (List.append_nil _).symm, rfl⟩

/-- A slot that is taken and given back is as it was. -/
theorem Busy.Board.inFlight_acquire_release (board : Busy.Board) (i j : Busy.Indicator) :
    (Busy.Board.counter ((board.modify j.place .acquire).modify j.place .release) i).inFlight =
      (board.counter i).inFlight := by
  unfold Busy.Board.counter
  rw [List.getElem?_modify, List.getElem?_modify]
  cases board[i.place]? with
  | none => rfl
  | some c =>
    simp only [Option.map_eq_map, Option.map_some, Option.getD_some]
    split
    · rw [Busy.Counter.release_inFlight, Busy.Counter.acquire_inFlight, Nat.add_sub_cancel]
    · rfl

namespace Client

variable {client : Client} {request : Request} {w : World}

/-! ## Runs are quiet -/

theorem alertsIn_turnEvents (client : Client) (request : Request) (w : World) :
    alertsIn (client.turnEvents request w) = [] := by
  have begun : alertsIn (client.attemptEvents request w) = [] := by
    unfold attemptEvents
    split <;> rfl
  have decided (outcome : Outcome) (step : Step) :
      alertsIn (verdictEvents request outcome step) = [] := by
    unfold verdictEvents
    split <;> rfl
  rw [turnEvents, alertsIn_append, begun, decided]
  rfl

theorem alertsIn_turnsEvents (n : Nat) : alertsIn (client.turnsEvents n request w) = [] := by
  induction n generalizing request w with
  | zero => rfl
  | succ n ih =>
    rw [turnsEvents, alertsIn_append, alertsIn_turnEvents, ih]
    rfl

/-- A run up to its first stop, and what it leaves behind. -/
theorem run_quiet {k : Nat} (before : ∀ i < k, ¬ client.Stops request w i)
    (stop : client.Stops request w k) :
    ∃ w', client.run request w =
        some (client.endingOf (request.later k) (client.outcomes request w k), w') ∧
      w.QuietTo w' := by
  let raised : World := { w with board := w.board.modify client.busy.place .acquire }
  refine ⟨_, run_of_stops before stop, fun i => ?_, client.turnsEvents (k + 1) request raised, rfl,
    ?_⟩
  · exact w.board.inFlight_acquire_release i client.busy
  · exact alertsIn_turnsEvents (k + 1)

/-- Whatever ends was quiet. -/
theorem quiet_of_run {ending : Ending} {w' : World}
    (ended : client.run request w = some (ending, w')) : w.QuietTo w' := by
  obtain ⟨i, stop⟩ := exists_stops_of_run ended
  obtain ⟨k, -, stop, before⟩ := exists_first_stop stop
  obtain ⟨w'', ended', quiet⟩ := run_quiet before stop
  obtain ⟨-, rfl⟩ := Prod.mk.inj (Option.some.inj (ended.symm.trans ended'))
  exact quiet

/-! ## What is delivered -/

/-- What the forms of a dispatch come to, as a task of their own or not: `plain` without a handler,
`handled` with one. -/
def FormsGive (client : Client) (request : Request) (w : World)
    (plain : ∀ P R : Type, Continuation P R → P → Option (Option R × World))
    (handled : ∀ P R : Type, Continuation P R → P → ErrorHandler P R → Option (R × World)) : Prop :=
  ∀ (P R : Type) (onSuccess : Continuation P R) (param : P),
    client.dispatch request onSuccess param w = plain P R onSuccess param ∧
    client.spawnDispatch request onSuccess param w = plain P R onSuccess param ∧
    ∀ onError : ErrorHandler P R,
      client.dispatchWithHandler request onSuccess param onError w =
        handled P R onSuccess param onError ∧
      client.spawnDispatchWithHandler request onSuccess param onError w =
        handled P R onSuccess param onError

/-- All forms hand the success and the caller's value to the continuation, in the world given, and
that is all they do. -/
def HandsOnSuccess (client : Client) (request : Request) (w : World) (success : Success)
    (w' : World) : Prop :=
  client.FormsGive request w
    (fun _ _ onSuccess param => (some <$> onSuccess success param) w')
    (fun _ _ onSuccess param _ => onSuccess success param w')

/-- Forms with a handler hand it the failure, with the continuation that was not used and the caller's
value. Forms without one show the failure once, with the URL as it was given. -/
def HandsOnFailure (client : Client) (request : Request) (w : World) (error : FetchError)
    (w' : World) : Prop :=
  ∃ attempt : Attempt, client.FormsGive request w
    (fun _ _ _ _ => some (none, { w' with
      journal := w'.journal ++ [client.alertSink.event (error.diagnostic request.url)] }))
    (fun _ _ onSuccess param onError =>
      onError ⟨error, request.withAttempt attempt, client⟩ onSuccess param w')

/-- A dispatch ends, with one delivery of the outcome that the request has when it is executed. When
it is made, the slots taken for the request are free again. -/
def DeliversOnce (client : Client) (request : Request) (w : World) : Prop :=
  ∃ outcome w', client.execute request w = some (outcome, w') ∧ w.QuietTo w' ∧
    match outcome with
    | .ok success => client.HandsOnSuccess request w success w'
    | .error error => client.HandsOnFailure request w error w'

/-- No form of a dispatch ever ends. -/
def NeverDelivers (client : Client) (request : Request) (w : World) : Prop :=
  client.FormsGive request w (fun _ _ _ _ => none) (fun _ _ _ _ _ => none)

/-- All forms run the request and hand its end on. -/
theorem formsGive_run (client : Client) (request : Request) (w : World) :
    client.FormsGive request w
      (fun _ _ onSuccess param => (client.run request w).bind fun p =>
        p.1.deliver (fun success param => some <$> onSuccess success param) param
          (fun context _ _ => do
            context.alert
            return none) p.2)
      (fun _ _ onSuccess param onError => (client.run request w).bind fun p =>
        p.1.deliver onSuccess param onError p.2) := by
  intro P R onSuccess param
  have plain := client.dispatchWithHandler_apply request
    (fun success param => some <$> onSuccess success param) param
    (fun context _ _ => do
      context.alert
      return none) w
  refine ⟨plain, plain, fun onError => ?_⟩
  have handled := client.dispatchWithHandler_apply request onSuccess param onError w
  exact ⟨handled, handled⟩

theorem handsOnSuccess_of_run {success : Success} {w' : World}
    (ended : client.run request w = some (.ok success, w')) :
    client.HandsOnSuccess request w success w' := by
  have forms := client.formsGive_run request w
  rw [ended] at forms
  exact forms

theorem handsOnFailure_of_run {error : FetchError} {attempt : Attempt} {w' : World}
    (ended : client.run request w =
      some (.error ⟨error, request.withAttempt attempt, client⟩, w')) :
    client.HandsOnFailure request w error w' := by
  have forms := client.formsGive_run request w
  rw [ended] at forms
  refine ⟨attempt, fun P R onSuccess param => ?_⟩
  obtain ⟨plain, spawned, handled⟩ := forms P R onSuccess param
  have shown : client.dispatch request onSuccess param w = some (none, { w' with
      journal := w'.journal ++ [client.alertSink.event (error.diagnostic request.url)] }) := by
    refine plain.trans ?_
    show (client.showAlert (error.diagnostic request.url) >>= fun _ => pure none) w' = _
    rw [Activity.bind_apply, showAlert_apply]
    rfl
  exact ⟨shown, (spawned.trans plain.symm).trans shown, handled⟩

theorem neverDelivers_of_run (never : client.run request w = none) :
    client.NeverDelivers request w := by
  have forms := client.formsGive_run request w
  rw [never] at forms
  exact forms

theorem deliversOnce_of_stops {i : Nat} (stop : client.Stops request w i) :
    client.DeliversOnce request w := by
  obtain ⟨k, -, stop, before⟩ := exists_first_stop stop
  obtain ⟨w', ended, quiet⟩ := run_quiet before stop
  refine ⟨client.outcomes request w k, w', ?_, quiet, ?_⟩
  · rw [execute_apply, ended, Option.map_some, outcome_endingOf]
  · cases outcome : client.outcomes request w k with
    | ok success =>
      rw [outcome] at ended
      exact handsOnSuccess_of_run ended
    | error error =>
      rw [outcome] at ended
      exact handsOnFailure_of_run ended

/-- Some attempt is the last one, but under the greatest budget only if one succeeds or fails for
good. -/
theorem exists_stops_iff :
    (∃ i, client.Stops request w i) ↔
      client.options.maxRetries.toNat < 4294967295 ∨
        ∃ i, ∀ error, client.outcomes request w i = .error error → error.isTransient = false := by
  constructor
  · rintro ⟨i, stop⟩
    refine or_iff_not_imp_left.mpr fun not_below => ⟨i, fun error failed => ?_⟩
    have limit := client.options.maxRetries.toNat_lt
    have greatest : client.options.maxRetries.toNat = 4294967295 := by omega
    rw [← Bool.not_eq_true]
    exact fun transient => not_stops_of_transient greatest failed transient stop
  · rintro (below | ⟨i, lasting⟩)
    · exact ⟨_, stops_past_budget below⟩
    · refine ⟨i, ?_⟩
      unfold Stops
      cases outcome : client.outcomes request w i with
      | ok success => trivial
      | error error => exact .inl (lasting error outcome)

end Client

/-! ## Calls that give the outcome back -/

namespace Call

variable {P R : Type}

/-- The call gives its outcome back to the caller, who waits for it. -/
def isAwaited : Call P R → Bool
  | .get .. | .post .. | .put .. | .delete .. | .fetch .. | .remove .. | .execute ..
  | .executeBlocking .. | .retry .. => true
  | .dispatch .. | .spawnDispatch .. | .dispatchWithHandler .. | .spawnDispatchWithHandler ..
  | .retryDispatch .. => false

/-- Such a call gives the outcome and does no more. -/
theorem goOn_of_isAwaited {call : Call P R} (awaited : call.isAwaited = true) (ending : Ending) :
    call.goOn ending = pure (.outcome ending.outcome) := by
  cases call with
  | dispatch | spawnDispatch | dispatchWithHandler | spawnDispatchWithHandler
  | retryDispatch => cases awaited
  | _ => rfl

/-- It shows nothing either, however it ends. -/
theorem quiet_of_isAwaited {call : Call P R} {given : Given R} {w w' : World}
    (awaited : call.isAwaited = true) (ended : call.perform w = some (given, w')) :
    w.QuietTo w' := by
  cases begins : call.run? with
  | none =>
    obtain ⟨fault, nothing⟩ := perform_of_refused begins w
    obtain ⟨-, rfl⟩ := Prod.mk.inj (Option.some.inj (nothing.symm.trans ended))
    exact .refl w
  | some started =>
    obtain ⟨client, request⟩ := started
    rw [perform_eq begins, Activity.bind_apply] at ended
    obtain ⟨⟨ending, left⟩, run, rest⟩ := Option.bind_eq_some_iff.mp ended
    rw [goOn_of_isAwaited awaited, Activity.pure_apply] at rest
    obtain ⟨-, rfl⟩ := Prod.mk.inj (Option.some.inj rest)
    exact Client.quiet_of_run run

end Call

namespace Client

/-- **Which dispatches deliver, and that they deliver once.** All forms deliver the outcome of the
request once while the budget is below the greatest attempt number. With that budget they do if some
attempt would succeed or fail for good, and otherwise they never end. Calls that give their outcome
back show nothing. -/
theorem deliversOnce_iff (client : Client) (request : Request) (w : World) :
    (client.DeliversOnce request w ↔
      client.options.maxRetries.toNat < 4294967295 ∨
        ∃ i, ∀ error, client.outcomes request w i = .error error → error.isTransient = false) ∧
    (¬ client.DeliversOnce request w → client.NeverDelivers request w) ∧
    ∀ (P R : Type) (call : Call P R), call.isAwaited = true →
      ∀ given w', call.perform w = some (given, w') → w.QuietTo w' := by
  have stops_of_delivers : client.DeliversOnce request w → ∃ i, client.Stops request w i := by
    rintro ⟨outcome, w', ended, -⟩
    rw [execute_apply] at ended
    obtain ⟨x, run, -⟩ := Option.map_eq_some_iff.mp ended
    exact exists_stops_of_run run
  refine ⟨?_, fun undelivered => ?_,
    fun P R call awaited given w' => call.quiet_of_isAwaited awaited⟩
  · rw [← exists_stops_iff]
    exact ⟨stops_of_delivers, fun ⟨_, stop⟩ => deliversOnce_of_stops stop⟩
  · exact neverDelivers_of_run (run_eq_none_iff.mpr fun _ stop =>
      undelivered (deliversOnce_of_stops stop))

/-- The greatest budget and a server that stays down: the attempt with the greatest number is made for
ever, and nobody is ever told. -/
theorem greatest_budget_never_delivers :
    let client := sample 4294967295
    let request := sampleRequest 4294967295
    let w := sampleWorld fun _ => .response 503 [] "down"
    client.NeverDelivers request w ∧ ¬ client.DeliversOnce request w := by
  intro client request w
  have never : client.run request w = none := by
    rw [run_eq_none_iff]
    intro i
    have answer : (fun _ : Nat => (.response 503 [] "down" : Arrival)) i =
        .response 503 [] "down" := rfl
    rw [stops_sample answer rfl]
    have number : (4294967295 : UInt32).toNat = 4294967295 := rfl
    rintro (lasting | past)
    · exact absurd lasting (by decide)
    · omega
  refine ⟨neverDelivers_of_run never, ?_⟩
  rintro ⟨outcome, w', ended, -⟩
  rw [execute_apply, never] at ended
  cases ended

end Client

end CatalogClient

import CatalogClient.Proofs.Delays
import CatalogClient.Proofs.Delivery

/-!
# What the log tells of a run

Every attempt of a run that gives way to another one logs its retry, and an attempt that fails for good
logs its failure (`logIn_turnEvents`). Put together, the log of a run is one entry for each retry, in
order, and one more if the run failed; a dispatch whose failure nobody handles adds the diagnostic
(`log_tells_run`).
-/

namespace CatalogClient

/-! ## The log in a journal -/

/-- What an event adds to the log. -/
def Event.entry? : Event → Option LogEntry
  | .logged entry => some entry
  | _ => none

/-- The log that a journal holds, in order. -/
def logIn (events : List Event) : List LogEntry := events.filterMap Event.entry?

@[simp] theorem logIn_append (xs ys : List Event) : logIn (xs ++ ys) = logIn xs ++ logIn ys :=
  List.filterMap_append

/-- From one world to the other the journal grew, and the log by these entries. -/
def World.Logs (w w' : World) (log : List LogEntry) : Prop :=
  ∃ events, w'.journal = w.journal ++ events ∧ logIn events = log

/-! ## What entries tell -/

namespace LogEntry

/-- The fields that tell of the attempt so many after the first, with the URL as it was given. -/
def attemptFields (request : Request) (i : Nat) : List (String × String) :=
  [("method", request.method.name), ("url", request.url),
    ("attempt", toString (min (request.attempt.toNat + i) 4294967295))]

/-- The attempt so many after the first is made again, after a delay between the two that the least and
the greatest draw come to. -/
structure TellsRetry (policy : RetryPolicy) (request : Request) (i : Nat) (entry : LogEntry) :
    Prop where
  level : entry.level = "DEBUG"
  fields : entry.fields = attemptFields request i
  message : ∃ delayMs, entry.message = "retrying request after " ++ toString delayMs ++ " ms" ∧
    policy.backoffMs (request.later i).attempt .zero ≤ delayMs ∧
    delayMs ≤ policy.backoffMs (request.later i).attempt .one

/-- The attempt so many after the first failed for good. -/
structure TellsFailure (request : Request) (i : Nat) (error : FetchError) (entry : LogEntry) :
    Prop where
  level : entry.level = "WARN"
  fields : entry.fields = attemptFields request i ++ [("status", toString error.status)]
  message : entry.message = "request failed: " ++ error.message

/-- Nobody handled a failure. -/
structure TellsUnhandled (error : FetchError) (url : String) (entry : LogEntry) : Prop where
  level : entry.level = "ERROR"
  fields : entry.fields = []
  message : entry.message = "request failed\n" ++ error.diagnostic url

end LogEntry

/-- The log tells of so many retries, one after the other, and of the failure if there was one. -/
def TellsRun (policy : RetryPolicy) (request : Request) (k : Nat) (outcome : Outcome)
    (log : List LogEntry) : Prop :=
  ∃ retries final, log = retries ++ final ∧
    List.Forall₂ (fun i entry => entry.TellsRetry policy request i) (List.range k) retries ∧
    match outcome with
    | .ok _ => final = []
    | .error error => ∃ entry : LogEntry, final = [entry] ∧ entry.TellsFailure request k error

namespace Client

variable {client : Client} {request : Request} {w : World}

/-! ## What turns log -/

/-- What a decision adds to the log. -/
def decisionLog (request : Request) : Step → List LogEntry
  | .completed (.ok _) => []
  | .completed (.error error) => [.failed request error]
  | .retryAfter delayMs => [.retrying request delayMs]

theorem logIn_turnEvents (client : Client) (request : Request) (w : World) :
    logIn (client.turnEvents request w) = decisionLog request (client.decision request w) := by
  have begun : logIn (client.attemptEvents request w) = [] := by
    unfold attemptEvents
    split <;> rfl
  rw [turnEvents, logIn_append, begun]
  cases client.decision request w with
  | completed outcome => cases outcome <;> rfl
  | retryAfter delayMs => rfl

/-- The last of several turns is made in the world that those before it leave. -/
theorem turnsEvents_concat (n : Nat) (request : Request) (w : World) :
    client.turnsEvents (n + 1) request w = client.turnsEvents n request w ++
      client.turnEvents (request.later n) (client.afterTurns n request w) := by
  induction n generalizing request w with
  | zero => simp [turnsEvents, afterTurns]
  | succ n ih =>
    rw [turnsEvents, ih, afterTurns_succ, Request.nextAttempt_later, ← List.append_assoc]
    rfl

theorem outcomes_afterTurns (n i : Nat) (request : Request) (w : World) :
    client.outcomes (request.later n) (client.afterTurns n request w) i =
      client.outcomes request w (n + i) := by
  induction n generalizing request w with
  | zero => simp [afterTurns, turnsEvents]
  | succ n ih =>
    rw [afterTurns_succ, ← Request.nextAttempt_later, ih, outcomes_afterTurn,
      Nat.succ_add_eq_add_succ]
    rfl

theorem stops_afterTurns (n i : Nat) :
    client.Stops (request.later n) (client.afterTurns n request w) i ↔
      client.Stops request w (n + i) := by
  have number : min ((request.later n).attempt.toNat + i) 4294967295 =
      min (request.attempt.toNat + (n + i)) 4294967295 := by
    rw [Request.toNat_attempt_later]
    omega
  unfold Stops
  rw [outcomes_afterTurns, number]

/-- A turn that stops the run logs no more than its failure. -/
theorem logIn_turn_of_stops {n : Nat} (stop : client.Stops request w n) :
    logIn (client.turnEvents (request.later n) (client.afterTurns n request w)) =
      decisionLog (request.later n) (.completed (client.outcomes request w n)) := by
  have last := stops_zero.mp ((stops_afterTurns n 0).mpr stop)
  rw [logIn_turnEvents, decision_of_isLast last, outcomes_afterTurns, Nat.add_zero]

/-- Any other turn logs its retry. -/
theorem logIn_turn_of_not_stops {n : Nat} (more : ¬ client.Stops request w n) :
    logIn (client.turnEvents (request.later n) (client.afterTurns n request w)) =
      [.retrying (client.retryAt request w n).1 (client.retryAt request w n).2] := by
  -- seen from the world that the turns before leave, this turn is the first one
  have more : ¬ client.IsLast (request.later n).attempt.toNat
      (client.outcomes (request.later n) (client.afterTurns n request w) 0) :=
    fun last => more ((stops_afterTurns n 0).mp (stops_zero.mpr last))
  have draws : (client.afterTurns n request w).sent + client.sends (request.later n) =
      w.sent + (n + 1) * client.sends request := by
    show w.sent + n * client.sends request + client.sends request = _
    rw [Nat.succ_mul, Nat.add_assoc]
  have drawn : (client.afterTurns n request w).draw = w.draw := rfl
  rw [logIn_turnEvents, decision_of_not_isLast more, draws, drawn, decisionLog, retryAt]

/-- By induction on the turns, the last one taken off. -/
theorem logIn_turnsEvents {n : Nat} (before : ∀ i < n, ¬ client.Stops request w i) :
    logIn (client.turnsEvents n request w) = (List.range n).map fun i =>
      .retrying (client.retryAt request w i).1 (client.retryAt request w i).2 := by
  induction n with
  | zero => rfl
  | succ n ih =>
    rw [turnsEvents_concat, logIn_append, ih fun i hi => before i (Nat.lt_succ_of_lt hi),
      logIn_turn_of_not_stops (before n (Nat.lt_succ_self n)), List.range_succ, List.map_append]
    rfl

/-! ## What the entries of a run tell -/

theorem requestFields_later (request : Request) (i : Nat) :
    LogEntry.requestFields (request.later i) = LogEntry.attemptFields request i := by
  rw [LogEntry.requestFields, Request.toNat_attempt_later]
  rfl

theorem tellsRetry_retrying {policy : RetryPolicy} {request : Request} {i delayMs : Nat}
    (least : policy.backoffMs (request.later i).attempt .zero ≤ delayMs)
    (most : delayMs ≤ policy.backoffMs (request.later i).attempt .one) :
    (LogEntry.retrying (request.later i) delayMs).TellsRetry policy request i where
  level := rfl
  fields := requestFields_later request i
  message := ⟨delayMs, rfl, least, most⟩

theorem tellsRetry_retryAt (draws : ∀ i, (w.draw i).isNaN = false) (i : Nat) :
    (LogEntry.retrying (client.retryAt request w i).1 (client.retryAt request w i).2).TellsRetry
      client.retryPolicy request i := by
  have same_attempt : (request.later i).attempt ≤ (request.later i).attempt := UInt32.le_refl _
  unfold retryAt
  dsimp only
  apply tellsRetry_retrying
  · refine RetryPolicy.backoffMs_le_backoffMs (Nat.le_refl _) same_attempt rfl (draws _) ?_
    rw [Binary64.height_zero, Nat.zero_min]
    exact Nat.zero_le _
  · refine RetryPolicy.backoffMs_le_backoffMs (Nat.le_refl _) same_attempt (draws _)
      Binary64.isNaN_one ?_
    rw [Binary64.height_one]
    exact Nat.min_le_right _ _

theorem tellsRetry_turnsEvents (draws : ∀ i, (w.draw i).isNaN = false) {n : Nat}
    (before : ∀ i < n, ¬ client.Stops request w i) :
    List.Forall₂ (fun i entry => entry.TellsRetry client.retryPolicy request i) (List.range n)
      (logIn (client.turnsEvents n request w)) := by
  rw [logIn_turnsEvents before, List.forall₂_map_right_iff, List.forall₂_same]
  exact fun i _ => tellsRetry_retryAt draws i

theorem tellsFailure_failed (request : Request) (i : Nat) (error : FetchError) :
    (LogEntry.failed (request.later i) error).TellsFailure request i error where
  level := rfl
  fields := congrArg (· ++ [("status", toString error.status)]) (requestFields_later request i)
  message := rfl

theorem tellsRun_turnsEvents (draws : ∀ i, (w.draw i).isNaN = false) {k : Nat}
    (before : ∀ i < k, ¬ client.Stops request w i) (stop : client.Stops request w k) :
    TellsRun client.retryPolicy request k (client.outcomes request w k)
      (logIn (client.turnsEvents (k + 1) request w)) := by
  refine ⟨logIn (client.turnsEvents k request w),
    decisionLog (request.later k) (.completed (client.outcomes request w k)), ?_,
    tellsRetry_turnsEvents draws before, ?_⟩
  · rw [turnsEvents_concat, logIn_append, logIn_turn_of_stops stop]
  · cases client.outcomes request w k with
    | ok success => rfl
    | error error => exact ⟨_, rfl, tellsFailure_failed request k error⟩

/-- A run that ended logged the retries that it made, and its failure if it failed. -/
theorem tellsRun_of_run (draws : ∀ i, (w.draw i).isNaN = false) {ending : Ending} {w' : World}
    (ended : client.run request w = some (ending, w')) :
    ∃ events, w'.journal = w.journal ++ events ∧
      attemptNumbers events = (List.range (retryCount events + 1)).map request.attempt.later ∧
      TellsRun client.retryPolicy request (retryCount events) ending.outcome (logIn events) := by
  obtain ⟨k, before, stop, rfl, -, journal⟩ := turns_of_run ended
  let raised : World := { w with board := w.board.modify client.busy.place .acquire }
  have retries : retryCount (client.turnsEvents (k + 1) request raised) = k :=
    retryCount_of_stops (w := raised) before stop
  refine ⟨client.turnsEvents (k + 1) request raised, journal, ?_, ?_⟩
  · rw [retries, attemptNumbers_turnsEvents]
  · rw [retries, outcome_endingOf]
    exact tellsRun_turnsEvents (w := raised) draws before stop

/-- A run that goes on logged every attempt as one to be made again. -/
theorem tellsRetry_of_runFor (draws : ∀ i, (w.draw i).isNaN = false) {n : Nat} {request' : Request}
    {w' : World} (made : client.runFor n request w = some (.again request', w')) :
    ∃ events, w'.journal = w.journal ++ events ∧
      attemptNumbers events = (List.range n).map request.attempt.later ∧
      List.Forall₂ (fun i entry => entry.TellsRetry client.retryPolicy request i) (List.range n)
        (logIn events) := by
  let raised : World := { w with board := w.board.modify client.busy.place .acquire }
  rw [runFor_apply] at made
  have before : ∀ i < n, ¬ client.Stops request raised i := by
    intro i early stop
    obtain ⟨k, earlier, stop, before⟩ := exists_first_stop stop
    rw [followFor_of_stops before stop (Nat.lt_of_le_of_lt earlier early)] at made
    cases made
  rw [followFor_of_not_stops before] at made
  obtain ⟨-, rfl⟩ := Prod.mk.inj (Option.some.inj made)
  exact ⟨client.turnsEvents n request raised, rfl, attemptNumbers_turnsEvents n,
    tellsRetry_turnsEvents (w := raised) draws before⟩

/-! ## Failures that nobody handles -/

/-- Where failures are shown makes no difference to attempts. -/
theorem outcomes_withSink (sink : AlertSink) (i : Nat) :
    { client with alertSink := sink }.outcomes request w i = client.outcomes request w i := rfl

theorem stops_withSink (sink : AlertSink) (i : Nat) :
    { client with alertSink := sink }.Stops request w i ↔ client.Stops request w i := by
  unfold Stops
  rw [outcomes_withSink]
  cases client.outcomes request w i <;> rfl

/-- After a run that ended in this failure, a dispatch without a handler gives nothing and logs one
entry more, as a task of its own or not. -/
def LogsUnhandled (client : Client) (request : Request) (w : World) (error : FetchError)
    (w' : World) : Prop :=
  ∃ w'' entry, w'.Logs w'' [entry] ∧ entry.TellsUnhandled error request.url ∧
    ∀ (P R : Type) (onSuccess : Continuation P R) (param : P),
      client.dispatch request onSuccess param w = some (none, w'') ∧
      client.spawnDispatch request onSuccess param w = some (none, w'')

theorem logsUnhandled_of_run {error : FetchError} {attempt : Attempt} {w' : World}
    (sink : client.alertSink = .log)
    (ended : client.run request w =
      some (.error ⟨error, request.withAttempt attempt, client⟩, w')) :
    client.LogsUnhandled request w error w' := by
  obtain ⟨_, forms⟩ := handsOnFailure_of_run ended
  rw [sink] at forms
  refine ⟨{ w' with
      journal := w'.journal ++ [.logged (.unhandled (error.diagnostic request.url))] },
    .unhandled (error.diagnostic request.url), ⟨_, rfl, rfl⟩, ⟨rfl, rfl, rfl⟩, ?_⟩
  intro P R onSuccess param
  obtain ⟨plain, spawned, -⟩ := forms P R onSuccess param
  exact ⟨plain, spawned⟩

/-- **The log tells the whole of a run.** For each automatic retry a run logs one entry, in order, with
the method and the URL of the request as it was given, the number of the attempt that failed, and a
delay between the ends of that attempt's band. One more entry follows if the run fails, with the last
attempt and the status, and none if it succeeds; a dispatch that nobody handles adds the diagnostic to
the log where failures are shown there. So it is with a run that goes on for ever, as far as one looks.
A value that has no document is not even begun with. -/
theorem log_tells_run (client : Client) (request : Request) (w : World)
    (draws : ∀ i, (w.draw i).isNaN = false) :
    (∀ ending w', client.run request w = some (ending, w') →
      ∃ events, w'.journal = w.journal ++ events ∧
        attemptNumbers events = (List.range (retryCount events + 1)).map request.attempt.later ∧
        TellsRun client.retryPolicy request (retryCount events) ending.outcome (logIn events) ∧
        (client.alertSink = .log → ∀ error, ending.outcome = .error error →
          client.LogsUnhandled request w error w')) ∧
    (∀ n request' w', client.runFor n request w = some (.again request', w') →
      ∃ events, w'.journal = w.journal ++ events ∧
        attemptNumbers events = (List.range n).map request.attempt.later ∧
        List.Forall₂ (fun i entry => entry.TellsRetry client.retryPolicy request i) (List.range n)
          (logIn events)) ∧
    ∀ url body fault, body.toJson = .error fault →
      client.post url body w = some (.error (.encode (.notJson fault)), w) ∧
      client.put url body w = some (.error (.encode (.notJson fault)), w) := by
  refine ⟨?_, fun n request' w' => tellsRetry_of_runFor draws, ?_⟩
  · intro ending w' ended
    obtain ⟨events, journal, numbers, tells⟩ := tellsRun_of_run draws ended
    refine ⟨events, journal, numbers, tells, fun sink error failed => ?_⟩
    obtain ⟨k, -, -, rfl, -⟩ := turns_of_run ended
    rw [outcome_endingOf] at failed
    rw [failed] at ended
    exact logsUnhandled_of_run sink ended
  · intro url body fault refused
    simp only [post, put, refused]
    exact ⟨rfl, rfl⟩

/-- Two retries, a failure at the third attempt, and nobody who handles it. -/
theorem log_tells_run_two_retries :
    let network :=
      World.scripted [.response 504 [] "slow", .response 408 [] "slow", .response 503 [] "down"]
    let client := { sample 1 with alertSink := .log }
    let request := sampleRequest 0
    let w := sampleWorld network
    (∀ i, (w.draw i).isNaN = false) ∧
    ∃ ending w' events, client.run request w = some (ending, w') ∧
      w'.journal = w.journal ++ events ∧ retryCount events = 2 ∧
      TellsRun client.retryPolicy request 2 ending.outcome (logIn events) ∧
      client.LogsUnhandled request w (.http 503 "Service Unavailable" "down") w' := by
  intro network client request w
  have a0 : network 0 = .response 504 [] "slow" := rfl
  have a1 : network 1 = .response 408 [] "slow" := rfl
  have a2 : network 2 = .response 503 [] "down" := rfl
  have go0 : ¬ client.Stops request w 0 := by rw [stops_withSink, stops_sample a0 rfl]; decide
  have go1 : ¬ client.Stops request w 1 := by rw [stops_withSink, stops_sample a1 rfl]; decide
  have stop2 : client.Stops request w 2 := by rw [stops_withSink, stops_sample a2 rfl]; decide
  have before : ∀ i < 2, ¬ client.Stops request w i := by
    intro i hi
    cases i with
    | zero => exact go0
    | succ i => rw [show i = 0 by omega]; exact go1
  have draws : ∀ i, (w.draw i).isNaN = false := fun _ => rfl
  have last : client.outcomes request w 2 = .error (.http 503 "Service Unavailable" "down") :=
    (outcomes_withSink .log 2).trans (outcomes_sample 1 0 a2 rfl)
  obtain ⟨w', events', ended, journal', -, -, retries⟩ := run_eq_some before stop2
  obtain ⟨events, journal, -, tells, unhandled⟩ :=
    (log_tells_run client request w draws).1 _ w' ended
  obtain rfl := List.append_cancel_left (journal.symm.trans journal')
  rw [retries] at tells
  refine ⟨draws, _, w', events, ended, journal, retries, tells, ?_⟩
  exact unhandled rfl _ ((outcome_endingOf _ _ _).trans last)

end Client

end CatalogClient

import CatalogClient.Client.Flight
import CatalogClient.Proofs.Attempts

/-!
# What a flight does at each stage

`Passes` lists all that can happen to a flight in one move, and `advance_apply` and `abandon_apply`
say that nothing else does. A flight that is moved until it ends does what `Client.run` does, event
for event, and never ends where `Client.run` never ends (`run_eq_fly`).
-/

namespace CatalogClient

/-- The request whose attempt is on its way. -/
def Stage.current? : Stage → Option Request
  | .underway request _ _ => some request
  | _ => none

/-- The beginning and the end of an attempt. -/
def bothEnds (made : Request × Outcome) : List Event :=
  [.started made.1, .finished made.1 made.2]

/-- Attempts one after the other: each ended before the next began, and only the one on its way, if
there is any, has not ended. One that was on its way when the flight was dropped never does. -/
def OneAtATime (events : List Event) (stage : Stage) : Prop :=
  ∃ (made : List (Request × Outcome)) (current : Option Request),
    attemptsIn events = made.flatMap bothEnds ++ current.toList.map Event.started ∧
    (stage ≠ .dropped → current = stage.current?)

namespace Client

/-- Where a decision leaves a flight. -/
def stageOf (client : Client) (request : Request) : Step → Stage
  | .completed outcome => .ended (client.endingOf request outcome)
  | .retryAfter delayMs => .resting request delayMs

/-- What can happen to a flight in one move: the stage before, what is written, the stage after. -/
inductive Passes (client : Client) (w : World) : Stage → List Event → Stage → Prop
  /-- An attempt that cannot be sent ends at once. -/
  | refused {request : Request} (error : FetchError) (step : Step) :
    Passes client w (.due request) (.started request :: verdictEvents request (.error error) step)
      (client.stageOf request step)
  | sent {request : Request} (wire : WireRequest) :
    Passes client w (.due request)
      [.started request,
        .sent wire (w.board.counter client.busy).isBusy (w.network w.sent).isDelivered]
      (.underway request wire (w.network w.sent))
  | answered {request : Request} {wire : WireRequest} {arrival : Arrival} (step : Step) :
    Passes client w (.underway request wire arrival)
      (verdictEvents request (arrival.outcome wire) step) (client.stageOf request step)
  | rested {request : Request} {delayMs : Nat} :
    Passes client w (.resting request delayMs) [] (.due request.nextAttempt)
  | abandoned {stage : Stage} : stage.isActive = true → Passes client w stage [] .dropped
  | stays {stage : Stage} : stage.isActive = false → Passes client w stage [] stage

/-- The board after a move: whoever ends gives its slot back. -/
def boardAfter (board : Busy.Board) (flight : Flight) (stage : Stage) : Busy.Board :=
  if flight.stage.isActive && !stage.isActive then board.release flight.guard else board

section Passes
variable {client : Client} {w : World} {stage stage' : Stage} {events before : List Event}

theorem current?_stageOf (client : Client) (request : Request) (step : Step) :
    (client.stageOf request step).current? = none := by
  cases step <;> rfl

/-- A move keeps attempts one after the other. -/
theorem oneAtATime_of_passes (h : client.Passes w stage events stage')
    (one : OneAtATime before stage) : OneAtATime (before ++ events) stage' := by
  obtain ⟨made, current, attempts, known⟩ := one
  cases h with
  | @refused request error step =>
    obtain rfl := known (by simp)
    refine ⟨made ++ [(request, .error error)], none, ?_, fun _ => ?_⟩
    · have begun : attemptsIn [.started request] = [.started request] := rfl
      rw [← List.singleton_append, attemptsIn_append, attemptsIn_append, attempts, begun,
        attemptsIn_verdictEvents]
      simp [Stage.current?, bothEnds]
    · rw [current?_stageOf]
  | @sent request wire =>
    obtain rfl := known (by simp)
    refine ⟨made, some request, ?_, fun _ => rfl⟩
    have begun : ∀ busy delivered,
        attemptsIn [.started request, .sent wire busy delivered] = [.started request] :=
      fun _ _ => rfl
    rw [attemptsIn_append, attempts, begun]
    simp [Stage.current?]
  | @answered request wire arrival step =>
    obtain rfl := known (by simp)
    refine ⟨made ++ [(request, arrival.outcome wire)], none, ?_, fun _ => ?_⟩
    · rw [attemptsIn_append, attempts, attemptsIn_verdictEvents]
      simp [Stage.current?, bothEnds]
    · rw [current?_stageOf]
  | rested =>
    obtain rfl := known (by simp)
    exact ⟨made, none, by rw [List.append_nil, attempts]; rfl, fun _ => rfl⟩
  | abandoned _ =>
    exact ⟨made, current, by rw [List.append_nil, attempts], fun h => absurd rfl h⟩
  | stays _ => exact ⟨made, current, by rw [List.append_nil, attempts], known⟩

theorem not_sent_in_verdictEvents {wire : WireRequest} {busy delivered : Bool} {request : Request}
    {outcome : Outcome} {step : Step} :
    Event.sent wire busy delivered ∉ verdictEvents request outcome step := by
  unfold verdictEvents
  split <;> simp

/-- Only a flight that holds its slot sends, and what it sends is marked as the indicator stands. -/
theorem busy_of_passes (h : client.Passes w stage events stage') {wire : WireRequest}
    {busy delivered : Bool} (mem : .sent wire busy delivered ∈ events) :
    stage.isActive = true ∧ busy = (w.board.counter client.busy).isBusy := by
  cases h with
  | refused error step =>
    rcases List.mem_cons.mp mem with h | h
    · cases h
    · exact absurd h not_sent_in_verdictEvents
  | sent wire =>
    rcases List.mem_cons.mp mem with h | h
    · cases h
    · cases List.mem_singleton.mp h
      exact ⟨rfl, rfl⟩
  | answered step => exact absurd mem not_sent_in_verdictEvents
  | rested => cases mem
  | abandoned _ => cases mem
  | stays _ => cases mem

/-- A flight that ended did so with no retry pending: the last it wrote is no word of one. -/
def NoRetryAtEnd (events : List Event) (stage : Stage) : Prop :=
  ∀ ending, stage = .ended ending →
    ∀ request delayMs, events.getLast? ≠ some (.logged (.retrying request delayMs))

/-- What is written with a last outcome ends otherwise than with a retry. -/
theorem noRetryAtEnd_verdict (client : Client) (before : List Event) (request : Request)
    (outcome : Outcome) (step : Step) :
    NoRetryAtEnd (before ++ verdictEvents request outcome step) (client.stageOf request step) := by
  intro ending ended request' delayMs last
  cases step with
  | retryAfter delayMs => cases ended
  | completed final =>
    cases final with
    | ok success => simp [verdictEvents] at last
    | error error => simp [verdictEvents] at last

theorem noRetryAtEnd_of_passes (h : client.Passes w stage events stage')
    (settled : NoRetryAtEnd before stage) : NoRetryAtEnd (before ++ events) stage' := by
  cases h with
  | @refused request error step =>
    rw [← List.singleton_append, ← List.append_assoc]
    exact noRetryAtEnd_verdict client _ _ _ step
  | @answered request wire arrival step => exact noRetryAtEnd_verdict client _ _ _ step
  | stays _ =>
    rw [List.append_nil]
    exact settled
  | sent | rested | abandoned => exact fun ending ended => by cases ended

/-- No move brings a flight back. -/
theorem active_of_passes (h : client.Passes w stage events stage')
    (active : stage'.isActive = true) : stage.isActive = true := by
  cases h with
  | refused | sent | answered | rested => rfl
  | abandoned held => exact held
  | stays held => exact active

end Passes

/-! ## Moves -/

/-- After an attempt a flight rests, or ends and gives its slot back. -/
theorem settle_apply (client : Client) (flight : Flight) (request : Request) (outcome : Outcome)
    (w : World) (active : flight.stage.isActive = true) :
    ∃ step, client.settle flight request outcome w =
      some ({ flight with stage := client.stageOf request step },
        { w with
          journal := w.journal ++ verdictEvents request outcome step
          board := boardAfter w.board flight (client.stageOf request step) }) := by
  refine ⟨client.retryPolicy.nextStep request.attempt (w.draw w.sent) outcome, ?_⟩
  simp only [settle, Activity.bind_apply, conclude_apply, Option.bind_some, boardAfter, active]
  cases client.retryPolicy.nextStep request.attempt (w.draw w.sent) outcome with
  | completed final => cases final <;> rfl
  | retryAfter delayMs => rfl

/-- All that one move does: it passes from a stage to a stage, and an end gives the slot back. -/
theorem advance_apply (client : Client) (flight : Flight) (w : World) :
    ∃ stage events sent, client.Passes w flight.stage events stage ∧
      client.advance flight w = some ({ flight with stage },
        { w with
          sent
          journal := w.journal ++ events
          board := boardAfter w.board flight stage }) := by
  obtain ⟨guard, stage⟩ := flight
  cases stage with
  | due request =>
    cases prepared : request.prepare client.options.headers with
    | error error =>
      obtain ⟨step, settled⟩ := client.settle_apply ⟨guard, .due request⟩ request (.error error)
        { w with journal := w.journal ++ [.started request] } rfl
      refine ⟨_, _, w.sent, .refused error step, ?_⟩
      simp only [advance, prepared, Activity.bind_apply, Activity.record_apply, Option.bind_some,
        settled, List.append_assoc]
      rfl
    | ok wire =>
      refine ⟨_, _, w.sent + 1, .sent wire, ?_⟩
      simp only [advance, prepared, Activity.bind_apply, Activity.record_apply,
        Activity.transmit_apply, Option.bind_some, List.append_assoc]
      rfl
  | underway request wire arrival =>
    obtain ⟨step, settled⟩ := client.settle_apply ⟨guard, .underway request wire arrival⟩ request
      (arrival.outcome wire) w rfl
    exact ⟨_, _, w.sent, .answered step, settled⟩
  | resting request delayMs =>
    refine ⟨_, _, w.sent, .rested, ?_⟩
    rw [List.append_nil]
    rfl
  | ended ending =>
    refine ⟨_, _, w.sent, .stays rfl, ?_⟩
    rw [List.append_nil]
    rfl
  | dropped =>
    refine ⟨_, _, w.sent, .stays rfl, ?_⟩
    rw [List.append_nil]
    rfl

theorem abandon_apply (client : Client) (flight : Flight) (w : World) :
    ∃ stage, client.Passes w flight.stage [] stage ∧
      abandon flight w =
        some ({ flight with stage }, { w with board := boardAfter w.board flight stage }) := by
  obtain ⟨guard, stage⟩ := flight
  unfold abandon
  cases active : stage.isActive with
  | true =>
    have gone : Stage.dropped.isActive = false := rfl
    refine ⟨.dropped, .abandoned active, ?_⟩
    simp [boardAfter, active, gone, Busy.Board.release]
  | false =>
    refine ⟨stage, .stays active, ?_⟩
    simp [boardAfter, active]

/-! ## A flight by itself -/

/-- What follows once the outcome of an attempt is known, given what a next attempt leads to. -/
def after (client : Client) (guard : Busy.Guard) (next : Request → Activity Ending)
    (request : Request) (outcome : Outcome) : Activity Ending := do
  match ← client.conclude request outcome with
  | .completed outcome =>
    Activity.release guard
    return client.endingOf request outcome
  | .retryAfter _ => next request.nextAttempt

/-- Moves a flight once and finds out whether it has ended. -/
def flyOnce (client : Client) (flight : Flight) : Activity (Round Flight Ending) := do
  let flight ← client.advance flight
  match flight.stage with
  | .ended ending => return .done ending
  | _ => return .again flight

/-- Moves a flight until it ends. -/
def fly (client : Client) : Flight → Activity Ending := World.loop client.flyOnce

/-- Moves a flight until it ends, unless it has. -/
def flyOn (client : Client) (flight : Flight) : Activity Ending :=
  match flight.stage with
  | .ended ending => return ending
  | _ => client.fly flight

/-- Follows a request and gives the slot back. -/
def land (client : Client) (guard : Busy.Guard) (request : Request) : Activity Ending := do
  let ending ← client.follow request
  Activity.release guard
  return ending

/-- What is left to do for a flight, told by `follow`. One that was dropped never ends. -/
def remaining (client : Client) (flight : Flight) : Activity Ending :=
  match flight.stage with
  | .due request => client.land flight.guard request
  | .underway request wire arrival =>
    client.after flight.guard (client.land flight.guard) request (arrival.outcome wire)
  | .resting request _ => client.land flight.guard request.nextAttempt
  | .ended ending => return ending
  | .dropped => fun _ => none

section Solo
variable {client : Client} {guard : Busy.Guard}

theorem attempt_after_apply (next : Request → Activity Ending) (request : Request) (w : World) :
    (client.attempt request >>= client.after guard next request) w =
      (client.turn request w).bind fun p => p.1.elim (fun request => next request p.2)
        fun ending => some (ending,
          { p.2 with board := p.2.board.modify guard.indicator.place .release }) := by
  simp only [turn_eq, after, Activity.bind_apply, attempt_apply, conclude_apply, Option.bind_some,
    Option.map_some]
  cases client.retryPolicy.nextStep request.attempt _ _ <;> rfl

/-- What goes on from the stages after an attempt goes on from its outcome. -/
theorem settle_bind {k : Flight → Activity Ending} {next : Request → Activity Ending}
    (ended : ∀ ending, k ⟨guard, .ended ending⟩ = pure ending)
    (rests : ∀ request delayMs, k ⟨guard, .resting request delayMs⟩ = next request.nextAttempt)
    (stage : Stage) (request : Request) (outcome : Outcome) :
    client.settle ⟨guard, stage⟩ request outcome >>= k =
      client.after guard next request outcome := by
  funext w
  simp only [settle, after, Activity.bind_apply, conclude_apply, Option.bind_some]
  cases client.retryPolicy.nextStep request.attempt _ outcome with
  | completed outcome => cases outcome <;> simp [ended, endingOf]
  | retryAfter delayMs => simp [rests]

/-- What goes on from all stages of an attempt goes on from the attempt. -/
theorem advance_due_bind {k : Flight → Activity Ending} {next : Request → Activity Ending}
    (ended : ∀ ending, k ⟨guard, .ended ending⟩ = pure ending)
    (rests : ∀ request delayMs, k ⟨guard, .resting request delayMs⟩ = next request.nextAttempt)
    (flies : ∀ request wire arrival, k ⟨guard, .underway request wire arrival⟩ =
      client.after guard next request (arrival.outcome wire)) (request : Request) :
    client.advance ⟨guard, .due request⟩ >>= k =
      client.attempt request >>= client.after guard next request := by
  funext w
  simp only [advance, attempt, Activity.bind_apply, Activity.record_apply, Option.bind_some]
  cases request.prepare client.options.headers with
  | error error => exact congrFun (settle_bind ended rests (.due request) request (.error error)) _
  | ok wire => simp [flies]

theorem land_eq (request : Request) :
    client.land guard request = client.attempt request >>= client.after guard (client.land guard)
      request := by
  funext w
  rw [attempt_after_apply, land, Activity.bind_apply, follow, World.loop_apply,
    Option.bind_assoc]
  congr 1
  funext p
  obtain ⟨next, w'⟩ := p
  cases next <;> rfl

/-- A move leaves to do what was left to do. -/
theorem remaining_eq (client : Client) (flight : Flight) :
    client.remaining flight = client.advance flight >>= client.remaining := by
  obtain ⟨guard, stage⟩ := flight
  have ended : ∀ ending, client.remaining ⟨guard, .ended ending⟩ = pure ending := fun _ => rfl
  have rests : ∀ request delayMs, client.remaining ⟨guard, .resting request delayMs⟩ =
      client.land guard request.nextAttempt := fun _ _ => rfl
  cases stage with
  | due request =>
    rw [advance_due_bind ended rests (fun _ _ _ => rfl)]
    exact land_eq request
  | underway request wire arrival => exact (settle_bind ended rests _ _ _).symm
  | resting request delayMs => rfl
  | ended ending => rfl
  | dropped => rfl

theorem fly_eq (client : Client) (flight : Flight) :
    client.fly flight = client.advance flight >>= client.flyOn := by
  funext w
  rw [fly, World.loop_apply, flyOnce, Activity.bind_apply, Activity.bind_apply,
    Option.bind_assoc]
  congr 1
  funext p
  obtain ⟨⟨guard, stage⟩, w'⟩ := p
  cases stage <;> rfl

theorem fly_due (request : Request) :
    client.fly ⟨guard, .due request⟩ =
      client.attempt request >>= client.after guard (fun next => client.fly ⟨guard, .due next⟩)
        request := by
  have ended : ∀ ending, client.flyOn ⟨guard, .ended ending⟩ = pure ending := fun _ => rfl
  have rests : ∀ request delayMs, client.flyOn ⟨guard, .resting request delayMs⟩ =
      client.fly ⟨guard, .due request.nextAttempt⟩ := fun _ _ => fly_eq client _
  refine (fly_eq client _).trans (advance_due_bind ended rests ?_ request)
  intro request wire arrival
  exact (fly_eq client _).trans (settle_bind ended rests _ _ _)

/-- Whatever a flight comes to was left to do. -/
theorem remaining_of_fly {flight : Flight} {w : World} {x : Ending × World}
    (h : client.fly flight w = some x) : client.remaining flight w = some x := by
  refine World.loop_result (P := fun flight w x => client.remaining flight w = some x) ?_ ?_ h
  · intro flight ending w w' made
    obtain ⟨⟨⟨guard, stage⟩, w''⟩, moved, round⟩ := Option.bind_eq_some_iff.mp made
    rw [remaining_eq, Activity.bind_apply, moved, Option.bind_some]
    cases stage with
    | ended ending' =>
      cases round
      rfl
    | due | underway | resting | dropped => cases round
  · intro flight flight' w w' x made left
    obtain ⟨⟨⟨guard, stage⟩, w''⟩, moved, round⟩ := Option.bind_eq_some_iff.mp made
    rw [remaining_eq, Activity.bind_apply, moved, Option.bind_some]
    cases stage with
    | ended ending => cases round
    | due | underway | resting | dropped =>
      cases round
      exact left

/-- A flight comes to whatever following its request comes to. -/
theorem fly_of_follow {request : Request} {w : World} {x : Ending × World}
    (h : client.follow request w = some x) :
    client.fly ⟨guard, .due request⟩ w =
      some (x.1, { x.2 with board := x.2.board.modify guard.indicator.place .release }) := by
  refine World.loop_result (P := fun request w x => client.fly ⟨guard, .due request⟩ w =
    some (x.1, { x.2 with board := x.2.board.modify guard.indicator.place .release })) ?_ ?_ h
  · intro request ending w w' made
    rw [fly_due, attempt_after_apply, made]
    rfl
  · intro request next w w' x made ih
    rw [fly_due, attempt_after_apply, made]
    exact ih

end Solo

/-- A run is a flight that nobody comes between. Both give the same end and leave the same world,
and neither ends unless the other one does. -/
theorem run_eq_fly (client : Client) (request : Request) :
    client.run request = client.launch request >>= client.fly := by
  funext w
  let raised : World := { w with board := w.board.modify client.busy.place .acquire }
  show client.land ⟨client.busy⟩ request raised = client.fly ⟨⟨client.busy⟩, .due request⟩ raised
  cases landed : client.follow request raised with
  | some x =>
    rw [fly_of_follow landed, land, Activity.bind_apply, landed]
    rfl
  | none =>
    have lost : client.land ⟨client.busy⟩ request raised = none := by
      rw [land, Activity.bind_apply, landed]
      rfl
    rw [lost]
    cases flown : client.fly ⟨⟨client.busy⟩, .due request⟩ raised with
    | none => rfl
    | some x =>
      have left : client.land ⟨client.busy⟩ request raised = some x := remaining_of_fly flown
      rw [lost] at left
      cases left

end Client

end CatalogClient

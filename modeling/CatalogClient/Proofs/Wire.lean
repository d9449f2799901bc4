import CatalogClient.Proofs.ManualRetry
import CatalogClient.Proofs.Traffic

/-!
# What goes on the wire

An attempt sends what its request asks for, and the number of the attempt takes no part in that. So all
attempts at a request send the same, in whatever form it is issued, whatever else goes on, and however
often it is issued again by hand: `keeps_of_executes` says what an execution is bound to, and
`wire_of_content` compares two of them.
-/

namespace CatalogClient

/-! ## The content of a request -/

/-- The requests ask for the same, but for the numbers of their attempts. -/
structure Request.SameContent (a b : Request) : Prop where
  method : a.method = b.method
  url : a.url = b.url
  contentType : a.contentType = b.contentType
  serializeBody : a.serializeBody = b.serializeBody
  body : a.body = b.body

namespace Request

theorem SameContent.refl (request : Request) : request.SameContent request :=
  ⟨rfl, rfl, rfl, rfl, rfl⟩

theorem SameContent.trans {a b c : Request} (first : a.SameContent b) (second : b.SameContent c) :
    a.SameContent c :=
  ⟨first.method.trans second.method, first.url.trans second.url,
    first.contentType.trans second.contentType, first.serializeBody.trans second.serializeBody,
    first.body.trans second.body⟩

theorem sameContent_nextAttempt (request : Request) : request.nextAttempt.SameContent request :=
  ⟨rfl, rfl, rfl, rfl, rfl⟩

theorem sameContent_later (request : Request) (i : Nat) : (request.later i).SameContent request :=
  ⟨rfl, rfl, rfl, rfl, rfl⟩

/-- What is sent depends on the content alone. -/
theorem prepare_eq_of_sameContent {a b : Request} (same : a.SameContent b)
    (own : List (String × String)) : a.prepare own = b.prepare own := by
  obtain ⟨method, url, contentType, serializeBody, body, attempt⟩ := a
  obtain ⟨rfl, rfl, rfl, rfl, rfl⟩ := same
  exact prepare_withAttempt b attempt own

end Request

/-! ## What a journal tells of the wire -/

/-- The event says that a request was sent. -/
def Event.isSent : Event → Bool
  | .sent .. => true
  | _ => false

/-- What was sent, in order. -/
def sentIn (events : List Event) : List Event := events.filter Event.isSent

theorem sentIn_append (xs ys : List Event) : sentIn (xs ++ ys) = sentIn xs ++ sentIn ys :=
  List.filter_append xs ys

/-! ## Executions -/

/-- The end of a flight that has ended. -/
def Stage.ending? : Stage → Option Ending
  | .ended ending => some ending
  | _ => none

/-- The run that the call begins, among whatever else goes on before and after, comes to be this. -/
def Call.Becomes {P R : Type} (call : Call P R) (run : Run) : Prop :=
  ∃ (traffic traffic' : Traffic) (after : List Move) (w w' : World),
    traffic.run (.call call :: after) w = some (traffic', w') ∧
      traffic'.runs[traffic.runs.length]? = some run

namespace Client

/-- An execution of a request by a client, as far as it has come: what it wrote, and how it ended if it
has. -/
inductive Executes (client : Client) (request : Request) : List Event → Option Ending → Prop
  /-- The run by itself, to its end. -/
  | alone {w w' : World} {ending : Ending} {events : List Event} :
    client.run request w = some (ending, w') → w'.journal = w.journal ++ events →
    Executes client request events (some ending)
  /-- The run that a call begins in any form, one of many runs. It may be dropped, or never end. -/
  | amid {P R : Type} {call : Call P R} {run : Run} :
    call.run? = some (client, request) → call.Becomes run →
    Executes client request run.events run.flight.stage.ending?

/-- A request as a client was given it, or as it is issued again by hand with what a failure of it has
left, any number of times. -/
inductive Issues (client : Client) (request : Request) : Client → Request → Prop
  | first : Issues client request client request
  | again {client' : Client} {request' : Request} {events : List Event} {context : ErrorContext} :
    Issues client request client' request' →
    client'.Executes request' events (some (.error context)) →
    Issues client request context.client context.request.nextAttempt

/-- In an execution of the request, or of the retries by hand after it, this goes on the wire. -/
def Puts (client : Client) (request : Request) (wire : WireRequest) : Prop :=
  ∃ client' request' events ending?, client.Issues request client' request' ∧
    client'.Executes request' events ending? ∧ ∃ busy delivered, .sent wire busy delivered ∈ events

/-! ## What an execution is bound to -/

/-- The outcomes that an attempt at the request can have. -/
inductive CanHave (client : Client) (request : Request) : Outcome → Prop
  | refused {error : FetchError} : request.prepare client.options.headers = .error error →
    CanHave client request (.error error)
  | answered {wire : WireRequest} (arrival : Arrival) :
    request.prepare client.options.headers = .ok wire →
    CanHave client request (arrival.outcome wire)

/-- What was written and how it ended goes with the client and the content of the request. -/
structure Keeps (client : Client) (request : Request) (events : List Event)
    (ending? : Option Ending) : Prop where
  sent : ∀ wire busy delivered, .sent wire busy delivered ∈ events →
    request.prepare client.options.headers = .ok wire
  outcome : ∀ ending, ending? = some ending → client.CanHave request ending.outcome
  context : ∀ context, ending? = some (.error context) →
    context.client = client ∧ context.request.SameContent request

variable {client : Client} {request : Request} {w w' : World}

theorem canHave_outcomes (client : Client) (request : Request) (w : World) (i : Nat) :
    client.CanHave request (client.outcomes request w i) := by
  unfold outcomes
  cases prepared : request.prepare client.options.headers with
  | error error => exact .refused prepared
  | ok wire => exact .answered _ prepared

/-- The end of a run with an outcome that it can have. -/
theorem keeps_endingOf {other : Request} {outcome : Outcome} {events : List Event}
    (same : other.SameContent request) (has : client.CanHave request outcome)
    (sent : ∀ wire busy delivered, .sent wire busy delivered ∈ events →
      request.prepare client.options.headers = .ok wire) :
    client.Keeps request events (some (client.endingOf other outcome)) where
  sent := sent
  outcome := by
    intro ending ended
    obtain rfl := Option.some.inj ended
    rw [outcome_endingOf]
    exact has
  context := by
    intro context left
    cases outcome with
    | ok success => cases left
    | error error =>
      obtain rfl := Except.error.inj (Option.some.inj left)
      exact ⟨rfl, same⟩

/-! ## A run by itself -/

theorem sentIn_verdictEvents (request : Request) (outcome : Outcome) (step : Step) :
    sentIn (verdictEvents request outcome step) = [] := by
  unfold verdictEvents
  split <;> rfl

theorem sentIn_turnEvents (client : Client) (request : Request) (w : World) :
    sentIn (client.turnEvents request w) =
      match request.prepare client.options.headers with
      | .error _ => []
      | .ok wire =>
        [.sent wire (w.board.counter client.busy).isBusy (w.network w.sent).isDelivered] := by
  rw [turnEvents, sentIn_append, sentIn_verdictEvents, List.append_nil, attemptEvents]
  cases request.prepare client.options.headers <;> rfl

/-- So many turns send one request as many times, or nothing at all. -/
theorem sentIn_turnsEvents (client : Client) (n : Nat) (request : Request) (w : World) :
    sentIn (client.turnsEvents n request w) =
      match request.prepare client.options.headers with
      | .error _ => []
      | .ok wire => (List.range n).map fun i =>
        .sent wire (w.board.counter client.busy).isBusy (w.network (w.sent + i)).isDelivered := by
  induction n generalizing request w with
  | zero => cases request.prepare client.options.headers <;> rfl
  | succ n ih =>
    have same := Request.prepare_eq_of_sameContent request.sameContent_nextAttempt
      client.options.headers
    rw [turnsEvents, sentIn_append, sentIn_turnEvents, ih, same]
    cases prepared : request.prepare client.options.headers with
    | error error => rfl
    | ok wire =>
      have once : client.sends request = 1 := by rw [sends, prepared]
      simp only [List.range_succ_eq_map, List.map_cons, List.map_map, List.singleton_append]
      refine congrArg _ (List.map_congr_left fun i _ => ?_)
      simp only [afterTurn, once, Function.comp_apply, Nat.succ_eq_add_one, Nat.add_assoc,
        Nat.add_comm 1 i]

theorem prepare_of_sent_in_turnsEvents {n : Nat} {wire : WireRequest} {busy delivered : Bool}
    (mem : .sent wire busy delivered ∈ client.turnsEvents n request w) :
    request.prepare client.options.headers = .ok wire := by
  have among : .sent wire busy delivered ∈ sentIn (client.turnsEvents n request w) :=
    List.mem_filter.mpr ⟨mem, rfl⟩
  rw [sentIn_turnsEvents] at among
  cases prepared : request.prepare client.options.headers with
  | error error => simp [prepared] at among
  | ok wire' =>
    simp only [prepared] at among
    obtain ⟨i, -, same⟩ := List.mem_map.mp among
    rw [(Event.sent.inj same).1]

/-- What a run wrote that ended: so many turns, with the indicator raised, up to its last outcome. -/
theorem events_of_run {ending : Ending} {events : List Event}
    (ended : client.run request w = some (ending, w'))
    (journal : w'.journal = w.journal ++ events) :
    ∃ k, let raised := { w with board := w.board.modify client.busy.place .acquire }
      ending = client.endingOf (request.later k) (client.outcomes request raised k) ∧
        events = client.turnsEvents (k + 1) request raised := by
  obtain ⟨k, -, -, same, -, journal'⟩ := turns_of_run ended
  exact ⟨k, same, List.append_cancel_left (journal.symm.trans journal')⟩

theorem keeps_of_run {ending : Ending} {events : List Event}
    (ended : client.run request w = some (ending, w'))
    (journal : w'.journal = w.journal ++ events) :
    client.Keeps request events (some ending) := by
  obtain ⟨k, rfl, rfl⟩ := events_of_run ended journal
  exact keeps_endingOf (request.sameContent_later k) (canHave_outcomes client request _ k)
    fun wire busy delivered mem => prepare_of_sent_in_turnsEvents mem

/-- A run of a request that can be sent sends it. -/
theorem sent_of_run {ending : Ending} {events : List Event} {wire : WireRequest}
    (prepared : request.prepare client.options.headers = .ok wire)
    (ended : client.run request w = some (ending, w'))
    (journal : w'.journal = w.journal ++ events) :
    ∃ busy delivered, .sent wire busy delivered ∈ events := by
  obtain ⟨k, -, rfl⟩ := events_of_run ended journal
  have sent := sentIn_turnsEvents client (k + 1) request
    { w with board := w.board.modify client.busy.place .acquire }
  simp only [prepared, List.range_succ_eq_map, List.map_cons] at sent
  have first : .sent wire _ _ ∈ sentIn (client.turnsEvents (k + 1) request _) :=
    sent ▸ List.mem_cons_self
  exact ⟨_, _, (List.mem_filter.mp first).1⟩

/-! ## A run among others -/

/-- What is underway belongs to the request. -/
def IsOf (client : Client) (request : Request) : Stage → Prop
  | .due other | .resting other _ => other.SameContent request
  | .underway other wire _ =>
    other.SameContent request ∧ request.prepare client.options.headers = .ok wire
  | .ended ending => client.Keeps request [] (some ending)
  | .dropped => True

/-- A decision leaves a flight with its request. -/
theorem settle_isOf (flight : Flight) {other : Request} {outcome : Outcome}
    (same : other.SameContent request) (has : client.CanHave request outcome) (w : World) :
    ∃ stage w' events, client.settle flight other outcome w = some ({ flight with stage }, w') ∧
      w'.journal = w.journal ++ events ∧ client.IsOf request stage ∧
      ∀ wire busy delivered, .sent wire busy delivered ∉ events := by
  have unsent : ∀ step wire busy delivered,
      .sent wire busy delivered ∉ verdictEvents other outcome step :=
    fun _ _ _ _ => not_sent_in_verdictEvents
  simp only [settle, Activity.bind_apply, conclude_apply, Option.bind_some]
  by_cases last : client.IsLast other.attempt.toNat outcome
  · rw [nextStep_of_isLast _ last]
    have keeps := keeps_endingOf same has fun _ _ _ mem => absurd mem List.not_mem_nil
    cases outcome with
    | ok success => exact ⟨_, _, _, rfl, rfl, keeps, unsent _⟩
    | error error => exact ⟨_, _, _, rfl, rfl, keeps, unsent _⟩
  · rw [nextStep_of_not_isLast _ last]
    exact ⟨_, _, _, rfl, rfl, same, unsent _⟩

/-- A move leaves a flight with its request, and sends what the request asks for. -/
theorem advance_isOf {flight : Flight} (isOf : client.IsOf request flight.stage) (w : World) :
    ∃ stage w' events, client.advance flight w = some ({ flight with stage }, w') ∧
      w'.journal = w.journal ++ events ∧ client.IsOf request stage ∧
      ∀ wire busy delivered, .sent wire busy delivered ∈ events →
        request.prepare client.options.headers = .ok wire := by
  obtain ⟨guard, stage⟩ := flight
  cases stage with
  | due other =>
    have same : other.prepare client.options.headers = request.prepare client.options.headers :=
      Request.prepare_eq_of_sameContent isOf _
    cases prepared : request.prepare client.options.headers with
    | error error =>
      rw [prepared] at same
      obtain ⟨stage, w', events, settled, journal, isOf', unsent⟩ :=
        settle_isOf ⟨guard, .due other⟩ isOf (.refused prepared)
          { w with journal := w.journal ++ [.started other] }
      refine ⟨stage, w', .started other :: events, ?_, ?_, isOf', ?_⟩
      · simp only [advance, same, Activity.bind_apply, Activity.record_apply, Option.bind_some,
          settled]
      · rw [journal, List.append_assoc, List.singleton_append]
      · intro wire busy delivered mem
        rcases List.mem_cons.mp mem with h | h
        · cases h
        · exact absurd h (unsent wire busy delivered)
    | ok wire =>
      rw [prepared] at same
      let events : List Event := [.started other, .sent wire
        (w.board.counter client.busy).isBusy (w.network w.sent).isDelivered]
      refine ⟨.underway other wire (w.network w.sent),
        { w with sent := w.sent + 1, journal := w.journal ++ events }, events, ?_, rfl,
        ⟨isOf, prepared⟩, ?_⟩
      · simp only [advance, same, Activity.bind_apply, Activity.record_apply,
          Activity.transmit_apply, Option.bind_some, Activity.pure_apply, List.append_assoc]
        rfl
      · intro wire' busy delivered mem
        rcases List.mem_cons.mp mem with h | h
        · cases h
        · rw [(Event.sent.inj (List.mem_singleton.mp h)).1]
  | underway other wire arrival =>
    obtain ⟨same, prepared⟩ := isOf
    obtain ⟨stage, w', events, settled, journal, isOf', unsent⟩ :=
      settle_isOf ⟨guard, .underway other wire arrival⟩ same
        (.answered arrival prepared) w
    exact ⟨stage, w', events, settled, journal, isOf', fun wire busy delivered mem =>
      absurd mem (unsent wire busy delivered)⟩
  | resting other delayMs =>
    exact ⟨.due other.nextAttempt, w, [], rfl, (List.append_nil _).symm,
      other.sameContent_nextAttempt.trans isOf, fun _ _ _ mem => absurd mem List.not_mem_nil⟩
  | ended ending =>
    exact ⟨.ended ending, w, [], rfl, (List.append_nil _).symm, isOf,
      fun _ _ _ mem => absurd mem List.not_mem_nil⟩
  | dropped =>
    exact ⟨.dropped, w, [], rfl, (List.append_nil _).symm, isOf,
      fun _ _ _ mem => absurd mem List.not_mem_nil⟩

theorem abandon_isOf {flight : Flight} (isOf : client.IsOf request flight.stage) (w : World) :
    ∃ stage w', abandon flight w = some ({ flight with stage }, w') ∧ w'.journal = w.journal ∧
      client.IsOf request stage := by
  unfold abandon
  split
  · exact ⟨.dropped, _, rfl, rfl, trivial⟩
  · exact ⟨flight.stage, w, rfl, rfl, isOf⟩

end Client

namespace Run

/-- The run belongs to the request, with all that it wrote. -/
structure IsOf (client : Client) (request : Request) (run : Run) : Prop where
  runner : run.client = client
  stage : client.IsOf request run.flight.stage
  sent : ∀ wire busy delivered, .sent wire busy delivered ∈ run.events →
    request.prepare client.options.headers = .ok wire

variable {client : Client} {request : Request} {run : Run} {flight : Flight} {events : List Event}
  {w w' : World}

theorem isOf_launched (client : Client) (request : Request) (guard : Busy.Guard) :
    IsOf client request ⟨client, ⟨guard, .due request⟩, []⟩ :=
  ⟨rfl, .refl request, fun _ _ _ mem => absurd mem List.not_mem_nil⟩

theorem isOf_moved {stage : Stage} (isOf : run.IsOf client request)
    (stage_isOf : client.IsOf request stage)
    (sent : ∀ wire busy delivered, .sent wire busy delivered ∈ events →
      request.prepare client.options.headers = .ok wire) :
    IsOf client request
      { run with flight := { run.flight with stage }, events := run.events ++ events } where
  runner := isOf.runner
  stage := stage_isOf
  sent := by
    intro wire busy delivered mem
    rcases List.mem_append.mp mem with before | now
    · exact isOf.sent wire busy delivered before
    · exact sent wire busy delivered now

theorem isOf_advanced (isOf : run.IsOf client request)
    (moved : Activity.observed (run.client.advance run.flight) w = some ((flight, events), w')) :
    IsOf client request { run with flight := flight, events := run.events ++ events } := by
  obtain ⟨stage, w₁, now, advanced, journal, stage_isOf, sent⟩ := client.advance_isOf isOf.stage w
  rw [isOf.runner, Traffic.observed_apply advanced journal] at moved
  cases moved
  exact isOf_moved isOf stage_isOf sent

theorem isOf_abandoned (isOf : run.IsOf client request)
    (moved : Activity.observed (Client.abandon run.flight) w = some ((flight, events), w')) :
    IsOf client request { run with flight := flight, events := run.events ++ events } := by
  obtain ⟨stage, w₁, dropped, journal, stage_isOf⟩ := client.abandon_isOf isOf.stage w
  have quiet : w₁.journal = w.journal ++ [] := by rw [journal, List.append_nil]
  rw [Traffic.observed_apply dropped quiet] at moved
  cases moved
  exact isOf_moved isOf stage_isOf fun _ _ _ mem => absurd mem List.not_mem_nil

end Run

/-! ## What lasts -/

/-- What is true of a run stays true of it, however it is moved. -/
structure Run.Lasts (holds : Run → Prop) : Prop where
  advanced : ∀ {run : Run} {flight : Flight} {events : List Event} {w w' : World}, holds run →
    Activity.observed (run.client.advance run.flight) w = some ((flight, events), w') →
      holds { run with flight := flight, events := run.events ++ events }
  abandoned : ∀ {run : Run} {flight : Flight} {events : List Event} {w w' : World}, holds run →
    Activity.observed (Client.abandon run.flight) w = some ((flight, events), w') →
      holds { run with flight := flight, events := run.events ++ events }

namespace Traffic

variable {holds : Run → Prop} {traffic traffic' : Traffic} {w w' : World} {n : Nat} {run : Run}

/-- An update of some run leaves true what is true of the run that is looked at. -/
theorem update_lasts {m : Nat} {other : Run} {flight : Flight} {events : List Event}
    (at_n : traffic.runs[n]? = some run) (so : holds run) (at_m : traffic.runs[m]? = some other)
    (kept : holds other → holds { other with flight := flight, events := other.events ++ events }) :
    ∃ run', (traffic.update m other flight events).runs[n]? = some run' ∧ holds run' := by
  obtain ⟨short, -⟩ := List.getElem?_eq_some_iff.mp at_n
  simp only [update, List.getElem?_set]
  by_cases same : m = n
  · subst same
    obtain rfl := Option.some.inj (at_n.symm.trans at_m)
    rw [if_pos rfl, if_pos short]
    exact ⟨_, rfl, kept so⟩
  · rw [if_neg same]
    exact ⟨run, at_n, so⟩

/-- Whatever is done next leaves it true of a run. -/
theorem step_lasts (lasts : Run.Lasts holds) (at_n : traffic.runs[n]? = some run) (so : holds run)
    {move : Move} (moved : traffic.step move w = some (traffic', w')) :
    ∃ run', traffic'.runs[n]? = some run' ∧ holds run' := by
  cases move with
  | call call =>
    cases begun : call.run? with
    | none =>
      rw [(call.takesPart.refused begun w).2 traffic] at moved
      cases moved
      exact ⟨run, at_n, so⟩
    | some begun' =>
      simp only [step, begun, Client.launch] at moved
      cases moved
      obtain ⟨short, -⟩ := List.getElem?_eq_some_iff.mp at_n
      exact ⟨run, (List.getElem?_append_left short).trans at_n, so⟩
  | advance m =>
    cases at_m : traffic.runs[m]? with
    | none =>
      simp only [step, at_m] at moved
      cases moved
      exact ⟨run, at_n, so⟩
    | some other =>
      simp only [step, at_m, Activity.bind_apply] at moved
      obtain ⟨⟨⟨flight, events⟩, w₁⟩, advanced, moved⟩ := Option.bind_eq_some_iff.mp moved
      cases moved
      exact update_lasts at_n so at_m fun so => lasts.advanced so advanced
  | drop m =>
    cases at_m : traffic.runs[m]? with
    | none =>
      simp only [step, at_m] at moved
      cases moved
      exact ⟨run, at_n, so⟩
    | some other =>
      simp only [step, at_m, Activity.bind_apply] at moved
      obtain ⟨⟨⟨flight, events⟩, w₁⟩, dropped, moved⟩ := Option.bind_eq_some_iff.mp moved
      cases moved
      exact update_lasts at_n so at_m fun so => lasts.abandoned so dropped
  | hold i =>
    cases moved
    exact ⟨run, at_n, so⟩
  | letGo m =>
    -- a slot of the application is no run
    cases at_m : traffic.held[m]? with
    | none | some guard =>
      simp only [step, at_m] at moved
      cases moved
      exact ⟨run, at_n, so⟩

theorem run_lasts (lasts : Run.Lasts holds) {moves : List Move}
    (at_n : traffic.runs[n]? = some run) (so : holds run)
    (moved : traffic.run moves w = some (traffic', w')) :
    ∃ run', traffic'.runs[n]? = some run' ∧ holds run' := by
  induction moves generalizing traffic run w with
  | nil =>
    obtain ⟨rfl, -⟩ := Prod.mk.inj (Option.some.inj moved)
    exact ⟨run, at_n, so⟩
  | cons move moves ih =>
    rw [Traffic.run, List.foldlM_cons, Activity.bind_apply] at moved
    obtain ⟨⟨next, w₁⟩, stepped, rest⟩ := Option.bind_eq_some_iff.mp moved
    obtain ⟨run₁, at_n₁, so₁⟩ := step_lasts lasts at_n so stepped
    exact ih at_n₁ so₁ rest

end Traffic

/-- What is true of a run as it begins, and lasts, is true of whatever a call begins. -/
theorem Call.holds_of_becomes {P R : Type} {call : Call P R} {client : Client} {request : Request}
    {holds : Run → Prop} {run : Run} (lasts : Run.Lasts holds)
    (launched : ∀ guard, holds ⟨client, ⟨guard, .due request⟩, []⟩)
    (begins : call.run? = some (client, request)) (becomes : call.Becomes run) : holds run := by
  obtain ⟨traffic, traffic', after, w, w', moved, at_n⟩ := becomes
  rw [Traffic.run, List.foldlM_cons, Activity.bind_apply] at moved
  obtain ⟨⟨next, w₁⟩, stepped, rest⟩ := Option.bind_eq_some_iff.mp moved
  simp only [Traffic.step, begins, Client.launch] at stepped
  obtain ⟨rfl, -⟩ := Prod.mk.inj (Option.some.inj stepped)
  obtain ⟨run', at_n', so⟩ := Traffic.run_lasts lasts List.getElem?_concat_length
    (launched _) rest
  obtain rfl := Option.some.inj (at_n.symm.trans at_n')
  exact so

/-- A run stays with its request. -/
theorem Run.isOf_lasts (client : Client) (request : Request) :
    Run.Lasts fun run => run.IsOf client request :=
  ⟨isOf_advanced, isOf_abandoned⟩

/-! ## Executions in full -/

namespace Client

variable {client client' : Client} {request request' : Request}

/-- **An execution keeps to its request.** Whatever goes on besides, all that it sends is what the
request asks for, and a failure leaves the same request to go on with. -/
theorem keeps_of_executes {events : List Event} {ending? : Option Ending}
    (executes : client.Executes request events ending?) :
    client.Keeps request events ending? := by
  cases executes with
  | alone ended journal => exact keeps_of_run ended journal
  | @amid _ _ call run begins becomes =>
    obtain ⟨-, stage, sent⟩ := Call.holds_of_becomes (Run.isOf_lasts client request)
      (Run.isOf_launched client request) begins becomes
    cases reached : run.flight.stage with
    | ended ending =>
      rw [reached] at stage
      exact ⟨sent, stage.outcome, stage.context⟩
    | due | underway | resting | dropped =>
      refine ⟨sent, ?_, ?_⟩ <;> intro _ ended <;> cases ended

/-- A request that is issued again by hand is the same request, and the client the same client. -/
theorem sameContent_of_issues (issues : client.Issues request client' request') :
    client' = client ∧ request'.SameContent request := by
  induction issues with
  | first => exact ⟨rfl, .refl request⟩
  | again _ executes ih =>
    obtain ⟨rfl, same⟩ := ih
    obtain ⟨runner, from_last⟩ := (keeps_of_executes executes).context _ rfl
    exact ⟨runner, (Request.sameContent_nextAttempt _).trans (from_last.trans same)⟩

theorem prepare_of_puts {wire : WireRequest} (puts : client.Puts request wire) :
    request.prepare client.options.headers = .ok wire := by
  obtain ⟨client', request', events, ending?, issues, executes, busy, delivered, mem⟩ := puts
  obtain ⟨rfl, same⟩ := sameContent_of_issues issues
  rw [← Request.prepare_eq_of_sameContent same]
  exact (keeps_of_executes executes).sent wire busy delivered mem

/-- **What goes on the wire is the content of the request.** Two clients with the same headers of
their own and two requests for the same: whatever else tells them apart, and however they are run,
among whatever else and against whatever server, and issued again by hand as often as it may be, all
that goes on the wire in either is one and the same. -/
theorem wire_of_content {client₁ client₂ : Client} {request₁ request₂ : Request}
    (same : request₁.SameContent request₂)
    (headers : client₁.options.headers = client₂.options.headers) {wire₁ wire₂ : WireRequest}
    (puts₁ : client₁.Puts request₁ wire₁) (puts₂ : client₂.Puts request₂ wire₂) :
    wire₁ = wire₂ := by
  have sent₁ := prepare_of_puts puts₁
  have sent₂ := prepare_of_puts puts₂
  rw [Request.prepare_eq_of_sameContent same, headers, sent₂] at sent₁
  exact (Except.ok.inj sent₁).symm

/-- A request that fails, fails again and is issued again by hand, and the same with another number,
spawned by a client that has other options and only begins with it: they send the same. -/
theorem wire_of_content_retried_and_spawned :
    let client₁ := sample 1
    let client₂ : Client :=
      ⟨{ ClientOptions.standard with timeoutMs := 5, maxRetries := 0 }, ⟨3⟩, .log⟩
    let request₁ := sampleRequest 1
    let request₂ := sampleRequest 7
    request₁.SameContent request₂ ∧ client₁.options.headers = client₂.options.headers ∧
    ∃ wire₁ wire₂, client₁.Puts request₁ wire₁ ∧ client₂.Puts request₂ wire₂ ∧ wire₁ = wire₂ := by
  intro client₁ client₂ request₁ request₂
  have same : request₁.SameContent request₂ := ⟨rfl, rfl, rfl, rfl, rfl⟩
  have headers : client₁.options.headers = client₂.options.headers := rfl
  obtain ⟨wire₁, sendable₁⟩ := sampleRequest_sendable 3
  obtain ⟨wire₂, sendable₂⟩ := sampleRequest_sendable 7
  have puts₁ : client₁.Puts request₁ wire₁ := by
    obtain ⟨error₁, w₁, events₁, ended₁, journal₁, -⟩ :=
      @run_sample_down 1 1 (by decide) (by decide)
    obtain ⟨error₂, w₂, events₂, ended₂, journal₂, -⟩ :=
      @run_sample_down 3 0 (by decide) (by decide)
    have next : ((sampleRequest 1).later 1).nextAttempt = sampleRequest 3 := by
      rw [Request.later_nextAttempt]
      rfl
    have again : client₁.Issues request₁ client₁ (sampleRequest 3) :=
      next ▸ Issues.again .first (.alone ended₁ journal₁)
    exact ⟨_, _, _, _, again, .alone ended₂ journal₂, sent_of_run sendable₁ ended₂ journal₂⟩
  have puts₂ : client₂.Puts request₂ wire₂ := by
    let call : Call Unit Unit := .spawnDispatch client₂ request₂ (fun _ _ => pure ()) ()
    let run : Run := ⟨client₂, ⟨⟨⟨3⟩⟩, .underway request₂ wire₂ .unreachable⟩,
      [.started request₂, .sent wire₂ false false]⟩
    have becomes : call.Becomes run := by
      let w : World := ⟨World.nowhere, fun _ => .zero, 0, [], []⟩
      have prepared : request₂.prepare client₂.options.headers = .ok wire₂ := sendable₂
      have advanced : client₂.advance ⟨⟨⟨3⟩⟩, .due request₂⟩ w =
          some (run.flight, { w with sent := 1, journal := run.events }) := by
        simp only [advance, prepared, Activity.bind_apply, Activity.record_apply, Option.bind_some]
        rfl
      refine ⟨.empty, ⟨[run], []⟩, [.advance 0], w,
        { w with sent := 1, journal := run.events }, ?_, rfl⟩
      show ((Activity.observed (client₂.advance ⟨⟨⟨3⟩⟩, .due request₂⟩) w).bind _).bind _ = _
      rw [Traffic.observed_apply advanced rfl]
      rfl
    exact ⟨_, _, _, _, .first, .amid rfl becomes, false, false, .tail _ (.head _)⟩
  exact ⟨same, headers, wire₁, wire₂, puts₁, puts₂, wire_of_content same headers puts₁ puts₂⟩

end Client

end CatalogClient

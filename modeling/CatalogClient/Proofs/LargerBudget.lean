import CatalogClient.Proofs.Beginning
import CatalogClient.Proofs.Wire

/-!
# Runs with a larger budget

Two clients that send alike make the same attempts against servers that answer alike, up to the first
one that is the last for one of them. So a larger budget adds attempts only where the smaller one ran
out (`larger_budget_goes_on`). The scale of the delays takes no part at all.
-/

namespace CatalogClient

/-! ## What is seen of a run -/

/-- What went on the wire, if the event says that something did. -/
def Event.wire? : Event → Option WireRequest
  | .sent wire .. => some wire
  | _ => none

/-- What went on the wire, in order. -/
def wiresIn (events : List Event) : List WireRequest := events.filterMap Event.wire?

theorem wiresIn_sentIn (events : List Event) : wiresIn (sentIn events) = wiresIn events := by
  unfold wiresIn sentIn
  rw [List.filterMap_filter]
  congr 1
  funext event
  cases event <;> rfl

/-- The outcome of a run, with the request as of its last attempt if that failed. -/
def Ending.result : Ending → Except (FetchError × Request) Success
  | .ok success => .ok success
  | .error context => .error (context.error, context.request)

/-- The attempts of a run with their outcomes, what they put on the wire, and what came of the run if
it has ended. -/
structure Course where
  attempts : List Event
  wires : List WireRequest
  result : Option (Except (FetchError × Request) Success)

namespace Course

def ofEvents (events : List Event) (result : Option (Except (FetchError × Request) Success)) :
    Course := ⟨attemptsIn events, wiresIn events, result⟩

/-- The run ended in a success or in a failure that does not pass by itself. -/
def Settled (course : Course) : Prop :=
  (∃ success, course.result = some (.ok success)) ∨
    ∃ error request, course.result = some (.error (error, request)) ∧ error.isTransient = false

/-- The run ended in a failure that may pass by itself. -/
def FailedTransiently (course : Course) : Prop :=
  ∃ error request, course.result = some (.error (error, request)) ∧ error.isTransient = true

/-- One run did what the other did first. -/
structure Begins (course course' : Course) : Prop where
  attempts : course.attempts <+: course'.attempts
  wires : course.wires <+: course'.wires

end Course

namespace Client

/-- What is seen of a run that ends. -/
def course (client : Client) (request : Request) (w : World) : Option Course :=
  (Activity.observed (client.run request) w).map fun p => .ofEvents p.1.2 (some p.1.1.result)

/-- What is seen of a run as far as so many attempts bring it. -/
def courseFor (client : Client) (n : Nat) (request : Request) (w : World) : Option Course :=
  (Activity.observed (client.runFor n request) w).map fun p =>
    .ofEvents p.1.2 (p.1.1.elim (fun _ => none) fun ending => some ending.result)

/-- What is seen of the first `n` attempts at a request. -/
def attemptsMade (client : Client) (request : Request) (w : World) (n : Nat)
    (result : Option (Except (FetchError × Request) Success)) : Course where
  attempts := (List.range n).flatMap fun i =>
    [.started (request.later i), .finished (request.later i) (client.outcomes request w i)]
  wires := match request.prepare client.options.headers with
    | .error _ => []
    | .ok wire => List.replicate n wire
  result := result

/-- What comes of a run whose last attempt is the one so many after the first. -/
def resultAt (client : Client) (request : Request) (w : World) (k : Nat) :
    Except (FetchError × Request) Success :=
  (client.outcomes request w k).mapError fun error => (error, request.later k)

section Course
variable {client : Client} {request : Request} {w : World}

theorem wiresIn_turnsEvents (client : Client) (n : Nat) (request : Request) (w : World) :
    wiresIn (client.turnsEvents n request w) =
      match request.prepare client.options.headers with
      | .error _ => []
      | .ok wire => List.replicate n wire := by
  rw [← wiresIn_sentIn, sentIn_turnsEvents]
  cases request.prepare client.options.headers with
  | error error => rfl
  | ok wire => simp [wiresIn, List.filterMap_map, Function.comp_def, Event.wire?]

theorem ofEvents_turnsEvents (client : Client) (n : Nat) (request : Request) (w : World)
    (result : Option (Except (FetchError × Request) Success)) :
    Course.ofEvents (client.turnsEvents n request w) result =
      client.attemptsMade request w n result := by
  rw [Course.ofEvents, attemptsIn_turnsEvents, wiresIn_turnsEvents]
  rfl

theorem result_endingOf (client : Client) (request : Request) (w : World) (k : Nat) :
    (client.endingOf (request.later k) (client.outcomes request w k)).result =
      client.resultAt request w k := by
  unfold resultAt
  cases client.outcomes request w k <;> rfl

/-- A run that ends is its attempts up to the first one that is the last. -/
theorem course_of_stops {k : Nat} (before : ∀ i < k, ¬ client.Stops request w i)
    (stop : client.Stops request w k) :
    client.course request w =
      some (client.attemptsMade request w (k + 1) (some (client.resultAt request w k))) := by
  rw [course, Traffic.observed_apply (run_of_stops before stop) rfl, Option.map_some,
    ofEvents_turnsEvents, result_endingOf]
  rfl

theorem course_eq_none_iff : client.course request w = none ↔ ∀ i, ¬ client.Stops request w i := by
  rw [← run_eq_none_iff, course, Activity.observed, Option.map_map, Option.map_eq_none_iff]

/-- A run is seen to end where one of its attempts is the last. -/
theorem exists_stops_of_course {course : Course} (seen : client.course request w = some course) :
    ∃ k, (∀ i < k, ¬ client.Stops request w i) ∧ client.Stops request w k ∧
      course = client.attemptsMade request w (k + 1) (some (client.resultAt request w k)) := by
  have ends : ∃ i, client.Stops request w i := by
    by_contra never
    rw [course_eq_none_iff.mpr (not_exists.mp never)] at seen
    cases seen
  obtain ⟨i, stop⟩ := ends
  obtain ⟨k, -, stop, before⟩ := exists_first_stop stop
  rw [course_of_stops before stop] at seen
  exact ⟨k, before, stop, (Option.some.inj seen).symm⟩

theorem courseFor_of_stops {k n : Nat} (before : ∀ i < k, ¬ client.Stops request w i)
    (stop : client.Stops request w k) (enough : k < n) :
    client.courseFor n request w =
      some (client.attemptsMade request w (k + 1) (some (client.resultAt request w k))) := by
  let raised : World := { w with board := w.board.modify client.busy.place .acquire }
  have made : client.runFor n request w = some
      (.done (client.endingOf (request.later k) (client.outcomes request w k)),
        client.afterTurns (k + 1) request raised) := by
    rw [runFor_apply]
    exact followFor_of_stops (w := raised) before stop enough
  rw [courseFor, Traffic.observed_apply made rfl, Option.map_some, ofEvents_turnsEvents]
  simp only [Round.elim, result_endingOf]
  rfl

theorem courseFor_of_not_stops {n : Nat} (before : ∀ i < n, ¬ client.Stops request w i) :
    client.courseFor n request w = some (client.attemptsMade request w n none) := by
  let raised : World := { w with board := w.board.modify client.busy.place .acquire }
  have made : client.runFor n request w = some
      (.again (request.later n), client.afterTurns n request raised) := by
    rw [runFor_apply]
    exact followFor_of_not_stops (w := raised) before
  rw [courseFor, Traffic.observed_apply made rfl, Option.map_some, ofEvents_turnsEvents]
  rfl

end Course

end Client

/-! ## Two runs -/

/-- What is answered from here on is the same in both worlds. -/
def World.AnswersAlike (w w' : World) : Prop :=
  ∀ i, w.network (w.sent + i) = w'.network (w'.sent + i)

namespace Client

section Compare
variable {client client' : Client} {request : Request} {w w' : World}
  (headers : client.options.headers = client'.options.headers) (alike : w.AnswersAlike w')
include headers alike

theorem outcomes_eq_of_answersAlike (i : Nat) :
    client.outcomes request w i = client'.outcomes request w' i := by
  rw [outcomes, outcomes, headers, alike]

theorem attemptsMade_eq (n : Nat) (result : Option (Except (FetchError × Request) Success)) :
    client.attemptsMade request w n result = client'.attemptsMade request w' n result := by
  simp only [attemptsMade, outcomes_eq_of_answersAlike headers alike, headers]

theorem resultAt_eq (k : Nat) : client.resultAt request w k = client'.resultAt request w' k := by
  rw [resultAt, resultAt, outcomes_eq_of_answersAlike headers alike]

/-- Where a larger budget stops, a smaller one has. -/
theorem stops_of_larger (budget : client.options.maxRetries ≤ client'.options.maxRetries) {i : Nat}
    (stop : client'.Stops request w' i) : client.Stops request w i := by
  have budget := UInt32.le_iff_toNat_le.mp budget
  unfold Stops at stop ⊢
  rw [outcomes_eq_of_answersAlike headers alike]
  cases outcome : client'.outcomes request w' i with
  | ok success => trivial
  | error error =>
    rw [outcome] at stop
    exact stop.imp_right fun past => Nat.lt_of_le_of_lt budget past

/-- What does not pass by itself stops a run whatever its budget. -/
theorem stops_of_settled {k : Nat} {course : Course}
    (result : course.result = some (client.resultAt request w k)) (settled : course.Settled) :
    client'.Stops request w' k := by
  rw [resultAt_eq headers alike] at result
  unfold Stops
  unfold resultAt at result
  cases outcome : client'.outcomes request w' k with
  | ok success => trivial
  | error error =>
    rw [outcome] at result
    rcases settled with ⟨success, other⟩ | ⟨error', request', other, lasting⟩
    · cases result.symm.trans other
    · cases result.symm.trans other
      exact .inl lasting

end Compare

/-- The first attempts are among more of them. -/
theorem attemptsMade_begins (client : Client) (request : Request) (w : World) {m n : Nat}
    (le : m ≤ n) (result result' : Option (Except (FetchError × Request) Success)) :
    (client.attemptsMade request w m result).Begins (client.attemptsMade request w n result') := by
  obtain ⟨d, rfl⟩ := Nat.exists_eq_add_of_le le
  constructor
  · simp only [attemptsMade, List.range_add, List.flatMap_append]
    exact List.prefix_append _ _
  · simp only [attemptsMade]
    cases request.prepare client.options.headers with
    | error error => exact List.prefix_refl _
    | ok wire =>
      simp only [List.replicate_add]
      exact List.prefix_append _ _

/-- The second client goes on where the first one ran out of its budget, and nowhere else. -/
structure GoesOn (client client' : Client) (request : Request) (w w' : World) : Prop where
  begins : ∀ course', client'.course request w' = some course' →
    ∃ course, client.course request w = some course ∧ course.Begins course'
  settled : ∀ course, client.course request w = some course → course.Settled →
    client'.course request w' = some course
  differs : ∀ course course', client.course request w = some course →
    client'.course request w' = some course' → course ≠ course' → course.FailedTransiently

variable {client client' : Client} {request : Request} {w w' : World}

theorem goesOn_of_larger (headers : client.options.headers = client'.options.headers)
    (alike : w.AnswersAlike w')
    (budget : client.options.maxRetries ≤ client'.options.maxRetries) :
    client.GoesOn client' request w w' := by
  have settled : ∀ course, client.course request w = some course → course.Settled →
      client'.course request w' = some course := by
    intro course seen settled
    obtain ⟨k, before, stop, rfl⟩ := exists_stops_of_course seen
    have stop' : client'.Stops request w' k := stops_of_settled headers alike rfl settled
    have before' : ∀ i < k, ¬ client'.Stops request w' i :=
      fun i hi h => before i hi (stops_of_larger headers alike budget h)
    rw [course_of_stops before' stop', ← attemptsMade_eq headers alike,
      ← resultAt_eq headers alike]
  refine ⟨?_, settled, ?_⟩
  · intro course' seen'
    obtain ⟨k', -, stop', rfl⟩ := exists_stops_of_course seen'
    obtain ⟨k, early, stop, before⟩ :=
      exists_first_stop (stops_of_larger headers alike budget stop')
    refine ⟨_, course_of_stops before stop, ?_⟩
    rw [← attemptsMade_eq headers alike]
    exact attemptsMade_begins client request w (Nat.succ_le_succ early) _ _
  · intro course course' seen seen' differ
    have unsettled : ¬ course.Settled := by
      intro h
      rw [settled course seen h] at seen'
      exact differ (Option.some.inj seen')
    obtain ⟨k, -, -, rfl⟩ := exists_stops_of_course seen
    -- a run that ended in no success ended in a failure, and this one may pass
    cases outcome : client.outcomes request w k with
    | ok success =>
      refine absurd (.inl ⟨success, ?_⟩) unsettled
      simp only [attemptsMade, resultAt, outcome]
      rfl
    | error error =>
      have result :
          some (client.resultAt request w k) = some (.error (error, request.later k)) := by
        rw [resultAt, outcome]
        rfl
      refine ⟨error, request.later k, result, ?_⟩
      by_contra lasting
      exact unsettled (.inr ⟨error, request.later k, result, Bool.not_eq_true _ ▸ lasting⟩)

/-- With the same budget all is the same: at every number of attempts, and at the end if there is
one. -/
theorem course_eq_of_same (headers : client.options.headers = client'.options.headers)
    (alike : w.AnswersAlike w') (budget : client.options.maxRetries = client'.options.maxRetries) :
    client.course request w = client'.course request w' ∧
      ∀ n, client.courseFor n request w = client'.courseFor n request w' := by
  have same : ∀ i, client.Stops request w i ↔ client'.Stops request w' i := fun i =>
    ⟨stops_of_larger headers.symm (fun i => (alike i).symm) (UInt32.le_of_eq budget.symm),
      stops_of_larger headers alike (UInt32.le_of_eq budget)⟩
  have results : ∀ n result,
      client.attemptsMade request w n result = client'.attemptsMade request w' n result :=
    attemptsMade_eq headers alike
  have ends : ∀ k, client.resultAt request w k = client'.resultAt request w' k :=
    resultAt_eq headers alike
  constructor
  · by_cases stop : ∃ i, client.Stops request w i
    · obtain ⟨i, stop⟩ := stop
      obtain ⟨k, -, stop, before⟩ := exists_first_stop stop
      rw [course_of_stops before stop, results, ends,
        course_of_stops (fun i hi h => before i hi ((same i).mpr h)) ((same k).mp stop)]
    · have never := not_exists.mp stop
      rw [course_eq_none_iff.mpr never,
        course_eq_none_iff.mpr fun i h => never i ((same i).mpr h)]
  · intro n
    by_cases stop : ∃ i < n, client.Stops request w i
    · obtain ⟨i, early, stop⟩ := stop
      obtain ⟨k, earlier, stop, before⟩ := exists_first_stop stop
      have enough : k < n := Nat.lt_of_le_of_lt earlier early
      rw [courseFor_of_stops before stop enough, results, ends,
        courseFor_of_stops (fun i hi h => before i hi ((same i).mpr h)) ((same k).mp stop) enough]
    · have more : ∀ i < n, ¬ client.Stops request w i := fun i hi h => stop ⟨i, hi, h⟩
      rw [courseFor_of_not_stops more, results,
        courseFor_of_not_stops fun i hi h => more i hi ((same i).mpr h)]

/-- **A larger budget only goes on where a smaller one ran out.** Two clients with the same headers
of their own run a request against servers that answer alike, whatever else tells the clients and the
worlds apart. If the second has the larger budget, its run begins as that of the first; it does and
gives the same if that one was settled, and differs only if that one ended in a failure that may
pass. If the budgets are the same, so are the runs, however the delays are scaled. -/
theorem larger_budget_goes_on (client client' : Client) (request : Request) (w w' : World)
    (headers : client.options.headers = client'.options.headers) (alike : w.AnswersAlike w') :
    (client.options.maxRetries ≤ client'.options.maxRetries →
      client.GoesOn client' request w w') ∧
    (client.options.maxRetries = client'.options.maxRetries →
      client.course request w = client'.course request w' ∧
        ∀ n, client.courseFor n request w = client'.courseFor n request w') :=
  ⟨goesOn_of_larger headers alike, course_eq_of_same headers alike⟩

/-- A server that is down for a moment: without a budget the run ends with that, with a budget of two
it goes on to another answer. -/
theorem larger_budget_goes_on_past_outage :
    let client := sample 0
    let client' := sample 2
    let request := sampleRequest 1
    let w := sampleWorld (World.scripted [.response 503 [] "down", .response 404 [] "gone"])
    client.options.headers = client'.options.headers ∧ w.AnswersAlike w ∧
    client.options.maxRetries ≤ client'.options.maxRetries ∧
    ∃ course course', client.course request w = some course ∧
      client'.course request w = some course' ∧ course.Begins course' ∧
      course.FailedTransiently ∧ course'.Settled := by
  intro client client' request w
  have headers : client.options.headers = client'.options.headers := rfl
  have alike : w.AnswersAlike w := fun _ => rfl
  have budget : client.options.maxRetries ≤ client'.options.maxRetries := by decide
  have go : ¬ client'.Stops request w 0 := by rw [stops_sample rfl rfl]; decide
  have stop' : client'.Stops request w 1 := by rw [stops_sample rfl rfl]; decide
  have stop : client.Stops request w 0 := by rw [stops_sample rfl rfl]; decide
  have seen' := course_of_stops (fun i hi => by rwa [Nat.lt_one_iff.mp hi]) stop'
  have seen := course_of_stops (fun i hi => absurd hi (Nat.not_lt_zero i)) stop
  obtain ⟨course, same, begins⟩ :=
    ((larger_budget_goes_on client client' request w w headers alike).1 budget).begins _ seen'
  obtain rfl := Option.some.inj (seen.symm.trans same)
  refine ⟨headers, alike, budget, _, _, seen, seen', begins, ?_, .inr ?_⟩
  · refine ⟨.http 503 "Service Unavailable" "down", request.later 0, congrArg some ?_, rfl⟩
    rw [resultAt, outcomes_sample 0 1 rfl rfl]
    rfl
  · refine ⟨.http 404 "Not Found" "gone", request.later 1, congrArg some ?_, rfl⟩
    rw [resultAt, outcomes_sample 2 1 rfl rfl]
    rfl

end Client

end CatalogClient

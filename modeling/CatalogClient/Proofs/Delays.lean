import CatalogClient.Proofs.Backoff
import CatalogClient.Proofs.Beginning
import Mathlib.Data.List.Chain
import Mathlib.Data.List.Range

/-!
# The delays of a run

Every attempt of a run that is not the last one is followed by a delay, which `retriesIn_turnsEvents`
reads off the journal. On a scale from one to ten thousand each is longer than the one
before, up to that of the sixteenth attempt (`bands_apart`).
-/

namespace CatalogClient

/-! ## What a journal tells of delays -/

/-- The request that will be tried again, with the delay before that. -/
def Event.retry? : Event → Option (Request × Nat)
  | .logged (.retrying request delayMs) => some (request, delayMs)
  | _ => none

/-- The automatic retries that were decided on, in order. -/
def retriesIn (events : List Event) : List (Request × Nat) := events.filterMap Event.retry?

@[simp] theorem retriesIn_append (xs ys : List Event) :
    retriesIn (xs ++ ys) = retriesIn xs ++ retriesIn ys :=
  List.filterMap_append

theorem length_retriesIn (events : List Event) : (retriesIn events).length = retryCount events := by
  induction events with
  | nil => rfl
  | cons event events ih =>
    have one : (retriesIn [event]).length = retryCount [event] := by
      cases event with
      | logged entry => cases entry <;> rfl
      | started | sent | finished | alerted => rfl
    rw [← List.singleton_append, retriesIn_append, List.length_append, one, ih, retryCount_append]

/-- Each retry is that of the attempt after the one before, and up to the sixteenth its delay is
longer. -/
def DelaysGrow (events : List Event) : Prop :=
  (retriesIn events).IsChain fun retry next =>
    next.1 = retry.1.nextAttempt ∧ (retry.1.attempt.toNat < 16 → retry.2 < next.2)

namespace Client

variable {client : Client} {request : Request} {w : World}

/-- What is decided after the attempt so many after the first, if it is not the last one. -/
def retryAt (client : Client) (request : Request) (w : World) (i : Nat) : Request × Nat :=
  (request.later i, client.retryPolicy.backoffMs (request.later i).attempt
    (w.draw (w.sent + (i + 1) * client.sends request)))

theorem retryAt_afterTurn (client : Client) (request : Request) (w : World) (i : Nat) :
    client.retryAt request.nextAttempt (client.afterTurn request w) i =
      client.retryAt request w (i + 1) := by
  have same : client.sends request.nextAttempt = client.sends request := rfl
  have draws : w.sent + client.sends request + (i + 1) * client.sends request =
      w.sent + (i + 1 + 1) * client.sends request := by
    rw [Nat.add_mul (i + 1) 1, Nat.one_mul]
    omega
  rw [retryAt, retryAt, Request.nextAttempt_later, same]
  show (_, client.retryPolicy.backoffMs _
    (w.draw (w.sent + client.sends request + (i + 1) * client.sends request))) = _
  rw [draws]

theorem retriesIn_turnEvents (client : Client) (request : Request) (w : World) :
    retriesIn (client.turnEvents request w) =
      match client.decision request w with
      | .completed _ => []
      | .retryAfter delayMs => [(request, delayMs)] := by
  have begun : retriesIn (client.attemptEvents request w) = [] := by
    unfold attemptEvents
    split <;> rfl
  rw [turnEvents, retriesIn_append, begun]
  cases client.decision request w with
  | completed outcome => cases outcome <;> rfl
  | retryAfter delayMs => rfl

/-- Turns none of which stops the run, and one more that does, if there is one. -/
theorem retriesIn_turnsEvents {k n : Nat} (before : ∀ i < k, ¬ client.Stops request w i)
    (rest : n = k ∨ n = k + 1 ∧ client.Stops request w k) :
    retriesIn (client.turnsEvents n request w) = (List.range k).map (client.retryAt request w) := by
  induction k generalizing request w n with
  | zero =>
    rcases rest with rfl | ⟨rfl, stop⟩
    · rfl
    · rw [turnsEvents, retriesIn_append, retriesIn_turnEvents,
        decision_of_isLast (stops_zero.mp stop)]
      rfl
  | succ k ih =>
    obtain ⟨m, rfl⟩ : ∃ m, n = m + 1 := ⟨n - 1, by omega⟩
    have first : ¬ client.IsLast request.attempt.toNat (client.outcomes request w 0) :=
      fun last => before 0 (Nat.succ_pos k) (stops_zero.mpr last)
    have later : ∀ i < k, ¬ client.Stops request.nextAttempt (client.afterTurn request w) i :=
      fun i hi stop => before (i + 1) (Nat.succ_lt_succ hi) ((stops_succ i).mpr stop)
    have rest' := ih later
      (rest.imp Nat.succ.inj fun h => ⟨Nat.succ.inj h.1, (stops_succ k).mp h.2⟩)
    have here : (request, client.retryPolicy.backoffMs request.attempt
        (w.draw (w.sent + client.sends request))) = client.retryAt request w 0 := by
      rw [retryAt, Request.later_zero, Nat.zero_add, Nat.one_mul]
    rw [turnsEvents, retriesIn_append, retriesIn_turnEvents, decision_of_not_isLast first, rest',
      List.range_succ_eq_map, List.map_cons, List.map_map, ← here]
    exact congrArg _ (List.map_congr_left fun i _ => retryAt_afterTurn client request w i)

section Growing
variable (scaled : client.retryPolicy.Scaled) (numbers : ∀ i, (w.draw i).isNaN = false)
include scaled numbers

theorem retryAt_lt_retryAt_succ {i : Nat} (below : (request.later i).attempt.toNat < 16) :
    (client.retryAt request w i).2 < (client.retryAt request w (i + 1)).2 := by
  have next : (request.later (i + 1)).attempt = (request.later i).attempt.next :=
    (Attempt.next_later request.attempt i).symm
  unfold retryAt
  dsimp only
  rw [next]
  exact RetryPolicy.backoffMs_lt_next scaled below (numbers _) (numbers _)

theorem delaysGrow_turnsEvents {k n : Nat} (before : ∀ i < k, ¬ client.Stops request w i)
    (rest : n = k ∨ n = k + 1 ∧ client.Stops request w k) :
    DelaysGrow (client.turnsEvents n request w) := by
  rw [DelaysGrow, retriesIn_turnsEvents before rest, List.isChain_map, List.isChain_range]
  exact fun i _ => ⟨(request.later_nextAttempt i).symm, retryAt_lt_retryAt_succ scaled numbers⟩

/-- The delays of a run that ends. -/
theorem delaysGrow_run {ending : Ending} {w' : World} {events : List Event}
    (ended : client.run request w = some (ending, w'))
    (journal : w'.journal = w.journal ++ events) : DelaysGrow events := by
  obtain ⟨k, before, stop, -, -, journal'⟩ := turns_of_run ended
  obtain rfl := List.append_cancel_left (journal.symm.trans journal')
  let raised : World := { w with board := w.board.modify client.busy.place .acquire }
  exact delaysGrow_turnsEvents (w := raised) scaled numbers before (.inr ⟨rfl, stop⟩)

/-- The delays of as many attempts as one looks at, whether or not the run ends. -/
theorem delaysGrow_runFor (n : Nat) (request : Request) :
    ∃ round w' events, client.runFor n request w = some (round, w') ∧
      w'.journal = w.journal ++ events ∧ DelaysGrow events := by
  let raised : World := { w with board := w.board.modify client.busy.place .acquire }
  by_cases stop : ∃ i < n, client.Stops request w i
  · obtain ⟨i, early, stop⟩ := stop
    obtain ⟨k, earlier, stop, before⟩ := exists_first_stop stop
    have made := followFor_of_stops (w := raised) before stop (Nat.lt_of_le_of_lt earlier early)
    refine ⟨_, _, _, (runFor_apply client n request w).trans made, rfl, ?_⟩
    exact delaysGrow_turnsEvents (w := raised) scaled numbers before (.inr ⟨rfl, stop⟩)
  · have before : ∀ i < n, ¬ client.Stops request w i := fun i hi h => stop ⟨i, hi, h⟩
    have made := followFor_of_not_stops (w := raised) before
    refine ⟨_, _, _, (runFor_apply client n request w).trans made, rfl, ?_⟩
    exact delaysGrow_turnsEvents (w := raised) scaled numbers before (.inl rfl)

end Growing

/-- **Bands of delays do not overlap.** On a scale from one to ten thousand every delay of an attempt
below the sixteenth is shorter than every one of the next attempt, whatever is drawn. So the delays
of a run grow up to the sixteenth attempt, in a run that ends and in as much as one sees of any run.
From the sixteenth attempt on delays do not depend on the attempt. -/
theorem bands_apart :
    (∀ (policy : RetryPolicy) (attempt : Attempt) (draw draw' : Binary64), policy.Scaled →
      attempt.toNat < 16 → draw.isNaN = false → draw'.isNaN = false →
      policy.backoffMs attempt draw < policy.backoffMs attempt.next draw') ∧
    (∀ (client : Client) (request : Request) (w : World), client.retryPolicy.Scaled →
      (∀ i, (w.draw i).isNaN = false) →
      (∀ ending w' events, client.run request w = some (ending, w') →
        w'.journal = w.journal ++ events → DelaysGrow events) ∧
      ∀ n, ∃ round w' events, client.runFor n request w = some (round, w') ∧
        w'.journal = w.journal ++ events ∧ DelaysGrow events) ∧
    ∀ (policy : RetryPolicy) (attempt : Attempt) (draw : Binary64), 16 ≤ attempt.toNat →
      policy.backoffMs attempt draw = policy.backoffMs 16 draw := by
  refine ⟨?_, ?_, ?_⟩
  · intro policy attempt draw draw' scaled below number number'
    exact RetryPolicy.backoffMs_lt_next scaled below number number'
  · intro client request w scaled numbers
    refine ⟨?_, fun n => delaysGrow_runFor scaled numbers n request⟩
    intro ending w' events ended journal
    exact delaysGrow_run scaled numbers ended journal
  · intro policy attempt draw past
    exact RetryPolicy.backoffMs_eq_growthEnd policy past draw

/-- Two retries on the standard scale, without a draw. -/
theorem bands_apart_two_retries :
    let network :=
      World.scripted [.response 504 [] "slow", .response 408 [] "slow", .response 503 [] "down"]
    let client := sample 1
    let request := sampleRequest 0
    let w := sampleWorld network
    client.retryPolicy.backoffMs 0 .one < client.retryPolicy.backoffMs 1 .zero ∧
    client.retryPolicy.backoffMs 17 .one = client.retryPolicy.backoffMs 16 .one ∧
    ∃ ending w' events, client.run request w = some (ending, w') ∧
      w'.journal = w.journal ++ events ∧ (retriesIn events).length = 2 ∧ DelaysGrow events := by
  intro network client request w
  have a0 : network 0 = .response 504 [] "slow" := rfl
  have a1 : network 1 = .response 408 [] "slow" := rfl
  have a2 : network 2 = .response 503 [] "down" := rfl
  have go0 : ¬ client.Stops request w 0 := by rw [stops_sample a0 rfl]; decide
  have go1 : ¬ client.Stops request w 1 := by rw [stops_sample a1 rfl]; decide
  have stop2 : client.Stops request w 2 := by rw [stops_sample a2 rfl]; decide
  have before : ∀ i < 2, ¬ client.Stops request w i := by
    intro i hi
    cases i with
    | zero => exact go0
    | succ i => rw [show i = 0 by omega]; exact go1
  obtain ⟨bands, runs, past⟩ := bands_apart
  have scaled : client.retryPolicy.Scaled := ⟨by decide +kernel, by decide +kernel⟩
  have numbers : ∀ i, (w.draw i).isNaN = false := fun _ => rfl
  obtain ⟨w', events, ended, journal, -, -, retries⟩ := run_eq_some before stop2
  refine ⟨bands _ 0 .one .zero scaled (by decide) (by decide +kernel) rfl,
    past _ 17 .one (by decide), _, w', events, ended, journal, ?_, ?_⟩
  · rw [length_retriesIn, retries]
  · exact (runs client request w scaled numbers).1 _ w' events ended journal

end Client

end CatalogClient

import CatalogClient.Proofs.Attempts
import Mathlib.Data.Nat.Find
import Mathlib.Order.Bounds.Basic

/-!
# What a run comes to

A run makes attempts until the first one that is the last of its run (`run_of_stops`), and gives
that one's outcome as it is (`run_eq_some`). Where no attempt is the last one, the run never ends,
and there is no other way not to end (`run_eq_none_iff`).
-/

namespace CatalogClient

namespace Client

variable {client : Client} {request : Request} {w : World}

/-- The attempt so many after the first would be the last of its run. -/
def Stops (client : Client) (request : Request) (w : World) (i : Nat) : Prop :=
  client.IsLast (min (request.attempt.toNat + i) 4294967295) (client.outcomes request w i)

theorem stops_zero :
    client.Stops request w 0 ↔
      client.IsLast request.attempt.toNat (client.outcomes request w 0) := by
  have := request.attempt.toNat_lt
  unfold Stops
  rw [show min (request.attempt.toNat + 0) 4294967295 = request.attempt.toNat by omega]

theorem stops_succ (i : Nat) :
    client.Stops request w (i + 1) ↔
      client.Stops request.nextAttempt (client.afterTurn request w) i := by
  have number : min (request.nextAttempt.attempt.toNat + i) 4294967295 =
      min (request.attempt.toNat + (i + 1)) 4294967295 := by
    show min (request.attempt.next.toNat + i) 4294967295 = _
    rw [Attempt.toNat_next]
    omega
  unfold Stops
  rw [outcomes_afterTurn, number]

theorem isLeast_stops {k : Nat} (before : ∀ i < k, ¬ client.Stops request w i)
    (stop : client.Stops request w k) : IsLeast {i | client.Stops request w i} k :=
  ⟨stop, fun i h => Nat.le_of_not_lt fun hi => before i hi h⟩

/-! ## Following a request -/

/-- A request is followed up to the first attempt that is the last one. -/
theorem follow_eq_some {k : Nat} (before : ∀ i < k, ¬ client.Stops request w i)
    (stop : client.Stops request w k) :
    client.follow request w =
      some (client.endingOf (request.later k) (client.outcomes request w k),
        client.afterTurns (k + 1) request w) := by
  induction k generalizing request w with
  | zero =>
    rw [follow_of_isLast (stops_zero.mp stop), afterTurns_succ, Request.later_zero]
    simp [afterTurns, turnsEvents]
  | succ k ih =>
    have first : ¬ client.Stops request w 0 := before 0 (Nat.succ_pos k)
    rw [follow_of_not_isLast (fun last => first (stops_zero.mpr last)), afterTurns_succ]
    have rest := ih (fun i hi h => before (i + 1) (Nat.succ_lt_succ hi) ((stops_succ i).mpr h))
      ((stops_succ k).mp stop)
    rw [rest, outcomes_afterTurn, Request.nextAttempt_later]

/-- Whatever has a result has made a last attempt. -/
theorem stops_of_follow {x : Ending × World} (h : client.follow request w = some x) :
    ∃ k, client.Stops request w k := by
  -- by induction on the rounds of the loop: either the first attempt was the last one, or the
  -- stop of the rest is one attempt further from here
  refine World.loop_result (P := fun request w _ => ∃ k, client.Stops request w k) ?_ ?_ h
  · intro request ending w w' made
    by_cases first : client.Stops request w 0
    · exact ⟨0, first⟩
    · rw [turn_apply, decision_of_not_isLast (fun h => first (stops_zero.mpr h))] at made
      cases made
  · intro request request' w w' x made ih
    by_cases first : client.Stops request w 0
    · exact ⟨0, first⟩
    · rw [turn_apply, decision_of_not_isLast (fun h => first (stops_zero.mpr h))] at made
      cases made
      obtain ⟨k, stop⟩ := ih
      exact ⟨k + 1, (stops_succ k).mpr stop⟩

/-! ## What so many turns write -/

/-- The beginnings and ends of attempts, each end before the next beginning. -/
theorem attemptsIn_turnsEvents (n : Nat) :
    attemptsIn (client.turnsEvents n request w) = (List.range n).flatMap fun i =>
      [.started (request.later i), .finished (request.later i) (client.outcomes request w i)] := by
  induction n generalizing request w with
  | zero => rfl
  | succ n ih =>
    rw [turnsEvents, attemptsIn_append, attemptsIn_turnEvents, ih, List.range_succ_eq_map,
      List.flatMap_cons, List.flatMap_map, Request.later_zero]
    simp only [outcomes_afterTurn, Request.nextAttempt_later]

theorem attemptNumbers_turnsEvents (n : Nat) :
    attemptNumbers (client.turnsEvents n request w) =
      (List.range n).map request.attempt.later := by
  rw [← attemptNumbers_attemptsIn, attemptsIn_turnsEvents]
  induction List.range n with
  | nil => rfl
  | cons i is ih =>
    rw [List.flatMap_cons, attemptNumbers_append, ih]
    rfl

/-- As many retries as there are turns before the one that stops. -/
theorem retryCount_of_stops {k : Nat} (before : ∀ i < k, ¬ client.Stops request w i)
    (stop : client.Stops request w k) :
    retryCount (client.turnsEvents (k + 1) request w) = k := by
  classical
  induction k generalizing request w with
  | zero =>
    rw [turnsEvents, retryCount_append, retryCount_turnEvents, if_pos (stops_zero.mp stop)]
    rfl
  | succ k ih =>
    have first := before 0 (Nat.succ_pos k)
    have rest := ih (fun i hi h => before (i + 1) (Nat.succ_lt_succ hi) ((stops_succ i).mpr h))
      ((stops_succ k).mp stop)
    rw [turnsEvents, retryCount_append, rest, retryCount_turnEvents,
      if_neg (fun last => first (stops_zero.mpr last)), Nat.add_comm]

/-! ## Whole runs -/

/-- A run follows its request with a slot of the indicator taken, and gives the slot back. -/
theorem run_apply (client : Client) (request : Request) (w : World) :
    client.run request w =
      (client.follow request { w with board := w.board.modify client.busy.place .acquire }).map
        fun p => (p.1, { p.2 with board := p.2.board.modify client.busy.place .release }) := by
  simp only [run, Activity.bind_apply, Activity.acquire_apply, Option.bind_some]
  cases client.follow request _ <;> rfl

/-- A run that stops is its turns up to there, with the indicator raised. -/
theorem run_of_stops {k : Nat} (before : ∀ i < k, ¬ client.Stops request w i)
    (stop : client.Stops request w k) :
    client.run request w =
      some (client.endingOf (request.later k) (client.outcomes request w k),
        { client.afterTurns (k + 1) request
            { w with board := w.board.modify client.busy.place .acquire } with
          board := (w.board.modify client.busy.place .acquire).modify client.busy.place
            .release }) := by
  -- taking a slot changes nothing that outcomes depend on
  let raised : World := { w with board := w.board.modify client.busy.place .acquire }
  rw [run_apply, follow_eq_some (w := raised) before stop]
  rfl

theorem run_eq_some {k : Nat} (before : ∀ i < k, ¬ client.Stops request w i)
    (stop : client.Stops request w k) :
    ∃ w' events, client.run request w =
        some (client.endingOf (request.later k) (client.outcomes request w k), w') ∧
      w'.journal = w.journal ++ events ∧
      attemptsIn events = (List.range (k + 1)).flatMap (fun i =>
        [.started (request.later i),
          .finished (request.later i) (client.outcomes request w i)]) ∧
      attemptNumbers events = (List.range (k + 1)).map request.attempt.later ∧
      retryCount events = k := by
  let raised : World := { w with board := w.board.modify client.busy.place .acquire }
  refine ⟨_, client.turnsEvents (k + 1) request raised, run_of_stops before stop, rfl, ?_, ?_, ?_⟩
  · exact attemptsIn_turnsEvents (k + 1)
  · exact attemptNumbers_turnsEvents (k + 1)
  · exact retryCount_of_stops (w := raised) before stop

/-- The first attempt of a run that is the last one, if there is any. -/
theorem exists_first_stop {i : Nat} (h : client.Stops request w i) :
    ∃ k ≤ i, client.Stops request w k ∧ ∀ j < k, ¬ client.Stops request w j := by
  classical
  have some_stop : ∃ k, client.Stops request w k := ⟨i, h⟩
  exact ⟨Nat.find some_stop, Nat.find_min' some_stop h, Nat.find_spec some_stop,
    fun j hj => Nat.find_min some_stop hj⟩

/-- A run that never ends: every attempt gives way to another one. -/
theorem run_eq_none_iff :
    client.run request w = none ↔ ∀ i, ¬ client.Stops request w i := by
  constructor
  · intro never i stop
    obtain ⟨k, -, stop, before⟩ := exists_first_stop stop
    obtain ⟨w', events, ended, -⟩ := run_eq_some before stop
    rw [never] at ended
    cases ended
  · intro never
    rw [run_apply, Option.map_eq_none_iff, Option.eq_none_iff_forall_ne_some]
    intro x ended
    obtain ⟨k, stop⟩ := stops_of_follow ended
    exact never k stop

theorem exists_stops_of_run {x : Ending × World} (ended : client.run request w = some x) :
    ∃ i, client.Stops request w i := by
  by_contra never
  rw [run_eq_none_iff.mpr (not_exists.mp never)] at ended
  cases ended

/-- A run that ended made its turns up to the first that stops it, with the indicator raised. -/
theorem turns_of_run {ending : Ending} {w' : World}
    (ended : client.run request w = some (ending, w')) :
    ∃ k, (∀ i < k, ¬ client.Stops request w i) ∧ client.Stops request w k ∧
      ending = client.endingOf (request.later k) (client.outcomes request w k) ∧
      w'.sent = w.sent + (k + 1) * client.sends request ∧
      w'.journal = w.journal ++ client.turnsEvents (k + 1) request
        { w with board := w.board.modify client.busy.place .acquire } := by
  obtain ⟨i, stop⟩ := exists_stops_of_run ended
  obtain ⟨k, -, stop, before⟩ := exists_first_stop stop
  rw [run_of_stops before stop] at ended
  obtain ⟨rfl, rfl⟩ := Prod.mk.inj (Option.some.inj ended)
  exact ⟨k, before, stop, rfl, rfl, rfl⟩

/-- What a run that ended made of its request. -/
theorem run_result {ending : Ending} {w' : World} {events : List Event}
    (ended : client.run request w = some (ending, w'))
    (journal : w'.journal = w.journal ++ events) :
    ∃ k, (∀ i < k, ¬ client.Stops request w i) ∧ client.Stops request w k ∧
      ending = client.endingOf (request.later k) (client.outcomes request w k) ∧
      attemptNumbers events = (List.range (k + 1)).map request.attempt.later ∧
      retryCount events = k := by
  obtain ⟨k, before, stop, rfl, -, journal'⟩ := turns_of_run ended
  obtain rfl := List.append_cancel_left (journal.symm.trans journal')
  let raised : World := { w with board := w.board.modify client.busy.place .acquire }
  exact ⟨k, before, stop, rfl, attemptNumbers_turnsEvents (k + 1),
    retryCount_of_stops (w := raised) before stop⟩

/-! ## A client with a server that has prepared answers -/

/-- A client with a budget of its own, otherwise as usual. -/
def sample (maxRetries : UInt32) : Client :=
  ⟨{ ClientOptions.standard with maxRetries }, ⟨0⟩, .user⟩

/-- A request that starts at an attempt of its own. -/
def sampleRequest (attempt : Attempt) : Request :=
  (Request.new .get "http://h/schema").withAttempt attempt

def sampleWorld (network : Nat → Arrival) : World :=
  (World.start network (fun _ => .zero) true).2

theorem sampleRequest_sendable (attempt : Attempt) :
    ∃ wire, (sampleRequest attempt).prepare ClientOptions.standard.headers = .ok wire := by
  rw [sampleRequest, Request.prepare_withAttempt]
  have sendable : ((Request.new .get "http://h/schema").prepare
      ClientOptions.standard.headers).isOk = true := by rfl
  cases prepared : (Request.new .get "http://h/schema").prepare ClientOptions.standard.headers with
  | error fault => rw [prepared] at sendable; cases sendable
  | ok wire => exact ⟨wire, rfl⟩

/-- An answer that is not a success is the outcome of the attempt it answers. -/
theorem outcomes_sample {network : Nat → Arrival} {i : Nat} {status : Status}
    {headers : List (String × String)} {body : String} (maxRetries : UInt32) (attempt : Attempt)
    (answer : network i = .response status headers body) (failing : status.isSuccess = false) :
    (sample maxRetries).outcomes (sampleRequest attempt) (sampleWorld network) i =
      .error (.http status (status.reasonPhrase?.getD "") body) := by
  obtain ⟨wire, sendable⟩ := sampleRequest_sendable attempt
  have here : (sampleWorld network).network ((sampleWorld network).sent + i) =
      .response status headers body := by
    show network (0 + i) = _
    rw [Nat.zero_add, answer]
  unfold outcomes
  rw [show (sample maxRetries).options.headers = ClientOptions.standard.headers from rfl, sendable]
  show ((sampleWorld network).network ((sampleWorld network).sent + i)).outcome wire = _
  rw [here]
  simp [Arrival.outcome, failing]

theorem stops_sample {network : Nat → Arrival} {i : Nat} {status : Status}
    {headers : List (String × String)} {body : String} {maxRetries : UInt32} {attempt : Attempt}
    (answer : network i = .response status headers body) (failing : status.isSuccess = false) :
    (sample maxRetries).Stops (sampleRequest attempt) (sampleWorld network) i ↔
      status.isRetryable = false ∨ maxRetries.toNat < min (attempt.toNat + i) 4294967295 := by
  unfold Stops
  rw [outcomes_sample maxRetries attempt answer failing]
  rfl

/-! ## Runs in full -/

/-- **A run is its attempts up to the first last one.** Let `k` be the least number of attempts
after which the outcome is a success or a failure that does not pass by itself, or the attempt's
number exceeds the budget. Then the run makes `k + 1` attempts, each once the outcome of the one
before is known, and gives the outcome of the last one as it is. Either each attempt puts one request
on the wire or none of them does. -/
theorem run_until_first_last (client : Client) (request : Request) (w : World) (k : Nat)
    (first : IsLeast {i | client.IsLast (min (request.attempt.toNat + i) 4294967295)
      (client.outcomes request w i)} k) :
    ∃ w' events,
      client.run request w =
        some (client.endingOf (request.later k) (client.outcomes request w k), w') ∧
      client.execute request w = some (client.outcomes request w k, w') ∧
      w'.journal = w.journal ++ events ∧
      attemptsIn events = (List.range (k + 1)).flatMap (fun i =>
        [.started (request.later i),
          .finished (request.later i) (client.outcomes request w i)]) ∧
      (∀ i, request.later i = { request with attempt := (request.later i).attempt } ∧
        (request.later i).attempt.toNat = min (request.attempt.toNat + i) 4294967295) ∧
      (∀ i < k, ∃ error, client.outcomes request w i = .error error ∧ error.isTransient = true) ∧
      w'.sent = w.sent + (k + 1) * client.sends request ∧ client.sends request ≤ 1 := by
  have before : ∀ i < k, ¬ client.Stops request w i :=
    fun i hi stop => absurd (first.2 stop) (Nat.not_le.mpr hi)
  let raised : World := { w with board := w.board.modify client.busy.place .acquire }
  have ended := run_of_stops before first.1
  refine ⟨_, client.turnsEvents (k + 1) request raised, ended, ?_, rfl, attemptsIn_turnsEvents _,
    ?_, ?_, rfl, sends_le_one client request⟩
  · simp only [execute, Activity.bind_apply, ended, Option.bind_some, outcome_endingOf,
      Activity.pure_apply]
  · exact fun i => ⟨rfl, request.toNat_attempt_later i⟩
  · exact fun i hi => (transient_of_not_isLast (before i hi)).1

/-- Attempts 0 and 1 are within a budget of one, attempt 2 is not. -/
theorem run_until_first_last_past_budget :
    let network :=
      World.scripted [.response 504 [] "slow", .response 408 [] "slow", .response 503 [] "down"]
    let client := sample 1
    let request := sampleRequest 0
    let w := sampleWorld network
    IsLeast {i | client.IsLast (min (request.attempt.toNat + i) 4294967295)
      (client.outcomes request w i)} 2 ∧
    ∃ w' events,
      client.run request w =
        some (client.endingOf (request.later 2) (client.outcomes request w 2), w') ∧
      client.execute request w = some (client.outcomes request w 2, w') ∧
      w'.journal = w.journal ++ events ∧
      attemptsIn events = (List.range (2 + 1)).flatMap (fun i =>
        [.started (request.later i),
          .finished (request.later i) (client.outcomes request w i)]) ∧
      (∀ i, request.later i = { request with attempt := (request.later i).attempt } ∧
        (request.later i).attempt.toNat = min (request.attempt.toNat + i) 4294967295) ∧
      (∀ i < 2, ∃ error, client.outcomes request w i = .error error ∧ error.isTransient = true) ∧
      w'.sent = w.sent + (2 + 1) * client.sends request ∧ client.sends request ≤ 1 := by
  intro network client request w
  have a0 : network 0 = .response 504 [] "slow" := rfl
  have a1 : network 1 = .response 408 [] "slow" := rfl
  have a2 : network 2 = .response 503 [] "down" := rfl
  have go0 : ¬ client.Stops request w 0 := by rw [stops_sample a0 rfl]; decide
  have go1 : ¬ client.Stops request w 1 := by rw [stops_sample a1 rfl]; decide
  have stop2 : client.Stops request w 2 := by rw [stops_sample a2 rfl]; decide
  have before : ∀ i < 2, ¬ client.Stops request w i := by
    intro i hi
    cases i with
    | zero => exact go0
    | succ i => rw [show i = 0 by omega]; exact go1
  have first := isLeast_stops before stop2
  exact ⟨first, run_until_first_last client request w 2 first⟩

end Client

end CatalogClient

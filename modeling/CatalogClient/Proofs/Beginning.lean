import CatalogClient.Proofs.Run

/-!
# The beginning of a run

A run that never ends gives no result, but it does make attempts. `Client.runFor` is a run as far as a
number of attempts bring it, and `run_eq_runFor` says that every run begins like that. Which attempts
these are is known from the first one that is the last, as for a whole run (`turns_of_run`).
-/

namespace CatalogClient

namespace Client

/-- Makes attempts as `follow` does, at most so many. -/
def followFor (client : Client) : Nat → Request → Activity (Round Request Ending)
  | 0, request => return .again request
  | n + 1, request => do
    match ← client.turn request with
    | .again request => client.followFor n request
    | .done ending => return .done ending

/-- A run as far as so many attempts bring it. The indicator stays raised. -/
def runFor (client : Client) (n : Nat) (request : Request) : Activity (Round Request Ending) := do
  let _ ← Activity.acquire client.busy
  client.followFor n request

variable {client : Client} {request : Request} {w : World}

theorem followFor_succ_apply (n : Nat) (request : Request) (w : World) :
    client.followFor (n + 1) request w = (client.turn request w).bind fun p =>
      p.1.elim (fun request => client.followFor n request p.2) fun ending =>
        some (.done ending, p.2) := by
  rw [followFor, Activity.bind_apply]
  congr 1
  funext p
  obtain ⟨round, w'⟩ := p
  cases round <;> rfl

/-- Whatever the number, following a request begins with so many attempts. -/
theorem follow_eq_followFor (client : Client) (n : Nat) (request : Request) :
    client.follow request = client.followFor n request >>= Round.elim client.follow pure := by
  induction n generalizing request with
  | zero => rfl
  | succ n ih =>
    funext w
    rw [follow, World.loop_apply, Activity.bind_apply, followFor_succ_apply, Option.bind_assoc]
    congr 1
    funext p
    obtain ⟨round, w'⟩ := p
    cases round with
    | again request' => exact congrFun (ih request') w'
    | done ending => rfl

/-- Whatever the number, a run begins with so many attempts, and what is left of it after them is to
follow the request further and to let the indicator go. -/
theorem run_eq_runFor (client : Client) (n : Nat) (request : Request) :
    client.run request = do
      let ending ← client.runFor n request >>= Round.elim client.follow pure
      Activity.release ⟨client.busy⟩
      return ending := by
  funext w
  simp only [run, runFor, Activity.bind_apply, Activity.acquire_apply, Option.bind_some,
    follow_eq_followFor client n request]

theorem runFor_apply (client : Client) (n : Nat) (request : Request) (w : World) :
    client.runFor n request w =
      client.followFor n request { w with board := w.board.modify client.busy.place .acquire } := by
  rw [runFor, Activity.bind_apply, Activity.acquire_apply, Option.bind_some]

/-! ## Which attempts are made -/

/-- Attempts none of which is the last all give way to another. -/
theorem followFor_of_not_stops {n : Nat} (before : ∀ i < n, ¬ client.Stops request w i) :
    client.followFor n request w =
      some (.again (request.later n), client.afterTurns n request w) := by
  induction n generalizing request w with
  | zero =>
    rw [Request.later_zero]
    simp [followFor, afterTurns, turnsEvents]
  | succ n ih =>
    have first : ¬ client.IsLast request.attempt.toNat (client.outcomes request w 0) :=
      fun last => before 0 (Nat.succ_pos n) (stops_zero.mpr last)
    have later : ∀ i < n, ¬ client.Stops request.nextAttempt (client.afterTurn request w) i :=
      fun i hi stop => before (i + 1) (Nat.succ_lt_succ hi) ((stops_succ i).mpr stop)
    have rest := ih later
    rw [followFor_succ_apply, turn_apply, decision_of_not_isLast first, afterTurns_succ,
      ← Request.nextAttempt_later]
    exact rest

/-- Attempts of which one is the last end with it. -/
theorem followFor_of_stops {k n : Nat} (before : ∀ i < k, ¬ client.Stops request w i)
    (stop : client.Stops request w k) (enough : k < n) :
    client.followFor n request w =
      some (.done (client.endingOf (request.later k) (client.outcomes request w k)),
        client.afterTurns (k + 1) request w) := by
  induction k generalizing request w n with
  | zero =>
    obtain ⟨n, rfl⟩ := Nat.exists_eq_succ_of_ne_zero (Nat.ne_of_gt enough)
    rw [followFor_succ_apply, turn_apply, decision_of_isLast (stops_zero.mp stop), afterTurns_succ,
      Request.later_zero]
    simp [afterTurns, turnsEvents, roundOf, Round.elim]
  | succ k ih =>
    obtain ⟨n, rfl⟩ := Nat.exists_eq_succ_of_ne_zero (Nat.ne_of_gt (Nat.zero_lt_of_lt enough))
    have first : ¬ client.IsLast request.attempt.toNat (client.outcomes request w 0) :=
      fun last => before 0 (Nat.succ_pos k) (stops_zero.mpr last)
    have later : ∀ i < k, ¬ client.Stops request.nextAttempt (client.afterTurn request w) i :=
      fun i hi stop => before (i + 1) (Nat.succ_lt_succ hi) ((stops_succ i).mpr stop)
    have rest := ih later ((stops_succ k).mp stop) (Nat.lt_of_succ_lt_succ enough)
    rw [followFor_succ_apply, turn_apply, decision_of_not_isLast first, afterTurns_succ,
      ← Request.nextAttempt_later, ← outcomes_afterTurn]
    exact rest

end Client

end CatalogClient

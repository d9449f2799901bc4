import CatalogClient.Client.Calls
import CatalogClient.Proofs.Activity

/-!
# One attempt after the other

The outcomes that the attempts at a request have from a world on, and what the client does with
them. `Client.afterTurn` is the world after one attempt and the decision on it, `Client.afterTurns`
the world after several. `follow_of_isLast` and `follow_of_not_isLast` say that `Client.follow`
is no more than turns up to the first one that is the last.
-/

namespace CatalogClient

/-! ## Later attempts -/

namespace Attempt

/-- The number of the attempt so many after this one. -/
def later (a : Attempt) (i : Nat) : Attempt := UInt32.ofNat (min (a.toNat + i) 4294967295)

theorem toNat_later (a : Attempt) (i : Nat) :
    (a.later i).toNat = min (a.toNat + i) 4294967295 := by
  unfold later
  rw [UInt32.toNat_ofNat_of_lt']
  show min (a.toNat + i) 4294967295 < 4294967296
  omega

@[simp] theorem later_zero (a : Attempt) : a.later 0 = a := by
  apply UInt32.toNat_inj.mp
  have := a.toNat_lt
  rw [toNat_later]
  omega

theorem later_next (a : Attempt) (i : Nat) : a.next.later i = a.later (i + 1) := by
  apply UInt32.toNat_inj.mp
  rw [toNat_later, toNat_later, toNat_next]
  omega

theorem next_later (a : Attempt) (i : Nat) : (a.later i).next = a.later (i + 1) := by
  apply UInt32.toNat_inj.mp
  rw [toNat_next, toNat_later, toNat_later]
  omega

theorem later_later (a : Attempt) (i j : Nat) : (a.later i).later j = a.later (i + j) := by
  apply UInt32.toNat_inj.mp
  simp only [toNat_later]
  omega

end Attempt

namespace Request

/-- The same request, so many attempts later. -/
def later (request : Request) (i : Nat) : Request :=
  { request with attempt := request.attempt.later i }

@[simp] theorem later_zero (request : Request) : request.later 0 = request := by
  simp [later]

theorem nextAttempt_later (request : Request) (i : Nat) :
    request.nextAttempt.later i = request.later (i + 1) := by
  simp [later, nextAttempt, Attempt.later_next]

theorem later_nextAttempt (request : Request) (i : Nat) :
    (request.later i).nextAttempt = request.later (i + 1) := by
  simp [later, nextAttempt, Attempt.next_later]

theorem later_later (request : Request) (i j : Nat) :
    (request.later i).later j = request.later (i + j) := by
  simp [later, Attempt.later_later]

theorem toNat_attempt_later (request : Request) (i : Nat) :
    (request.later i).attempt.toNat = min (request.attempt.toNat + i) 4294967295 :=
  Attempt.toNat_later request.attempt i

/-- The attempt number takes no part in what is sent. -/
theorem prepare_withAttempt (request : Request) (attempt : Attempt)
    (own : List (String × String)) :
    (request.withAttempt attempt).prepare own = request.prepare own := rfl

end Request

/-! ## Outcomes -/

namespace Client

/-- The outcomes of the attempts at a request from a world on, counted from zero: the failure that
keeps the request from being sent, or else what the network has in turn for it. -/
def outcomes (client : Client) (request : Request) (w : World) (i : Nat) : Outcome :=
  match request.prepare client.options.headers with
  | .error error => .error error
  | .ok wire => (w.network (w.sent + i)).outcome wire

/-- An attempt with this number and this outcome is the last one of its run. -/
def IsLast (client : Client) (number : Nat) : Outcome → Prop
  | .ok _ => True
  | .error error => error.isTransient = false ∨ client.options.maxRetries.toNat < number

/-- How a run ends whose last attempt was at this request and had this outcome. -/
def endingOf (client : Client) (request : Request) : Outcome → Ending
  | .ok success => .ok success
  | .error error => .error ⟨error, request, client⟩

/-- An outcome that an attempt can have without being the last one. -/
theorem transient_of_not_isLast {client : Client} {number : Nat} {outcome : Outcome}
    (h : ¬ client.IsLast number outcome) :
    (∃ error, outcome = .error error ∧ error.isTransient = true) ∧
      number ≤ client.options.maxRetries.toNat := by
  cases outcome with
  | ok success => exact absurd trivial h
  | error error =>
    simp only [IsLast, not_or, Bool.not_eq_false, Nat.not_lt] at h
    exact ⟨⟨error, rfl, h.1⟩, h.2⟩

theorem outcome_endingOf (client : Client) (request : Request) (outcome : Outcome) :
    (client.endingOf request outcome).outcome = outcome := by
  cases outcome <;> rfl

/-! ## Decisions -/

theorem nextStep_of_isLast {client : Client} {attempt : Attempt} {outcome : Outcome}
    (draw : Binary64) (h : client.IsLast attempt.toNat outcome) :
    client.retryPolicy.nextStep attempt draw outcome = .completed outcome := by
  cases outcome with
  | ok success => rfl
  | error error =>
    have refused : client.retryPolicy.shouldRetry attempt error = false := by
      unfold RetryPolicy.shouldRetry
      rcases h with h | h
      · simp [h]
      · have : ¬ attempt ≤ client.retryPolicy.maxRetries := by
          rw [UInt32.le_iff_toNat_le]
          exact Nat.not_le.mpr h
        simp [this]
    simp [RetryPolicy.nextStep, refused]

theorem nextStep_of_not_isLast {client : Client} {attempt : Attempt} {outcome : Outcome}
    (draw : Binary64) (h : ¬ client.IsLast attempt.toNat outcome) :
    client.retryPolicy.nextStep attempt draw outcome =
      .retryAfter (client.retryPolicy.backoffMs attempt draw) := by
  obtain ⟨⟨error, rfl, transient⟩, within⟩ := transient_of_not_isLast h
  have granted : client.retryPolicy.shouldRetry attempt error = true := by
    have : attempt ≤ client.retryPolicy.maxRetries := UInt32.le_iff_toNat_le.mpr within
    simp [RetryPolicy.shouldRetry, transient, this]
  simp [RetryPolicy.nextStep, granted]

/-! ## One turn -/

/-- How many requests an attempt sends. -/
def sends (client : Client) (request : Request) : Nat :=
  match request.prepare client.options.headers with
  | .error _ => 0
  | .ok _ => 1

theorem sends_le_one (client : Client) (request : Request) : client.sends request ≤ 1 := by
  unfold sends
  split
  · exact Nat.zero_le 1
  · exact Nat.le_refl 1

/-- What an attempt writes to the journal before its outcome is known. -/
def attemptEvents (client : Client) (request : Request) (w : World) : List Event :=
  .started request ::
    match request.prepare client.options.headers with
    | .error _ => []
    | .ok wire =>
      [.sent wire (w.board.counter client.busy).isBusy (w.network w.sent).isDelivered]

/-- What is written once the outcome of an attempt is known and it is decided what comes next. -/
def verdictEvents (request : Request) (outcome : Outcome) (step : Step) : List Event :=
  .finished request outcome ::
    match step with
    | .completed (.ok _) => []
    | .completed (.error error) => [.logged (.failed request error)]
    | .retryAfter delayMs => [.logged (.retrying request delayMs)]

/-- What is decided after the attempt made in a world. -/
def decision (client : Client) (request : Request) (w : World) : Step :=
  client.retryPolicy.nextStep request.attempt (w.draw (w.sent + client.sends request))
    (client.outcomes request w 0)

def turnEvents (client : Client) (request : Request) (w : World) : List Event :=
  client.attemptEvents request w ++
    verdictEvents request (client.outcomes request w 0) (client.decision request w)

/-- The world after one attempt and the decision on it. -/
def afterTurn (client : Client) (request : Request) (w : World) : World :=
  { w with
    sent := w.sent + client.sends request
    journal := w.journal ++ client.turnEvents request w }

theorem attempt_apply (client : Client) (request : Request) (w : World) :
    client.attempt request w = some (client.outcomes request w 0,
      { w with
        sent := w.sent + client.sends request
        journal := w.journal ++ client.attemptEvents request w }) := by
  unfold attempt outcomes sends attemptEvents
  cases request.prepare client.options.headers with
  | error error => simp
  | ok wire => simp

theorem conclude_apply (client : Client) (request : Request) (outcome : Outcome) (w : World) :
    client.conclude request outcome w =
      some (client.retryPolicy.nextStep request.attempt (w.draw w.sent) outcome,
        { w with
          journal := w.journal ++ verdictEvents request outcome
            (client.retryPolicy.nextStep request.attempt (w.draw w.sent) outcome) }) := by
  simp only [conclude, Activity.bind_apply, Activity.record_apply, Activity.look_apply,
    Option.bind_some, verdictEvents]
  generalize client.retryPolicy.nextStep request.attempt (w.draw w.sent) outcome = step
  cases step with
  | completed final => cases final <;> simp
  | retryAfter delayMs => simp

/-! ## Turns until the last one -/

section Turns
variable {client : Client} {request : Request} {w : World}

theorem decision_of_isLast
    (h : client.IsLast request.attempt.toNat (client.outcomes request w 0)) :
    client.decision request w = .completed (client.outcomes request w 0) :=
  nextStep_of_isLast _ h

theorem decision_of_not_isLast
    (h : ¬ client.IsLast request.attempt.toNat (client.outcomes request w 0)) :
    client.decision request w = .retryAfter (client.retryPolicy.backoffMs request.attempt
      (w.draw (w.sent + client.sends request))) :=
  nextStep_of_not_isLast _ h

/-- What a decision makes of the loop. -/
def roundOf (client : Client) (request : Request) : Step → Round Request Ending
  | .completed outcome => .done (client.endingOf request outcome)
  | .retryAfter _ => .again request.nextAttempt

theorem turn_eq (client : Client) (request : Request) (w : World) :
    client.turn request w = (client.attempt request w).bind fun p =>
      (client.conclude request p.1 p.2).map fun q => (client.roundOf request q.1, q.2) := by
  simp only [turn, Activity.bind_apply, attempt_apply, conclude_apply, Option.bind_some,
    Option.map_some]
  cases client.retryPolicy.nextStep request.attempt _ _ with
  | completed outcome => cases outcome <;> rfl
  | retryAfter delayMs => rfl

theorem turn_apply (client : Client) (request : Request) (w : World) :
    client.turn request w =
      some (client.roundOf request (client.decision request w), client.afterTurn request w) := by
  rw [turn_eq, attempt_apply, Option.bind_some, conclude_apply, Option.map_some]
  simp only [decision, afterTurn, turnEvents, List.append_assoc]

theorem follow_of_isLast
    (h : client.IsLast request.attempt.toNat (client.outcomes request w 0)) :
    client.follow request w =
      some (client.endingOf request (client.outcomes request w 0),
        client.afterTurn request w) := by
  rw [follow, World.loop_apply, turn_apply, decision_of_isLast h]
  rfl

theorem follow_of_not_isLast
    (h : ¬ client.IsLast request.attempt.toNat (client.outcomes request w 0)) :
    client.follow request w = client.follow request.nextAttempt (client.afterTurn request w) := by
  rw [follow, World.loop_apply, turn_apply, decision_of_not_isLast h]
  rfl

/-- The outcomes that are left after one turn. -/
theorem outcomes_afterTurn (client : Client) (request : Request) (w : World) (i : Nat) :
    client.outcomes request.nextAttempt (client.afterTurn request w) i =
      client.outcomes request w (i + 1) := by
  unfold outcomes afterTurn sends
  rw [show request.nextAttempt = request.withAttempt request.attempt.next from rfl,
    Request.prepare_withAttempt]
  cases request.prepare client.options.headers with
  | error error => rfl
  | ok wire =>
    show (w.network (w.sent + 1 + i)).outcome wire = (w.network (w.sent + (i + 1))).outcome wire
    rw [Nat.add_assoc, Nat.add_comm 1 i]

end Turns

/-- What so many turns write to the journal. -/
def turnsEvents (client : Client) : Nat → Request → World → List Event
  | 0, _, _ => []
  | n + 1, request, w =>
    client.turnEvents request w
      ++ client.turnsEvents n request.nextAttempt (client.afterTurn request w)

/-- The world after so many turns. -/
def afterTurns (client : Client) (n : Nat) (request : Request) (w : World) : World :=
  { w with
    sent := w.sent + n * client.sends request
    journal := w.journal ++ client.turnsEvents n request w }

theorem afterTurns_succ (client : Client) (n : Nat) (request : Request) (w : World) :
    client.afterTurns (n + 1) request w =
      client.afterTurns n request.nextAttempt (client.afterTurn request w) := by
  have same : client.sends request.nextAttempt = client.sends request := rfl
  simp only [afterTurns, afterTurn, turnsEvents, same, List.append_assoc]
  rw [Nat.succ_mul, Nat.add_assoc, Nat.add_comm (client.sends request)]

/-! ## What turns write -/

theorem attemptsIn_verdictEvents (request : Request) (outcome : Outcome) (step : Step) :
    attemptsIn (verdictEvents request outcome step) = [.finished request outcome] := by
  unfold verdictEvents
  split <;> rfl

/-- Of the beginnings and ends of attempts, one turn writes one each, in this order. -/
theorem attemptsIn_turnEvents (client : Client) (request : Request) (w : World) :
    attemptsIn (client.turnEvents request w) =
      [.started request, .finished request (client.outcomes request w 0)] := by
  have begun : attemptsIn (client.attemptEvents request w) = [.started request] := by
    unfold attemptEvents
    split <;> rfl
  rw [turnEvents, attemptsIn_append, begun, attemptsIn_verdictEvents]
  rfl

/-- One turn writes of a retry if it is not the last one. -/
theorem retryCount_turnEvents (client : Client) (request : Request) (w : World)
    [Decidable (client.IsLast request.attempt.toNat (client.outcomes request w 0))] :
    retryCount (client.turnEvents request w) =
      if client.IsLast request.attempt.toNat (client.outcomes request w 0) then 0 else 1 := by
  have begun : retryCount (client.attemptEvents request w) = 0 := by
    unfold attemptEvents
    split <;> rfl
  rw [turnEvents, retryCount_append, begun, Nat.zero_add]
  split
  · next last =>
    rw [decision_of_isLast last]
    cases client.outcomes request w 0 <;> rfl
  · next more => rw [decision_of_not_isLast more]; rfl

end Client

end CatalogClient

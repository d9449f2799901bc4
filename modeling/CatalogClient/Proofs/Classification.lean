import CatalogClient.Proofs.Budget
import CatalogClient.Proofs.Prepare

/-!
# What a response counts as

The outcome of an attempt that is answered depends on the method, the status and the body of the
response, and on nothing else: `Reading` lists what a response can come to, and `Classified` says which
responses come to what. The texts of an outcome go with its status, and a failure passes by itself only
if it is one of a few (`consistent_outcomes`).
-/

namespace CatalogClient

namespace Status

/-- The statuses of a success. -/
def InSuccessRange (status : Status) : Prop := 200 ≤ status ∧ status ≤ 299

/-- Statuses of responses have three digits. -/
def IsOfResponse (status : Status) : Prop := 100 ≤ status ∧ status ≤ 999

theorem isSuccess_eq_true_iff {status : Status} :
    status.isSuccess = true ↔ status.InSuccessRange := by
  simp [isSuccess, InSuccessRange]

theorem isRetryable_iff {status : Status} (proper : status.IsOfResponse) :
    status.isRetryable = true ↔ status = 408 ∨ status = 503 ∨ status = 504 := by
  have not_zero : status ≠ 0 := Nat.ne_of_gt (Nat.lt_of_lt_of_le (by decide) proper.1)
  simp [isRetryable, retryable, not_zero]

end Status

/-- All responses of the network have a status as responses have it. -/
def World.AnswersProperly (w : World) : Prop :=
  ∀ n status headers body, w.network n = .response status headers body → status.IsOfResponse

/-! ## Readings of a response -/

/-- What a response can come to. -/
inductive Reading (method : Method) (status : Status) (headers : List (String × String))
    (body : String) : Outcome → Prop
  | failed : ¬ status.InSuccessRange →
    Reading method status headers body
      (.error (.http status (status.reasonPhrase?.getD "") body))
  /-- The acknowledgment of a write is taken as it is. -/
  | acknowledged : status.InSuccessRange → method = .post ∨ method = .delete →
    Reading method status headers body
      (.ok ⟨.text body, status, status.reasonPhrase?.getD "", headers⟩)
  /-- No content is no document to read. -/
  | empty : status.InSuccessRange → method = .get ∨ method = .put → status = 204 →
    Reading method status headers body
      (.ok ⟨.json .null, status, status.reasonPhrase?.getD "", headers⟩)
  | read {document : Json} : status.InSuccessRange → method = .get ∨ method = .put →
    status ≠ 204 → Json.read body = .ok document →
    Reading method status headers body
      (.ok ⟨.json document, status, status.reasonPhrase?.getD "", headers⟩)
  | unreadable {e : JsonError} : status.InSuccessRange → method = .get ∨ method = .put →
    status ≠ 204 → Json.read body = .error e →
    Reading method status headers body (.error (.decode status (.notJson e) body))

namespace Method

theorem responseKind_eq_text_iff {method : Method} :
    method.responseKind = .text ↔ method = .post ∨ method = .delete := by
  cases method <;> decide

theorem responseKind_eq_json_iff {method : Method} :
    method.responseKind = .json ↔ method = .get ∨ method = .put := by
  cases method <;> decide

end Method

/-- A response comes to one of these. -/
theorem reading_of_response (wire : WireRequest) (status : Status)
    (headers : List (String × String)) (body : String) :
    Reading wire.method status headers body
      ((Arrival.response status headers body).outcome wire) := by
  by_cases success : status.InSuccessRange
  case neg =>
    have refused : ¬ status.isSuccess = true := fun h => success (Status.isSuccess_eq_true_iff.mp h)
    rw [Arrival.outcome, if_neg refused]
    exact .failed success
  rw [Arrival.outcome, if_pos (Status.isSuccess_eq_true_iff.mpr success)]
  cases kind : wire.method.responseKind with
  | text => exact .acknowledged success (Method.responseKind_eq_text_iff.mp kind)
  | json =>
    have reads := Method.responseKind_eq_json_iff.mp kind
    unfold Payload.ofBody
    by_cases empty : status = 204
    · rw [if_pos empty]
      exact .empty success reads empty
    · rw [if_neg empty]
      cases document : Json.read body with
      | ok document => exact .read success reads empty document
      | error e => exact .unreadable success reads empty document

/-! ## Which responses come to what -/

/-- The outcome is what a response with this status and this body makes of a request with this
method. -/
structure Classified (method : Method) (status : Status) (body : String) (outcome : Outcome) :
    Prop where
  succeeds : (∃ success, outcome = .ok success) ↔
    status.InSuccessRange ∧ (method = .post ∨ method = .delete ∨ status = 204 ∨
      ∃ document, Json.read body = .ok document)
  sameStatus : ∀ success, outcome = .ok success → success.status = status
  text : ∀ success, outcome = .ok success → method = .post ∨ method = .delete →
    success.payload = .text body
  empty : ∀ success, outcome = .ok success → method = .get ∨ method = .put → status = 204 →
    success.payload = .json .null
  document : ∀ success, outcome = .ok success → method = .get ∨ method = .put → status ≠ 204 →
    ∃ document, Json.read body = .ok document ∧ success.payload = .json document
  http : ¬ status.InSuccessRange →
    outcome = .error (.http status (status.reasonPhrase?.getD "") body)
  decode : status.InSuccessRange → (∀ success, outcome ≠ .ok success) →
    ∃ fault, outcome = .error (.decode status fault body)
  /-- What is not read as a document cannot fail to be one. -/
  unread : ∀ status' fault body', outcome = .error (.decode status' fault body') →
    ¬ (method = .post ∨ method = .delete) ∧ status ≠ 204

theorem classified_of_reading {method : Method} {status : Status}
    {headers : List (String × String)} {body : String} {outcome : Outcome}
    (reading : Reading method status headers body outcome) :
    Classified method status body outcome := by
  cases reading with
  | failed outside => constructor <;> simp [outside]
  | acknowledged inside writes => rcases writes with rfl | rfl <;> constructor <;> simp [inside]
  | empty inside reads no_content =>
    subst no_content
    rcases reads with rfl | rfl <;> constructor <;> simp [inside]
  | read inside reads content document =>
    rcases reads with rfl | rfl <;> constructor <;> simp [inside, content, document]
  | unreadable inside reads content refused =>
    rcases reads with rfl | rfl <;> constructor <;> simp [inside, content, refused]

/-! ## What goes with a status -/

/-- What the failure tells goes with its kind and its status. -/
structure FetchError.Consistent (error : FetchError) : Prop where
  statusText : error.statusText = error.status.reasonPhrase?.getD ""
  textStatus : error.textStatus = "parsererror" ↔
    ∃ status fault body, error = .decode status fault body
  transient : error.isTransient = true ↔
    (∃ fault, error = .transport fault ∧ fault.isLocal = false) ∨
      ∃ status text body, error = .http status text body ∧
        (status = 408 ∨ status = 503 ∨ status = 504)

/-- The texts of an outcome go with its status. -/
def Outcome.Consistent : Outcome → Prop
  | .ok success => success.statusText = success.status.reasonPhrase?.getD ""
  | .error error => error.Consistent

theorem consistent_encode (fault : EncodeFault) : FetchError.Consistent (.encode fault) := by
  constructor <;> simp [FetchError.statusText, FetchError.textStatus, FetchError.isTransient]

theorem consistent_transport (fault : TransportFault) :
    FetchError.Consistent (.transport fault) := by
  have zero : Status.isRetryable 0 = true := rfl
  constructor
  · rfl
  · simp only [FetchError.textStatus]
    cases fault.timedOut <;> simp
  · simp [FetchError.isTransient, zero]

theorem consistent_decode (status : Status) (fault : DecodeFault) (body : String) :
    FetchError.Consistent (.decode status fault body) := by
  constructor <;> simp [FetchError.statusText, FetchError.textStatus, FetchError.isTransient]

theorem consistent_http {status : Status} (proper : status.IsOfResponse) (body : String) :
    FetchError.Consistent (.http status (status.reasonPhrase?.getD "") body) := by
  constructor
  · rfl
  · simp [FetchError.textStatus]
  · simp [FetchError.isTransient, Status.isRetryable_iff proper]

theorem consistent_of_reading {method : Method} {status : Status}
    {headers : List (String × String)} {body : String} {outcome : Outcome}
    (proper : status.IsOfResponse) (reading : Reading method status headers body outcome) :
    outcome.Consistent := by
  cases reading with
  | failed => exact consistent_http proper body
  | acknowledged | empty | read => rfl
  | unreadable => exact consistent_decode status _ body

theorem consistent_of_arrival (wire : WireRequest) (arrival : Arrival)
    (proper : ∀ status headers body, arrival = .response status headers body →
      status.IsOfResponse) : (arrival.outcome wire).Consistent := by
  cases arrival with
  | response status headers body =>
    exact consistent_of_reading (proper status headers body rfl)
      (reading_of_response wire status headers body)
  | unreachable | noResponse timedOut | brokenBody timedOut => exact consistent_transport _

/-- A request that is not sent fails by its encoding or by the transport. -/
theorem consistent_of_prepare {request : Request} {own : List (String × String)}
    {error : FetchError} (refused : request.prepare own = .error error) : error.Consistent := by
  rcases Request.error_of_prepare refused with ⟨fault, -, rfl⟩ | ⟨encoded, fault, -, rfl, -⟩
  · exact consistent_encode fault
  · exact consistent_transport fault

namespace Client

variable {client : Client} {request : Request} {w : World}

theorem consistent_outcomes (proper : w.AnswersProperly) (i : Nat) :
    (client.outcomes request w i).Consistent := by
  unfold outcomes
  cases prepared : request.prepare client.options.headers with
  | error error => exact consistent_of_prepare prepared
  | ok wire => exact consistent_of_arrival wire _ (proper (w.sent + i))

/-- The outcome of an attempt that is answered by a response. -/
theorem classified_of_answer {wire : WireRequest} {status : Status}
    {headers : List (String × String)} {body : String} {i : Nat}
    (sent : request.prepare client.options.headers = .ok wire)
    (answer : w.network (w.sent + i) = .response status headers body) :
    Classified request.method status body (client.outcomes request w i) := by
  have of_request : wire.method = request.method := by
    obtain ⟨encoded, given, -, -, -, -, -, -, rfl⟩ := Request.prepare_eq_ok_iff.mp sent
    rfl
  simp only [outcomes, sent, answer]
  rw [← of_request]
  exact classified_of_reading (reading_of_response wire status headers body)

/-- **What comes back decides the outcome.** An attempt that is answered by a response has the outcome
that the method, the status and the body say. The texts of whatever an attempt or a run comes to go
with its status, and the kinds of failures that may pass are three statuses and all transport failures
past the client. -/
theorem outcome_classified (client : Client) (request : Request) (w : World) :
    (∀ wire status headers body, request.prepare client.options.headers = .ok wire →
      w.network w.sent = .response status headers body →
      ∃ outcome w', client.attempt request w = some (outcome, w') ∧
        Classified request.method status body outcome) ∧
    (w.AnswersProperly →
      (∀ outcome w', client.attempt request w = some (outcome, w') → outcome.Consistent) ∧
      ∀ ending w', client.run request w = some (ending, w') → ending.outcome.Consistent) := by
  refine ⟨fun wire status headers body sent answer => ?_, fun proper => ⟨?_, ?_⟩⟩
  · exact ⟨_, _, client.attempt_apply request w, classified_of_answer sent answer⟩
  · intro outcome w' made
    rw [attempt_apply] at made
    obtain ⟨rfl, -⟩ := Prod.mk.inj (Option.some.inj made)
    exact consistent_outcomes proper 0
  · intro ending w' ended
    obtain ⟨i, stop⟩ := exists_stops_of_run ended
    obtain ⟨k, -, stop, before⟩ := exists_first_stop stop
    obtain ⟨w'', -, ended', -⟩ := run_eq_some before stop
    obtain ⟨rfl, -⟩ := Prod.mk.inj (Option.some.inj (ended.symm.trans ended'))
    rw [outcome_endingOf]
    exact consistent_outcomes proper k

/-- A read that is answered in time with a page to log in: the status is fine, the body is no document,
and the run fails for good. -/
theorem outcome_classified_login_page :
    let client := sample 1
    let request := sampleRequest 1
    let w := sampleWorld (World.scripted [.response 200 [] "<html>"])
    w.AnswersProperly ∧
    (∃ outcome w', client.attempt request w = some (outcome, w') ∧
      Classified .get 200 "<html>" outcome ∧ outcome.Consistent ∧
      ∃ fault, outcome = .error (.decode 200 fault "<html>")) ∧
    ∃ ending w', client.run request w = some (ending, w') ∧ ending.outcome.Consistent := by
  intro client request w
  have proper : w.AnswersProperly := by
    intro n status headers body answer
    cases n with
    | zero =>
      obtain ⟨rfl, -, -⟩ := Arrival.response.inj answer
      exact ⟨by decide, by decide⟩
    | succ n =>
      obtain ⟨rfl, -, -⟩ := Arrival.response.inj (show World.exhausted = _ from answer)
      exact ⟨by decide, by decide⟩
  obtain ⟨answered, consistent⟩ := outcome_classified client request w
  obtain ⟨made, ended⟩ := consistent proper
  obtain ⟨wire, sent⟩ := sampleRequest_sendable 1
  obtain ⟨outcome, w', attempted, classified⟩ := answered wire 200 [] "<html>" sent rfl
  refine ⟨proper, ⟨outcome, w', attempted, classified, made outcome w' attempted, ?_⟩, ?_⟩
  · refine classified.decode ⟨by decide, by decide⟩ fun success is_ok => ?_
    rcases (classified.succeeds.mp ⟨success, is_ok⟩).2 with h | h | h | ⟨document, read⟩
    · cases h
    · cases h
    · cases h
    · have refused : (Json.read "<html>").isOk = false := by rfl
      rw [read] at refused
      cases refused
  · have below : client.options.maxRetries.toNat < 4294967295 := by decide
    obtain ⟨ending, w', events, run, -⟩ := run_ends below request w
    exact ⟨ending, w', run, ended ending w' run⟩

end Client

end CatalogClient

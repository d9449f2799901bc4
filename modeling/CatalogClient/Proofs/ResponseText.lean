import CatalogClient.Client.Flight
import CatalogClient.Proofs.Beginning
import CatalogClient.Proofs.Classification
import CatalogClient.Proofs.Decoding

/-!
# The text of a response

A failure that comes from a response tells the response's text. This is the body as it came, unless a
document was kept in its place and then not decoded: such a failure tells the document in compact form
(`text_is_body_iff`).
-/

namespace CatalogClient

/-- The failure an outcome is, or one that comes of decoding its success into some type. -/
inductive Outcome.Gives : Outcome → FetchError → Prop
  | failure (error : FetchError) : Gives (.error error) error
  | decoding {α : Type} (success : Success) (format : Format α) {error : FetchError} :
    success.decode format = .error error → Gives (.ok success) error

/-- The document that is kept of a response in place of its body. -/
inductive KeepsDocument (method : Method) (status : Status) (body : String) : Json → Prop
  | empty : status.InSuccessRange → method = .get ∨ method = .put → status = 204 →
    KeepsDocument method status body .null
  | read {document : Json} : status.InSuccessRange → method = .get ∨ method = .put →
    status ≠ 204 → Json.read body = .ok document → KeepsDocument method status body document

/-- What the failures tell that an outcome gives, for a response with this status and this body. -/
structure TellsText (method : Method) (status : Status) (body : String) (outcome : Outcome) :
    Prop where
  text : ∀ error, outcome.Gives error → error.responseText = some body ∨
    ∃ document, KeepsDocument method status body document ∧
      error.responseText = some document.render
  /-- All tell the body just if no document is kept whose compact form is another text. -/
  body_iff : (∀ error, outcome.Gives error → error.responseText = some body) ↔
    ∀ document, KeepsDocument method status body document → document.render = body

section Text
variable {method : Method} {status : Status} {body : String} {outcome : Outcome}
  {document document' : Json}

theorem keepsDocument_inside (keeps : KeepsDocument method status body document) :
    status.InSuccessRange ∧ ¬ (method = .post ∨ method = .delete) := by
  cases keeps with
  | empty inside reads | read inside reads =>
    exact ⟨inside, by rcases reads with rfl | rfl <;> simp⟩

theorem keepsDocument_unique (keeps : KeepsDocument method status body document)
    (keeps' : KeepsDocument method status body document') : document = document' := by
  cases keeps with
  | empty _ _ no_content =>
    cases keeps' with
    | empty => rfl
    | read _ _ content => exact absurd no_content content
  | read _ _ content reads =>
    cases keeps' with
    | empty _ _ no_content => exact absurd no_content content
    | read _ _ _ reads' => exact Except.ok.inj (reads.symm.trans reads')

/-- Where no document is kept, all tell the body. -/
theorem tellsText_of_no_document (none : ∀ document, ¬ KeepsDocument method status body document)
    (told : ∀ error, outcome.Gives error → error.responseText = some body) :
    TellsText method status body outcome where
  text error given := .inl (told error given)
  body_iff := ⟨fun _ document keeps => absurd keeps (none document), fun _ => told⟩

theorem gives_error_iff {error error' : FetchError} :
    Outcome.Gives (.error error) error' ↔ error' = error := by
  constructor
  · rintro ⟨⟩
    rfl
  · rintro rfl
    exact .failure error'

theorem responseText_of_text {success : Success} (holds : success.payload = .text body)
    {error : FetchError} (given : Outcome.Gives (.ok success) error) :
    error.responseText = some body := by
  cases given with
  | decoding _ format failed =>
    rw [Success.decode_text holds] at failed
    cases read : format.read body with
    | ok x => rw [read] at failed; cases failed
    | error e => rw [read] at failed; cases failed; rfl

theorem responseText_of_document {success : Success} (holds : success.payload = .json document)
    {error : FetchError} (given : Outcome.Gives (.ok success) error) :
    error.responseText = some document.render := by
  cases given with
  | decoding _ format failed =>
    rw [Success.decode_document holds] at failed
    cases converted : format.ofDocument document with
    | ok x => rw [converted] at failed; cases failed
    | error m => rw [converted] at failed; cases failed; rfl

/-- Every document fails to be of some type: none is both null and a truth value. -/
theorem exists_gives_of_document {success : Success} (holds : success.payload = .json document) :
    ∃ error, Outcome.Gives (.ok success) error := by
  have gives_of_refused : ∀ {α : Type} (format : Format α) (m : Mismatch),
      format.ofDocument document = .error m → ∃ error, Outcome.Gives (.ok success) error := by
    intro α format m refused
    refine ⟨.decode success.status (.documentShape m) document.render, .decoding success format ?_⟩
    rw [Success.decode_document holds, refused]
    rfl
  cases document with
  | null => exact gives_of_refused Format.bool _ rfl
  | bool | number | string | array | object => exact gives_of_refused Format.unit _ rfl

/-- Where a document is kept, all tell it in compact form. -/
theorem tellsText_of_document {success : Success} (holds : success.payload = .json document)
    (keeps : KeepsDocument method status body document) :
    TellsText method status body (.ok success) where
  text error given := .inr ⟨document, keeps, responseText_of_document holds given⟩
  body_iff := by
    constructor
    · intro told document' keeps'
      obtain rfl := keepsDocument_unique keeps keeps'
      obtain ⟨error, given⟩ := exists_gives_of_document holds
      exact Option.some.inj ((responseText_of_document holds given).symm.trans (told error given))
    · intro compact error given
      rw [responseText_of_document holds given, compact document keeps]

theorem tellsText_of_reading {headers : List (String × String)}
    (reading : Reading method status headers body outcome) :
    TellsText method status body outcome := by
  cases reading with
  | failed outside =>
    refine tellsText_of_no_document (fun document keeps => ?_) fun error given => ?_
    · exact outside (keepsDocument_inside keeps).1
    · rw [gives_error_iff.mp given]
      rfl
  | acknowledged inside writes =>
    refine tellsText_of_no_document (fun document keeps => ?_) fun error given => ?_
    · exact (keepsDocument_inside keeps).2 writes
    · exact responseText_of_text rfl given
  | empty inside reads no_content =>
    exact tellsText_of_document rfl (.empty inside reads no_content)
  | read inside reads content document =>
    exact tellsText_of_document rfl (.read inside reads content document)
  | unreadable inside reads content refused =>
    refine tellsText_of_no_document (fun document keeps => ?_) fun error given => ?_
    · cases keeps with
      | empty _ _ no_content => exact content no_content
      | read _ _ _ read => cases refused.symm.trans read
    · rw [gives_error_iff.mp given]
      rfl

end Text

namespace Client

variable {client : Client} {request : Request} {w w' : World}

theorem tellsText_of_answer {wire : WireRequest} {status : Status}
    {headers : List (String × String)} {body : String} {i : Nat}
    (sent : request.prepare client.options.headers = .ok wire)
    (answer : w.network (w.sent + i) = .response status headers body) :
    TellsText request.method status body (client.outcomes request w i) := by
  have of_request : wire.method = request.method := by
    obtain ⟨encoded, given, -, -, -, -, -, -, rfl⟩ := Request.prepare_eq_ok_iff.mp sent
    rfl
  simp only [outcomes, sent, answer]
  rw [← of_request]
  exact tellsText_of_reading (reading_of_response wire status headers body)

/-- The outcome of a run that sent anything is that of what was answered last. -/
theorem last_answer_of_run {ending : Ending} (ended : client.run request w = some (ending, w'))
    (some_sent : w.sent < w'.sent) :
    ∃ wire k, request.prepare client.options.headers = .ok wire ∧ w'.sent - 1 = w.sent + k ∧
      ending.outcome = client.outcomes request w k := by
  obtain ⟨k, -, -, rfl, count, -⟩ := turns_of_run ended
  cases prepared : request.prepare client.options.headers with
  | error error =>
    have none_sent : client.sends request = 0 := by rw [sends, prepared]
    rw [count, none_sent] at some_sent
    omega
  | ok wire =>
    have one_each : client.sends request = 1 := by rw [sends, prepared]
    refine ⟨wire, k, rfl, ?_, outcome_endingOf client _ _⟩
    rw [count, one_each]
    omega

/-- A decision to end keeps the outcome. -/
theorem eq_of_nextStep_completed {policy : RetryPolicy} {attempt : Attempt} {draw : Binary64}
    {outcome final : Outcome} (h : policy.nextStep attempt draw outcome = .completed final) :
    final = outcome := by
  cases outcome with
  | ok success => exact (Step.completed.inj h).symm
  | error error =>
    simp only [RetryPolicy.nextStep] at h
    split at h
    · cases h
    · exact (Step.completed.inj h).symm

/-- A flight ends with the outcome of what it was answered. -/
theorem last_answer_of_advance {flight flight' : Flight} {wire : WireRequest} {arrival : Arrival}
    {ending : Ending} (underway : flight.stage = .underway request wire arrival)
    (moved : client.advance flight w = some (flight', w')) (ended : flight'.stage = .ended ending) :
    ending.outcome = arrival.outcome wire := by
  simp only [advance, underway, settle, Activity.bind_apply, conclude_apply, Option.bind_some]
    at moved
  cases decided : client.retryPolicy.nextStep request.attempt (w.draw w.sent)
    (arrival.outcome wire) with
  | retryAfter delayMs =>
    rw [decided] at moved
    obtain ⟨rfl, -⟩ := Prod.mk.inj (Option.some.inj moved)
    cases ended
  | completed final =>
    rw [decided] at moved
    rw [← eq_of_nextStep_completed decided]
    cases final with
    | ok success =>
      obtain ⟨rfl, -⟩ := Prod.mk.inj (Option.some.inj moved)
      cases ended
      rfl
    | error error =>
      obtain ⟨rfl, -⟩ := Prod.mk.inj (Option.some.inj moved)
      cases ended
      rfl

/-- A read that is answered at once with a document. -/
theorem run_sample_read {body : String} {document : Json} (reads : Json.read body = .ok document) :
    ∃ w', (sample 1).run (sampleRequest 1) (sampleWorld (World.scripted [.response 200 [] body])) =
      some (.ok ⟨.json document, 200, "OK", []⟩, w') ∧ w'.sent = 1 := by
  let w := sampleWorld (World.scripted [.response 200 [] body])
  obtain ⟨wire, sent⟩ := sampleRequest_sendable 1
  have sent' : (sampleRequest 1).prepare (sample 1).options.headers = .ok wire := sent
  have method : wire.method = .get := by
    obtain ⟨encoded, given, -, -, -, -, -, -, rfl⟩ := Request.prepare_eq_ok_iff.mp sent
    rfl
  have outcome : (sample 1).outcomes (sampleRequest 1) w 0 =
      .ok ⟨.json document, 200, "OK", []⟩ := by
    rw [outcomes, sent']
    show (Arrival.response 200 [] body).outcome wire = _
    rw [Arrival.outcome, if_pos (show Status.isSuccess 200 = true from rfl), method]
    show (Payload.ofBody .json 200 body).map _ = _
    rw [Payload.ofBody, if_neg (by decide), reads]
    rfl
  have stop : (sample 1).Stops (sampleRequest 1) w 0 := by
    rw [Stops, outcome]
    trivial
  obtain ⟨w', events, ended, -⟩ := run_eq_some (fun i hi => absurd hi (Nat.not_lt_zero i)) stop
  rw [outcome] at ended
  refine ⟨w', ended, ?_⟩
  obtain ⟨k, before, -, -, count, -⟩ := turns_of_run ended
  obtain rfl : k = 0 := Nat.eq_zero_of_not_pos fun pos => before 0 pos stop
  have one : (sample 1).sends (sampleRequest 1) = 1 := by rw [sends, sent']
  rw [count, one]
  rfl

/-- **When a failure tells the body as it came.** For a response to an attempt, to the last attempt
of a run, or to a flight that ends with it, every failure that the outcome gives tells the body, or
the compact form of a document that is kept of it. So all of them tell the body exactly if it is
compact itself or no document is kept, as after every write. -/
theorem text_is_body_iff (client : Client) (request : Request) (w : World) :
    (∀ wire status headers body, request.prepare client.options.headers = .ok wire →
      w.network w.sent = .response status headers body →
      ∃ outcome w', client.attempt request w = some (outcome, w') ∧
        TellsText request.method status body outcome) ∧
    (∀ ending w' status headers body, client.run request w = some (ending, w') →
      w.sent < w'.sent → w.network (w'.sent - 1) = .response status headers body →
      TellsText request.method status body ending.outcome) ∧
    ∀ flight flight' w' wire status headers body ending,
      flight.stage = .underway request wire (.response status headers body) →
      client.advance flight w = some (flight', w') → flight'.stage = .ended ending →
      TellsText wire.method status body ending.outcome := by
  refine ⟨?_, ?_, ?_⟩
  · intro wire status headers body sent answer
    exact ⟨_, _, client.attempt_apply request w, tellsText_of_answer (i := 0) sent answer⟩
  · intro ending w' status headers body ended some_sent answer
    obtain ⟨wire, k, sent, last, outcome⟩ := last_answer_of_run ended some_sent
    rw [last] at answer
    rw [outcome]
    exact tellsText_of_answer sent answer
  · intro flight flight' w' wire status headers body ending underway moved ended
    rw [last_answer_of_advance underway moved ended]
    exact tellsText_of_reading (reading_of_response wire status headers body)

/-- A list that came as compact as it is told. -/
theorem text_is_body_iff_compact_list :
    let w := sampleWorld (World.scripted [.response 200 [] "[1]"])
    ∃ success w', (sample 1).run (sampleRequest 1) w = some (.ok success, w') ∧ w.sent < w'.sent ∧
      w.network (w'.sent - 1) = .response 200 [] "[1]" ∧
      ∀ error, Outcome.Gives (.ok success) error → error.responseText = some "[1]" := by
  intro w
  have reads : Json.read "[1]" = .ok (.array [.ofInt 1]) := rfl
  obtain ⟨w', ended, sent⟩ := run_sample_read reads
  have some_sent : w.sent < w'.sent := by rw [sent]; decide
  have answer : w.network (w'.sent - 1) = .response 200 [] "[1]" := by rw [sent]; rfl
  have tells := (text_is_body_iff (sample 1) (sampleRequest 1) w).2.1 _ w' 200 [] "[1]" ended
    some_sent answer
  refine ⟨_, w', ended, some_sent, answer, tells.body_iff.mpr fun document keeps => ?_⟩
  obtain rfl := keepsDocument_unique keeps
    (.read ⟨by decide, by decide⟩ (.inl rfl) (by decide) reads)
  decide

/-- With a blank before it the list is told without the blank. -/
theorem text_of_list_loses_blank :
    let w := sampleWorld (World.scripted [.response 200 [] " [1]"])
    ∃ success w' error, (sample 1).run (sampleRequest 1) w = some (.ok success, w') ∧
      w.sent < w'.sent ∧ w.network (w'.sent - 1) = .response 200 [] " [1]" ∧
      success.decode Format.word64 = .error error ∧
      error.responseText = some "[1]" ∧ error.responseText ≠ some " [1]" := by
  intro w
  have reads : Json.read " [1]" = .ok (.array [.ofInt 1]) := rfl
  obtain ⟨w', ended, sent⟩ := run_sample_read reads
  refine ⟨_, w', _, ended, ?_, ?_, rfl, ?_, ?_⟩
  · rw [sent]; decide
  · rw [sent]; rfl
  · decide
  · decide

end Client

end CatalogClient

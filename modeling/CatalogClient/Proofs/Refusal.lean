import CatalogClient.Proofs.Encoding
import CatalogClient.Proofs.GivenUrl
import CatalogClient.Proofs.Past
import CatalogClient.Proofs.Wire

/-!
# Requests that are refused at once

Some requests cannot be sent whatever the network does: the body has no wire form, the URL is none
of HTTP, a header is not valid. Such a request fails in its first attempt, under every budget, and
is not tried again (`refuses_of_prepare`). The network is never asked, and the world that is left
has the present of the world before, so nothing that is to come can tell whether there was a
refusal.
-/

namespace CatalogClient

/-! ## Requests that cannot be sent -/

/-- No request can be sent to what the text says. -/
inductive Url.IsUnfit (text : String) : Prop
  | unreadable {fault : UrlFault} : parse text = .error fault → IsUnfit text
  | hostless {url : Url} : parse text = .ok url → url.hasHost = false → IsUnfit text
  | foreign {url : Url} : parse text = .ok url → url.isHttp = false → IsUnfit text

/-- Something about the request or the client's own headers keeps the request from being sent. -/
inductive Request.IsUnsendable (request : Request) (own : List (String × String)) : Prop
  | body {fault : EncodeFault} : request.encode = .error fault → IsUnsendable request own
  | url : Url.IsUnfit request.url → IsUnsendable request own
  /-- The URL with the payload in its query. -/
  | urlWithPayload {encoded : EncodedRequest} : request.encode = .ok encoded →
    Url.IsUnfit encoded.url → IsUnsendable request own
  | header {header : String × String} : header ∈ own → ¬ Header.IsValid header →
    IsUnsendable request own
  | contentType {text : String} : request.contentType = some text → Header.isValue text = false →
    IsUnsendable request own

namespace Url

theorem hasHost_of_host {url url' : Url} (same : url.host = url'.host) :
    url.hasHost = url'.hasHost := by
  unfold hasHost
  rw [same]

theorem not_isUnfit_of_parse {text : String} {url : Url} (read : parse text = .ok url)
    (host : url.hasHost = true) (http : url.isHttp = true) : ¬ IsUnfit text := by
  rintro (refused | ⟨read', hostless⟩ | ⟨read', foreign⟩)
  · rw [read] at refused
    cases refused
  · obtain rfl := Except.ok.inj (read.symm.trans read')
    rw [host] at hostless
    cases hostless
  · obtain rfl := Except.ok.inj (read.symm.trans read')
    rw [http] at foreign
    cases foreign

end Url

namespace Request

variable {request : Request} {own : List (String × String)}

/-- What is asked for is the URL as it was given, with a query behind it or nothing. -/
theorem exists_url_of_encode {encoded : EncodedRequest} (encodes : request.encode = .ok encoded) :
    ∃ query, encoded.url = appendQuery request.url query := by
  have payload := payload_of_encode encodes
  cases carries : request.method.carriesBody with
  | true =>
    rw [encode_of_carriesBody payload carries] at encodes
    obtain rfl := Except.ok.inj encodes
    exact ⟨"", rfl⟩
  | false =>
    rw [encode_of_not_carriesBody payload carries] at encodes
    obtain rfl := Except.ok.inj encodes
    exact ⟨_, rfl⟩

/-- Each of the reasons is enough to keep the request from being sent. -/
theorem exists_error_of_isUnsendable (unsendable : request.IsUnsendable own) :
    ∃ error, request.prepare own = .error error := by
  cases prepared : request.prepare own with
  | error error => exact ⟨error, rfl⟩
  | ok wire =>
    -- what is sent has passed every check, so none of the reasons can be there
    exfalso
    obtain ⟨encoded, given, encodes, read, host, valid, http, -⟩ := prepare_eq_ok_iff.mp prepared
    rw [Url.hasHost_withoutLogin] at host
    rw [Url.isHttp_withoutLogin] at http
    rw [fault?_headers_eq_none_iff] at valid
    cases unsendable with
    | body refused =>
      rw [encodes] at refused
      cases refused
    | url unfit =>
      -- the URL that was read is the given one with a query behind it, on the same host
      obtain ⟨query, same⟩ := exists_url_of_encode encodes
      rw [same] at read
      obtain ⟨own, read_own, scheme, host_own⟩ := Url.parse_of_parse_appendQuery read http
      refine Url.not_isUnfit_of_parse read_own ?_ ?_ unfit
      · rw [Url.hasHost_of_host host_own, host]
      · rw [Url.isHttp, scheme]
        exact http
    | urlWithPayload encodes' unfit =>
      obtain rfl := Except.ok.inj (encodes.symm.trans encodes')
      exact Url.not_isUnfit_of_parse read host http unfit
    | header mem invalid => exact invalid (valid.1 _ mem)
    | contentType given invalid =>
      rw [valid.2 _ given] at invalid
      cases invalid

end Request

/-! ## What a refusal comes to -/

/-- The failure is one of the client's own: there is no wire form, or the transport refuses to build
the request. -/
structure FetchError.IsLocal (error : FetchError) : Prop where
  kind : (∃ fault, error = .encode fault) ∨
    ∃ fault, error = .transport fault ∧ fault.isLocal = true
  lasting : error.isTransient = false
  status : error.status = 0

theorem FetchError.isLocal_encode (fault : EncodeFault) : IsLocal (.encode fault) :=
  ⟨.inl ⟨fault, rfl⟩, rfl, rfl⟩

theorem FetchError.isLocal_transport {fault : TransportFault} (own : fault.isLocal = true) :
    IsLocal (.transport fault) := by
  refine ⟨.inr ⟨fault, rfl, own⟩, ?_, rfl⟩
  rw [isTransient, own]
  rfl

/-- A request that cannot be sent fails by itself, for its body if that has no wire form. -/
theorem Request.isLocal_of_prepare {request : Request} {own : List (String × String)}
    {error : FetchError} (prepared : request.prepare own = .error error) :
    error.IsLocal ∧ ∀ fault, request.encode = .error fault → error = .encode fault := by
  rcases error_of_prepare prepared with ⟨fault, refused, rfl⟩ | ⟨encoded, fault, encodes, rfl, own⟩
  · refine ⟨FetchError.isLocal_encode fault, fun fault' refused' => ?_⟩
    rw [Except.error.inj (refused.symm.trans refused')]
  · refine ⟨FetchError.isLocal_transport own, fun fault' refused => ?_⟩
    rw [encodes] at refused
    cases refused

/-- What is written of a refusal: one attempt, and that its failure is final. -/
def refusalEvents (request : Request) (error : FetchError) : List Event :=
  [.started request, .finished request (.error error), .logged (.failed request error)]

/-- The world that is left: the indicator was raised and let go, and the refusal is written down. -/
def World.afterRefusal (client : Client) (request : Request) (error : FetchError) (w : World) :
    World :=
  { w with
    board := (w.board.modify client.busy.place .acquire).modify client.busy.place .release
    journal := w.journal ++ refusalEvents request error }

/-- From one world to the other a request was refused, and that is all. -/
structure World.RefusalTo (request : Request) (error : FetchError) (w w' : World) : Prop where
  journal : w'.journal = w.journal ++ refusalEvents request error
  /-- No answer of the network was taken. -/
  sent : w'.sent = w.sent
  arrivals : w'.arrivals = w.arrivals
  inFlight : ∀ i, (w'.board.counter i).inFlight = (w.board.counter i).inFlight
  future : w.SameFuture w'

/-- The run of a request that is refused, as far as it has come. -/
inductive Run.IsRefused (client : Client) (request : Request) (error : FetchError) : Run → Prop
  | due (guard : Busy.Guard) : IsRefused client request error ⟨client, ⟨guard, .due request⟩, []⟩
  | ended (guard : Busy.Guard) : IsRefused client request error
    ⟨client, ⟨guard, .ended (.error ⟨error, request, client⟩)⟩, refusalEvents request error⟩
  | dropped (guard : Busy.Guard) : IsRefused client request error ⟨client, ⟨guard, .dropped⟩, []⟩

/-- A move that leaves its flight and the world alone leaves the run alone. -/
theorem Run.eq_of_unmoved {run : Run} {move : Activity Flight} {flight : Flight}
    {events : List Event} {w w' : World} (stays : move w = some (run.flight, w))
    (moved : Activity.observed move w = some ((flight, events), w')) :
    { run with flight := flight, events := run.events ++ events } = run := by
  rw [Traffic.observed_apply stays (List.append_nil _).symm] at moved
  cases moved
  rw [List.append_nil]

/-- What an execution of a refused request is bound to, wherever it takes place. -/
structure Client.KeepsRefusing (client : Client) (request : Request) (error : FetchError)
    (events : List Event) (ending? : Option Ending) : Prop where
  sent : sentIn events = []
  retries : retryCount events = 0
  /-- One attempt, or none if the run was dropped before. -/
  attempts : attemptNumbers events <+: [request.attempt]
  ending : ∀ ending, ending? = some ending →
    ending = .error ⟨error, request, client⟩ ∧ events = refusalEvents request error

/-- The request fails with this failure in its first attempt, and nothing is asked of the network. -/
structure Client.Refuses (client : Client) (request : Request) (error : FetchError) : Prop where
  own : error.IsLocal
  /-- A body without a wire form is what fails, whatever else is wrong. -/
  encode : ∀ fault, request.encode = .error fault → error = .encode fault
  /-- By itself the run ends, with the request as it was given. -/
  run : ∀ w, ∃ w', w.RefusalTo request error w' ∧
    client.run request w = some (.error ⟨error, request, client⟩, w')
  /-- In whatever form the request is issued, its end is handed on. -/
  perform : ∀ {P R : Type} (call : Call P R), call.run? = some (client, request) → ∀ w, ∃ w',
    w.RefusalTo request error w' ∧
      call.perform w = call.goOn (.error ⟨error, request, client⟩) w'
  /-- Among whatever else is going on, the first move of the run is its last one. -/
  moved : ∀ {P R : Type} (call : Call P R), call.run? = some (client, request) →
    ∀ (traffic : Traffic) (w : World), ∃ run w', w.RefusalTo request error w' ∧
      traffic.run [.call call, .advance traffic.runs.length] w =
        some ({ traffic with runs := traffic.runs ++ [run] }, w') ∧
      run.flight.stage = .ended (.error ⟨error, request, client⟩) ∧
      run.events = refusalEvents request error
  executes : ∀ events ending?, client.Executes request events ending? →
    client.KeepsRefusing request error events ending?

theorem World.refusalTo_afterRefusal (client : Client) (request : Request) (error : FetchError)
    (w : World) : w.RefusalTo request error (w.afterRefusal client request error) := by
  have board : w.board.present = (w.afterRefusal client request error).board.present :=
    (Busy.Board.present_acquire_release w.board client.busy).symm
  refine ⟨rfl, rfl, ?_, fun i => ?_, sameFuture_of_samePresent ⟨rfl, rfl, rfl, board⟩⟩
  · simp [arrivals, afterRefusal, refusalEvents]
  · exact (Busy.Board.inFlight_eq_of_present board i).symm

namespace Client

variable {client : Client} {request : Request} {error : FetchError} {w : World}

/-! ## Refusals -/

/-- The first attempt is the last one, whatever its number and the budget are. -/
theorem isLast_of_isLocal (own : error.IsLocal) (number : Nat) :
    client.IsLast number (.error error) :=
  .inl own.lasting

theorem run_of_prepare (prepared : request.prepare client.options.headers = .error error)
    (w : World) :
    client.run request w =
      some (.error ⟨error, request, client⟩, w.afterRefusal client request error) := by
  let raised : World := { w with board := w.board.modify client.busy.place .acquire }
  have own := (Request.isLocal_of_prepare prepared).1
  have outcome : client.outcomes request raised 0 = .error error := by
    rw [outcomes, prepared]
  have last : client.IsLast request.attempt.toNat (client.outcomes request raised 0) := by
    rw [outcome]
    exact isLast_of_isLocal own _
  have sends : client.sends request = 0 := by rw [sends, prepared]
  have events : client.turnEvents request raised = refusalEvents request error := by
    rw [turnEvents, decision_of_isLast last, outcome, attemptEvents, prepared]
    rfl
  rw [run_apply, follow_of_isLast last, Option.map_some, outcome, afterTurn, sends, events]
  rfl

/-- A flight with an attempt due ends by its next move. -/
theorem advance_of_prepare (prepared : request.prepare client.options.headers = .error error)
    (guard : Busy.Guard) (w : World) :
    client.advance ⟨guard, .due request⟩ w =
      some (⟨guard, .ended (.error ⟨error, request, client⟩)⟩, { w with
        board := w.board.modify guard.indicator.place .release
        journal := w.journal ++ refusalEvents request error }) := by
  have own := (Request.isLocal_of_prepare prepared).1
  have last : client.IsLast request.attempt.toNat (.error error) := isLast_of_isLocal own _
  simp only [advance, prepared, settle, Activity.bind_apply, Activity.record_apply,
    conclude_apply, nextStep_of_isLast _ last, Option.bind_some, Activity.release_apply,
    List.append_assoc]
  rfl

/-- A run that is refused stays so, however it is moved. Only while its attempt is due does a move
change anything. -/
theorem isRefused_lasts (prepared : request.prepare client.options.headers = .error error) :
    Run.Lasts (Run.IsRefused client request error) where
  advanced := by
    intro run flight events w w' refused moved
    cases refused with
    | due guard =>
      rw [Traffic.observed_apply (advance_of_prepare prepared guard w) rfl] at moved
      cases moved
      exact .ended guard
    | ended guard =>
      rw [Run.eq_of_unmoved rfl moved]
      exact .ended guard
    | dropped guard =>
      rw [Run.eq_of_unmoved rfl moved]
      exact .dropped guard
  abandoned := by
    intro run flight events w w' refused moved
    cases refused with
    | due guard =>
      have drops : abandon ⟨guard, .due request⟩ w = some (⟨guard, .dropped⟩,
          { w with board := w.board.modify guard.indicator.place .release }) := rfl
      rw [Traffic.observed_apply drops (List.append_nil _).symm] at moved
      cases moved
      exact .dropped guard
    | ended guard =>
      rw [Run.eq_of_unmoved rfl moved]
      exact .ended guard
    | dropped guard =>
      rw [Run.eq_of_unmoved rfl moved]
      exact .dropped guard

theorem keepsRefusing_of_isRefused {run : Run} (refused : run.IsRefused client request error) :
    client.KeepsRefusing request error run.events run.flight.stage.ending? := by
  cases refused with
  | due guard | dropped guard =>
    exact ⟨rfl, rfl, List.nil_prefix, fun _ ended => nomatch ended⟩
  | ended guard =>
    refine ⟨rfl, rfl, List.prefix_rfl, fun ending ended => ?_⟩
    obtain rfl := Option.some.inj ended
    exact ⟨rfl, rfl⟩

theorem keepsRefusing_of_executes
    (prepared : request.prepare client.options.headers = .error error) {events : List Event}
    {ending? : Option Ending} (executes : client.Executes request events ending?) :
    client.KeepsRefusing request error events ending? := by
  cases executes with
  | alone ended journal =>
    rw [run_of_prepare prepared] at ended
    obtain ⟨rfl, rfl⟩ := Prod.mk.inj (Option.some.inj ended)
    obtain rfl := List.append_cancel_left journal
    exact keepsRefusing_of_isRefused (.ended ⟨client.busy⟩)
  | @amid _ _ call run begins becomes =>
    exact keepsRefusing_of_isRefused
      (Call.holds_of_becomes (isRefused_lasts prepared) .due begins becomes)

/-- A call that is begun among others, and the next move of its run. -/
theorem moved_of_prepare {P R : Type} {call : Call P R}
    (prepared : request.prepare client.options.headers = .error error)
    (begins : call.run? = some (client, request)) (traffic : Traffic) (w : World) :
    ∃ run, traffic.run [.call call, .advance traffic.runs.length] w =
        some ({ traffic with runs := traffic.runs ++ [run] },
          w.afterRefusal client request error) ∧
      run.flight.stage = .ended (.error ⟨error, request, client⟩) ∧
      run.events = refusalEvents request error := by
  let due : Run := ⟨client, ⟨⟨client.busy⟩, .due request⟩, []⟩
  let ended : Run := ⟨client, ⟨⟨client.busy⟩, .ended (.error ⟨error, request, client⟩)⟩,
    refusalEvents request error⟩
  let begun : Traffic := { traffic with runs := traffic.runs ++ [due] }
  let raised : World := { w with board := w.board.modify client.busy.place .acquire }
  have launched : traffic.step (.call call) w = some (begun, raised) := by
    simp only [Traffic.step, begins]
    rfl
  have last : begun.runs[traffic.runs.length]? = some due := List.getElem?_concat_length
  have advanced := Traffic.observed_apply
    (advance_of_prepare prepared ⟨client.busy⟩ raised) rfl
  have replaced : begun.runs.set traffic.runs.length ended = traffic.runs ++ [ended] := by
    simp [begun]
  refine ⟨ended, ?_, rfl, rfl⟩
  rw [← replaced, Traffic.run, List.foldlM_cons, Activity.bind_apply, launched, Option.bind_some,
    List.foldlM_cons, Activity.bind_apply]
  simp only [Traffic.step, last, due, Activity.bind_apply, advanced]
  rfl

/-- A request that cannot be sent is refused at once, and each refusal is as if it had not been. -/
theorem refuses_of_prepare (prepared : request.prepare client.options.headers = .error error) :
    client.Refuses request error where
  own := (Request.isLocal_of_prepare prepared).1
  encode := (Request.isLocal_of_prepare prepared).2
  run := fun w =>
    ⟨_, World.refusalTo_afterRefusal client request error w, run_of_prepare prepared w⟩
  perform := by
    intro P R call begins w
    refine ⟨_, World.refusalTo_afterRefusal client request error w, ?_⟩
    rw [Call.perform_eq begins, Activity.bind_apply, run_of_prepare prepared]
    rfl
  moved := by
    intro P R call begins traffic w
    obtain ⟨run, moved, stage, events⟩ := moved_of_prepare prepared begins traffic w
    exact ⟨run, _, World.refusalTo_afterRefusal client request error w, moved, stage, events⟩
  executes := fun _ _ executes => keepsRefusing_of_executes prepared executes

/-- **Failures of the client's own never touch the network.** A request that cannot be sent is
refused in its first attempt, under every policy and from every attempt number on, in every form, by
itself or among others; and a call whose value has no document does not even begin: it gives a
failure to encode, and leaves everything as it is. What counts is the request that is run: a generic
delete has given up its body by then. -/
theorem refuses_unsendable
    (unsendable : request.IsUnsendable client.options.headers) :
    (∃ error, client.Refuses request error) ∧
    ∀ {P R : Type} (call : Call P R), call.run? = none → ∀ w, ∃ fault,
      call.perform w = some (.outcome (.error (.encode (.notJson fault))), w) ∧
        (FetchError.encode (.notJson fault)).IsLocal ∧
        ∀ traffic : Traffic, traffic.step (.call call) w = some (traffic, w) := by
  refine ⟨?_, fun call refused w => ?_⟩
  · obtain ⟨error, prepared⟩ := Request.exists_error_of_isUnsendable unsendable
    exact ⟨error, refuses_of_prepare prepared⟩
  · obtain ⟨⟨fault, performed⟩, unmoved⟩ := call.takesPart.refused refused w
    exact ⟨fault, performed, FetchError.isLocal_encode _, unmoved⟩

/-- An object in an object has no wire form, and the greatest budget does not make another attempt of
it. -/
theorem refuses_unsendable_nested :
    let client := sample 4294967295
    let request := ((Request.new .post "http://h/").withRawBody
      (.object [("a", .object [])])).withAttempt 3
    request.IsUnsendable client.options.headers ∧
      client.Refuses request (.encode (.nestedField "a")) := by
  intro client request
  have nested : request.encode = .error (.nestedField "a") := rfl
  have unsendable : request.IsUnsendable client.options.headers := .body nested
  obtain ⟨⟨error, refuses⟩, -⟩ := refuses_unsendable unsendable
  obtain rfl := refuses.encode _ nested
  exact ⟨unsendable, refuses⟩

/-- The same request given to a generic delete is sent, without its body, and the server answers. A
value without a document is not even attempted. -/
theorem remove_sends_and_post_begins_nothing :
    let client := sample 4294967295
    let request := ((Request.new .post "http://h/schema").withRawBody
      (.object [("a", .object [])])).withAttempt 3
    let w := sampleWorld fun _ => .response 404 [] "gone"
    request.encode = .error (.nestedField "a") ∧
    (∃ w', (Call.remove client request : Call Unit Unit).perform w =
        some (.outcome (.error (.http 404 "Not Found" "gone")), w') ∧
      w'.sent = 1 ∧ w'.arrivals = 1) ∧
    ∃ fault, (Call.post client "http://h/schema" (.map [(.null, .null)]) : Call Unit Unit).perform
      w = some (.outcome (.error (.encode (.notJson fault))), w) := by
  intro client request w
  refine ⟨rfl, ?_, Call.perform_of_refused rfl w⟩
  let bare : Request := { request with method := .delete, body := none }
  have sendable : (bare.prepare client.options.headers).isOk = true := by decide +kernel
  cases prepared : bare.prepare client.options.headers with
  | error error => rw [prepared] at sendable; cases sendable
  | ok wire =>
    let raised : World := { w with board := w.board.modify client.busy.place .acquire }
    have outcome : client.outcomes bare raised 0 = .error (.http 404 "Not Found" "gone") := by
      rw [outcomes, prepared]
      rfl
    have last : client.IsLast bare.attempt.toNat (client.outcomes bare raised 0) := by
      rw [outcome]
      exact .inl rfl
    have events : client.turnEvents bare raised = [.started bare, .sent wire true true,
        .finished bare (.error (.http 404 "Not Found" "gone")),
        .logged (.failed bare (.http 404 "Not Found" "gone"))] := by
      rw [turnEvents, decision_of_isLast last, outcome, attemptEvents, prepared]
      rfl
    have begins : (Call.remove client request : Call Unit Unit).run? = some (client, bare) := rfl
    have ended := run_apply client bare w
    rw [follow_of_isLast last, Option.map_some, outcome] at ended
    rw [Call.perform_eq begins, Activity.bind_apply, ended]
    refine ⟨_, rfl, ?_, ?_⟩
    · rw [afterTurn, sends, prepared]
      rfl
    · rw [afterTurn, events]
      rfl

end Client

end CatalogClient

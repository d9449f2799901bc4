import CatalogClient.Proofs.Classification
import CatalogClient.Proofs.Wire

/-!
# Awaited calls

All calls that are awaited are one: each is `execute` with a request of its own (`SameAs`), alone
and among whatever else goes on. A removal is the request with nothing to encode, so it is always
sent bare (`bare_of_prepare_removal`), and which request it was made of shows in its URL, its
content type and the number of its attempt alone (`alike_of_sentAlike`).
-/

namespace CatalogClient

namespace Call

variable {P R : Type}

/-- The calls cannot be told apart, by themselves or with anything else before, in between and
after. -/
structure SameAs (call call' : Call P R) : Prop where
  alone : call.perform = call'.perform
  amid : ∀ (traffic : Traffic) (before after : List Move),
    traffic.run (before ++ .call call :: after) = traffic.run (before ++ .call call' :: after)

/-- What can be seen of a call from outside: what it gives, what is sent, and the indicators with all
that they told. -/
def seen (given : Given R × World) : Given R × List Event × Busy.Board :=
  (given.1, sentIn given.2.journal, given.2.board)

/-- The calls look the same from outside, whatever the server does. -/
def Alike (call call' : Call P R) : Prop :=
  ∀ w, (call.perform w).map seen = (call'.perform w).map seen

theorem sameAs_of_step {call call' : Call P R} (alone : call.perform = call'.perform)
    (step : ∀ traffic : Traffic, traffic.step (.call call) = traffic.step (.call call')) :
    call.SameAs call' where
  alone := alone
  amid := by
    intro traffic before after
    simp only [Traffic.run, List.foldlM_append, List.foldlM_cons, step]

/-- A call that gives the outcome of its run is no other than the execution of its request. -/
theorem sameAs_execute {call : Call P R} {client : Client} {request : Request}
    (begins : call.run? = some (client, request))
    (plain : call.goOn = fun ending => pure (.outcome ending.outcome)) :
    call.SameAs (.execute client request) := by
  have executed : (execute client request : Call P R).run? = some (client, request) := rfl
  refine sameAs_of_step ?_ fun traffic => ?_
  · rw [perform_eq begins, perform_eq executed, plain]
    rfl
  · simp only [Traffic.step, begins, executed]

end Call

/-! ## Requests that are sent alike -/

/-- The requests are sent in one way, and have their attempts counted from the same number. -/
structure Request.SentAlike (a b : Request) : Prop where
  prepare : ∀ own, a.prepare own = b.prepare own
  attempt : a.attempt = b.attempt

namespace Client

variable {client : Client} {a b : Request} {w : World}

theorem outcomes_eq_of_sentAlike (alike : a.SentAlike b) (w : World) (i : Nat) :
    client.outcomes a w i = client.outcomes b w i := by
  rw [outcomes, outcomes, alike.prepare]

theorem stops_iff_of_sentAlike (alike : a.SentAlike b) (w : World) (i : Nat) :
    client.Stops a w i ↔ client.Stops b w i := by
  rw [Stops, Stops, alike.attempt, outcomes_eq_of_sentAlike alike]

/-- Runs of such requests make the same attempts, so they end alike or not at all. -/
theorem alike_of_sentAlike {P R : Type} (alike : a.SentAlike b) :
    Call.Alike (.execute client a : Call P R) (.execute client b) := by
  intro w
  have performed : ∀ request, ((Call.execute client request : Call P R).perform w).map Call.seen =
      (client.run request w).map fun p =>
        (.outcome p.1.outcome, sentIn p.2.journal, p.2.board) := by
    intro request
    simp only [Call.perform, Activity.map_apply, execute_apply, Option.map_map]
    rfl
  rw [performed, performed]
  by_cases stop : ∃ i, client.Stops a w i
  · obtain ⟨i, stop⟩ := stop
    obtain ⟨k, -, stop, before⟩ := exists_first_stop stop
    have stop' := (stops_iff_of_sentAlike alike w k).mp stop
    have before' : ∀ j < k, ¬ client.Stops b w j :=
      fun j hj h => before j hj ((stops_iff_of_sentAlike alike w j).mpr h)
    rw [run_of_stops before stop, run_of_stops before' stop']
    simp only [Option.map_some, outcome_endingOf, outcomes_eq_of_sentAlike alike, afterTurns,
      sentIn_append, sentIn_turnsEvents, alike.prepare]
  · have never := not_exists.mp stop
    have never' : ∀ i, ¬ client.Stops b w i :=
      fun i h => never i ((stops_iff_of_sentAlike alike w i).mpr h)
    rw [run_eq_none_iff.mpr never, run_eq_none_iff.mpr never']

end Client

/-! ## Removals -/

namespace Request

/-- The request to delete what the request is about. -/
def removal (request : Request) : Request where
  method := .delete
  url := request.url
  contentType := request.contentType
  serializeBody := request.serializeBody
  body := none
  attempt := request.attempt

variable {request : Request} {own : List (String × String)}

/-- What a removal of the request is, however its body would have been sent. -/
structure IsRemovalOf (request other : Request) : Prop where
  method : other.method = .delete
  url : other.url = request.url
  contentType : other.contentType = request.contentType
  body : other.body = none
  attempt : other.attempt = request.attempt

/-- There is nothing to encode, and the URL stays as it is. -/
theorem encode_removal (request : Request) : request.removal.encode = .ok ⟨request.url, none⟩ :=
  encode_of_not_carriesBody (show request.removal.payload = .ok none from rfl) rfl

theorem sentAlike_of_isRemovalOf {other : Request} (removes : request.IsRemovalOf other) :
    request.removal.SentAlike other := by
  obtain ⟨method, url, contentType, serializeBody, body, attempt⟩ := other
  obtain ⟨rfl, rfl, rfl, rfl, rfl⟩ := removes
  exact ⟨fun own => rfl, rfl⟩

theorem prepare_removal_ne_encode (fault : EncodeFault) :
    request.removal.prepare own ≠ .error (.encode fault) := by
  intro refused
  rcases error_of_prepare refused with ⟨fault', unwritten, -⟩ | ⟨-, fault', -, transport, -⟩
  · rw [encode_removal] at unwritten
    cases unwritten
  · cases transport

/-- A removal goes on the wire bare: no body, and nothing appended to the URL. -/
theorem bare_of_prepare_removal {wire : WireRequest}
    (prepared : request.removal.prepare own = .ok wire) :
    wire.method = .delete ∧ wire.body = none ∧
      ∃ given, Url.parse request.url = .ok given ∧ wire.url = given.withoutLogin := by
  obtain ⟨given, parsed, -, -, -, -, rfl⟩ :=
    (prepare_eq_ok_iff_of_encode request.encode_removal).mp prepared
  exact ⟨rfl, rfl, given, parsed, rfl⟩

end Request

/-- Nothing that comes back is a failure to encode. -/
theorem outcome_ne_encode (wire : WireRequest) (arrival : Arrival) (fault : EncodeFault) :
    arrival.outcome wire ≠ .error (.encode fault) := by
  cases arrival with
  | response status headers body =>
    intro same
    have reading := reading_of_response wire status headers body
    rw [same] at reading
    cases reading
  | unreachable | noResponse timedOut | brokenBody timedOut => exact fun same => nomatch same

theorem Client.outcome_ne_encode_of_executes {client : Client} {request : Request}
    {events : List Event} {ending : Ending}
    (executes : client.Executes request.removal events (some ending)) (fault : EncodeFault) :
    ending.outcome ≠ .error (.encode fault) := by
  have has := (keeps_of_executes executes).outcome ending rfl
  intro same
  rw [same] at has
  generalize gives : (.error (.encode fault) : Outcome) = outcome at has
  cases has with
  | refused refused =>
    obtain rfl := Except.error.inj gives
    exact Request.prepare_removal_ne_encode fault refused
  | answered arrival prepared => exact outcome_ne_encode _ arrival fault gives.symm

/-- From one world to the other what is at a URL was to be removed: that is no failure to encode, and
what was sent for it is bare. -/
structure World.RemovalTo (url : String) (outcome : Outcome) (w w' : World) : Prop where
  encodes : ∀ fault, outcome ≠ .error (.encode fault)
  bare : ∃ events, w'.journal = w.journal ++ events ∧
    ∀ wire busy delivered, .sent wire busy delivered ∈ events →
      wire.method = .delete ∧ wire.body = none ∧
        ∃ given, Url.parse url = .ok given ∧ wire.url = given.withoutLogin

/-- A removal by itself is an execution, so it is bound to the same. -/
theorem Client.removalTo_of_remove {client : Client} {request : Request} {outcome : Outcome}
    {w w' : World} (removed : client.remove request w = some (outcome, w')) :
    w.RemovalTo request.url outcome w' := by
  have executed : client.execute request.removal w = some (outcome, w') := removed
  rw [execute_apply] at executed
  obtain ⟨⟨ending, w''⟩, ended, same⟩ := Option.map_eq_some_iff.mp executed
  obtain ⟨rfl, rfl⟩ := Prod.mk.inj same
  obtain ⟨k, -, -, -, -, journal⟩ := turns_of_run ended
  have executes : client.Executes request.removal _ (some ending) := .alone ended journal
  refine ⟨outcome_ne_encode_of_executes executes, _, journal, fun wire busy delivered sent => ?_⟩
  have puts : client.Puts request.removal wire :=
    ⟨_, _, _, _, .first, executes, busy, delivered, sent⟩
  exact Request.bare_of_prepare_removal (prepare_of_puts puts)

/-! ## All forms in full -/

/-- How the awaited calls of a client come down to one of them, and that one to a run. -/
structure Client.AwaitsOneWay (client : Client) (P R : Type) : Prop where
  /-- The one that they come down to gives the outcome of a run. -/
  execute : ∀ request w,
    client.execute request w = (client.run request w).map fun p => (p.1.outcome, p.2)
  fetch : ∀ request, (Call.fetch client request : Call P R).SameAs (.execute client request)
  executeBlocking : ∀ request,
    (Call.executeBlocking client request : Call P R).SameAs (.execute client request)
  get : ∀ url, (Call.get client url : Call P R).SameAs (.execute client (.new .get url))
  delete : ∀ url, (Call.delete client url : Call P R).SameAs (.execute client (.new .delete url))
  remove : ∀ request,
    (Call.remove client request : Call P R).SameAs (.execute client request.removal)
  /-- How the body of a request would have been sent is not seen of its removal. -/
  removeAlike : ∀ request other, request.IsRemovalOf other →
    (Call.remove client request : Call P R).Alike (.execute client other)
  removalEncodes : ∀ (request : Request) events ending,
    client.Executes request.removal events (some ending) →
    ∀ fault, ending.outcome ≠ .error (.encode fault)
  removalBare : ∀ (request : Request) wire, client.Puts request.removal wire →
    wire.method = .delete ∧ wire.body = none ∧
      ∃ given, Url.parse request.url = .ok given ∧ wire.url = given.withoutLogin
  /-- By themselves both forms of removal give and send what such an execution does. -/
  removed : ∀ (request : Request) w outcome w', client.remove request w = some (outcome, w') →
    w.RemovalTo request.url outcome w'
  deleted : ∀ url w outcome w', client.delete url w = some (outcome, w') →
    w.RemovalTo url outcome w'
  post : ∀ url (body : Datum) document, body.toJson = .ok document →
    (Call.post client url body : Call P R).SameAs
      (.execute client ⟨.post, url, some "application/json", false, some document, 1⟩)
  put : ∀ url (body : Datum) document, body.toJson = .ok document →
    (Call.put client url body : Call P R).SameAs
      (.execute client ⟨.put, url, some "application/json", false, some document, 1⟩)
  /-- A value without a document fails, and that is all that happens. -/
  noDocument : ∀ url (body : Datum) fault, body.toJson = .error fault →
    ∀ call : Call P R, call = .post client url body ∨ call = .put client url body → ∀ w,
      call.perform w = some (.outcome (.error (.encode (.notJson fault))), w) ∧
        ∀ traffic : Traffic, traffic.step (.call call) w = some (traffic, w)

namespace Client

variable {P R : Type}

theorem noDocument_of_toJson {client : Client} {url : String} {body : Datum} {fault : DatumFault}
    (failed : body.toJson = .error fault) {call : Call P R}
    (sends : call = .post client url body ∨ call = .put client url body) (w : World) :
    call.perform w = some (.outcome (.error (.encode (.notJson fault))), w) ∧
      ∀ traffic : Traffic, traffic.step (.call call) w = some (traffic, w) := by
  obtain ⟨no_post, no_put⟩ := Call.run?_of_no_document (P := P) (R := R) failed client url
  rcases sends with rfl | rfl
  · refine ⟨?_, ((Call.takesPart _).refused no_post w).2⟩
    simp only [Call.perform, Client.post, failed]
    rfl
  · refine ⟨?_, ((Call.takesPart _).refused no_put w).2⟩
    simp only [Call.perform, Client.put, failed]
    rfl

/-- **All awaited calls are one.** On any client, and so on any copy of it, which is the same client:
each call is the execution of a request, alone and among whatever else goes on, so it sends the same,
gives the same and moves the indicator in the same way. A removal never fails by its encoding, and is
sent bare; a value that is sent as JSON has a document, or nothing happens at all. -/
theorem awaits_one_way (client : Client) (P R : Type) : client.AwaitsOneWay P R where
  execute := execute_apply client
  fetch := fun _ => Call.sameAs_execute rfl rfl
  executeBlocking := fun _ => Call.sameAs_execute rfl rfl
  get := fun _ => Call.sameAs_execute rfl rfl
  delete := fun _ => Call.sameAs_execute rfl rfl
  remove := fun _ => Call.sameAs_execute rfl rfl
  removeAlike := by
    intro request other removes w
    have same : (Call.remove client request : Call P R).SameAs (.execute client request.removal) :=
      Call.sameAs_execute rfl rfl
    rw [same.alone]
    exact alike_of_sentAlike (Request.sentAlike_of_isRemovalOf removes) w
  removalEncodes := fun _ _ _ executes => outcome_ne_encode_of_executes executes
  removalBare := fun _ _ puts => Request.bare_of_prepare_removal (prepare_of_puts puts)
  removed := fun _ _ _ _ removed => removalTo_of_remove removed
  deleted := by
    intro url w outcome w' deleted
    have removed : client.remove (.new .delete url) w = some (outcome, w') := deleted
    exact removalTo_of_remove removed
  post := by
    intro url body document written
    refine Call.sameAs_execute ?_ rfl
    simp only [Call.run?, Call.documentRequest?, written]
    rfl
  put := by
    intro url body document written
    refine Call.sameAs_execute ?_ rfl
    simp only [Call.run?, Call.documentRequest?, written]
    rfl
  noDocument := fun _ _ _ failed _ sends => noDocument_of_toJson failed sends

/-- A request that cannot be encoded can be removed all the same, and that is sent without a body. -/
theorem awaits_one_way_unencodable :
    let client := sample 1
    let request : Request := ⟨.put, "http://h/schema", none, true, some (.array [.null]), 1⟩
    request.encode = .error .nonEmptyArray ∧ ∃ wire events ending,
      client.Executes request.removal events (some ending) ∧
      client.Puts request.removal wire ∧ wire.body = none ∧
      ∀ fault, ending.outcome ≠ .error (.encode fault) := by
  intro client request
  have oneWay := awaits_one_way client Unit Unit
  have sendable : ((⟨.delete, "http://h/schema", none, true, none, 1⟩ : Request).prepare
      ClientOptions.standard.headers).isOk = true := by rfl
  cases prepared : Request.prepare ⟨.delete, "http://h/schema", none, true, none, 1⟩
      ClientOptions.standard.headers with
  | error error => rw [prepared] at sendable; cases sendable
  | ok wire =>
    have below : client.options.maxRetries.toNat < 4294967295 := by decide
    obtain ⟨ending, w', events, ended, journal⟩ :=
      run_ends below request.removal (sampleWorld World.nowhere)
    have executes : client.Executes request.removal events (some ending) := .alone ended journal
    have puts : client.Puts request.removal wire :=
      ⟨_, _, _, _, .first, executes, sent_of_run prepared ended journal⟩
    exact ⟨rfl, wire, events, ending, executes, puts, (oneWay.removalBare request wire puts).2.1,
      oneWay.removalEncodes request events ending executes⟩

end Client

end CatalogClient

import CatalogClient.Proofs.Calls
import CatalogClient.Proofs.Json.ReadBack
import CatalogClient.Proofs.Prepare
import CatalogClient.Proofs.Run

/-!
# Documents sent and answered

A document goes out as its compact form, and this form decodes to the document again. So a server
that gives a PUT's body back has answered with the document that was put
(`json_body_decodes_back`).
-/

namespace CatalogClient

open Json (Every Exact)

theorem encode_withJsonBody (request : Request) (document : Json)
    (carries : request.method = .post ∨ request.method = .put) :
    (request.withJsonBody document).encode = .ok ⟨request.url, some document.render⟩ :=
  Request.encode_of_carriesBody rfl (Method.carriesBody_eq_true_iff.mpr carries)

theorem ofBody_render {document : Json} {status : Status} (exact : Every Exact document)
    (shallow : document.depth ≤ 127) (content : status ≠ 204) :
    Payload.ofBody .json status document.render = .ok (.json document) := by
  simp only [Payload.ofBody, if_neg content, Json.read_render exact shallow]

namespace Client

/-- A success at the first attempt is the outcome of the whole request. -/
theorem execute_of_first_success {client : Client} {request : Request} {w : World}
    {success : Success} (first : client.outcomes request w 0 = .ok success) :
    ∃ w', client.execute request w = some (.ok success, w') := by
  have stop : client.Stops request w 0 := by
    rw [stops_zero, first]
    trivial
  obtain ⟨w', -, ended, -⟩ := run_eq_some (fun i hi => absurd hi (Nat.not_lt_zero i)) stop
  refine ⟨w', ?_⟩
  rw [execute_apply, ended, Option.map_some, outcome_endingOf, first]

/-- The next request is answered by a success with content that gives its body back. -/
def EchoesNext (w : World) (wire : WireRequest) (status : Status) : Prop :=
  status.isSuccess = true ∧ status ≠ 204 ∧
    ∃ headers, w.network w.sent = .response status headers (wire.body.getD "")

theorem encode_put (url : String) (document : Json) :
    (documentRequest .put url document).encode = .ok ⟨url, some document.render⟩ :=
  encode_withJsonBody ((Request.new .put url).withContentType "application/json") document
    (.inr rfl)

theorem prepare_put {url : String} {document : Json} {own : List (String × String)}
    {wire : WireRequest} (sent : (documentRequest .put url document).prepare own = .ok wire) :
    wire.method = .put ∧ wire.body = some document.render := by
  obtain ⟨given, -, -, -, -, -, rfl⟩ :=
    (Request.prepare_eq_ok_iff_of_encode (encode_put url document)).mp sent
  exact ⟨rfl, rfl⟩

/-- Which document it is has no part in whether it can be put. -/
theorem prepare_put_other {url : String} {document : Json} {own : List (String × String)}
    {wire : WireRequest} (sent : (documentRequest .put url document).prepare own = .ok wire)
    (other : Json) : ∃ wire, (documentRequest .put url other).prepare own = .ok wire := by
  obtain ⟨given, parsed, host, valid, http, sendable, -⟩ :=
    (Request.prepare_eq_ok_iff_of_encode (encode_put url document)).mp sent
  exact ⟨_, (Request.prepare_eq_ok_iff_of_encode (encode_put url other)).mpr
    ⟨given, parsed, host, valid, http, sendable, rfl⟩⟩

/-- The outcome of putting a document on a server that gives it back. -/
theorem put_of_echo {client : Client} {url : String} {body : Datum} {document : Json}
    {wire : WireRequest} {status : Status} {w : World} (exact : Every Exact document)
    (shallow : document.depth ≤ 127) (written : body.toJson = .ok document)
    (sent : (documentRequest .put url document).prepare client.options.headers = .ok wire)
    (echoes : EchoesNext w wire status) :
    ∃ success w', client.put url body w = some (.ok success, w') ∧
      success.json? = some document := by
  obtain ⟨ok, content, headers, answer⟩ := echoes
  obtain ⟨is_put, has_body⟩ := prepare_put sent
  rw [has_body, Option.getD_some] at answer
  have first : client.outcomes (documentRequest .put url document) w 0 =
      .ok ⟨.json document, status, status.reasonPhrase?.getD "", headers⟩ := by
    have read := ofBody_render exact shallow content
    simp only [outcomes, sent, Nat.add_zero, answer, Arrival.outcome, ok, if_true, is_put,
      Method.responseKind, read]
    rfl
  obtain ⟨w', ended⟩ := execute_of_first_success first
  refine ⟨⟨.json document, status, status.reasonPhrase?.getD "", headers⟩, w', ?_, rfl⟩
  simp only [put, written]
  exact ended

end Client

/-- **Decoding undoes encoding.** A document that nests at most 127 deep and has whole numbers only
goes out under its own URL as a text that decodes to the same document, whatever the status, unless
it says that there is no content. So a document that is put comes back from a server that gives back
the body. -/
theorem json_body_decodes_back (request : Request) (document : Json)
    (exact : Every Exact document) (shallow : document.depth ≤ 127)
    (carries : request.method = .post ∨ request.method = .put) :
    ∃ text, (request.withJsonBody document).encode = .ok ⟨request.url, some text⟩ ∧
      (∀ status, status ≠ 204 → Payload.ofBody .json status text = .ok (.json document)) ∧
      ∀ (client : Client) (url : String) (body : Datum) (wire : WireRequest) (status : Status)
        (w : World), body.toJson = .ok document →
        (Client.documentRequest .put url document).prepare client.options.headers = .ok wire →
        Client.EchoesNext w wire status →
        ∃ success w', client.put url body w = some (.ok success, w') ∧
          success.json? = some document :=
  ⟨document.render, encode_withJsonBody request document carries,
    fun _ content => ofBody_render exact shallow content,
    fun _ _ _ _ _ _ written sent echoes => Client.put_of_echo exact shallow written sent echoes⟩

/-- The ends of the 64-bit range, an empty key and a key of signs to escape, in lists and objects
inside each other, put on a server that gives them back. -/
theorem json_body_decodes_back_at_limits :
    let document : Json := .object [
      ("", .array [.number (.whole (-9223372036854775808) (by decide)),
        .array [.number (.whole 18446744073709551615 (by decide)), .null]]),
      ("\"\\\n\x01é", .object [])]
    let request := Request.new .put "http://h/x"
    let w := Client.sampleWorld fun _ => .response 201 [] document.render
    Every Exact document ∧ document.depth ≤ 127 ∧
    ∃ text, (request.withJsonBody document).encode = .ok ⟨"http://h/x", some text⟩ ∧
      Payload.ofBody .json 500 text = .ok (.json document) ∧
      ∃ success w', (Client.sample 1).put "http://h/x" (.document document) w =
          some (.ok success, w') ∧
        success.json? = some document := by
  intro document request w
  have leaf : ∀ {v : Json}, Exact v → v.children = [] → Every Exact v := fun here none =>
    .intro here (by rw [none]; exact fun _ mem => absurd mem List.not_mem_nil)
  have pair : ∀ {v first last : Json}, v ∈ [first, last] → v = first ∨ v = last := fun mem =>
    (List.mem_cons.mp mem).imp_right List.mem_singleton.mp
  have exact : Every Exact document := by
    have ordered : Exact document :=
      List.pairwise_pair.mpr (show "" < "\"\\\n\x01é" by decide +kernel)
    refine .intro ordered fun child mem => ?_
    rcases pair mem with rfl | rfl
    · refine .intro trivial fun item mem => ?_
      rcases pair mem with rfl | rfl
      · exact leaf trivial rfl
      · refine .intro trivial fun item mem => ?_
        rcases pair mem with rfl | rfl <;> exact leaf trivial rfl
    · exact leaf List.Pairwise.nil rfl
  have shallow : document.depth ≤ 127 := by decide
  obtain ⟨text, encodes, decodes, echo⟩ :=
    json_body_decodes_back request document exact shallow (.inr rfl)
  have null_sent : ((Client.documentRequest .put "http://h/x" .null).prepare
      ClientOptions.standard.headers).isOk = true := by rfl
  cases sent : (Client.documentRequest .put "http://h/x" .null).prepare
      ClientOptions.standard.headers with
  | error fault => rw [sent] at null_sent; cases null_sent
  | ok wire =>
    obtain ⟨wire, sent⟩ := Client.prepare_put_other sent document
    refine ⟨exact, shallow, text, encodes, decodes 500 (by decide), ?_⟩
    refine echo (Client.sample 1) "http://h/x" (.document document) wire 201 w rfl sent ?_
    exact ⟨rfl, by decide, [], by rw [(Client.prepare_put sent).2]; rfl⟩

end CatalogClient

import CatalogClient.Proofs.Form
import CatalogClient.Proofs.Prepare
import CatalogClient.Proofs.Splice

/-!
# Payloads in queries

A method that carries no body has its payload put behind the URL, and whether the server receives it
whole depends on both texts. `payload_whole_iff` is the exact condition. A URL with a fragment fails
it for every payload (`payload_lost_in_fragment`); a form meets its part of it always
(`isHarmless_form`).
-/

namespace CatalogClient

namespace Url

theorem query_withoutLogin (url : Url) : url.withoutLogin.query = url.query := by
  unfold withoutLogin
  split <;> rfl

theorem withoutLogin_withQuery (url : Url) (query : Option (List Char)) :
    { url with query := query }.withoutLogin = { url.withoutLogin with query := query } := by
  unfold withoutLogin login?
  split <;> rfl

/-- The query that holds the whole of a payload, after the URL's own query if there is one. -/
def wholeQuery (url : Url) (payload : String) : List Char :=
  joined url.query (url.writtenQuery payload.toList)

/-- Blanks are written with a percent sign. -/
theorem writtenQuery_of_edges (url : Url) {blanks : List Char}
    (edges : ∀ c ∈ blanks, isEdge c = true) :
    blanks = [] ∨ ∃ more, url.writtenQuery blanks = '%' :: more := by
  cases blanks with
  | nil => exact .inl rfl
  | cons c blanks =>
    right
    have dropped : keptInQuery (isSpecial url.scheme) c = false := by
      have edge := edges c List.mem_cons_self
      simp only [isEdge, decide_eq_true_eq] at edge
      simp [keptInQuery, isGraphic, Nat.not_lt.mpr edge]
    obtain ⟨digits, written⟩ := exists_percentChar c
    exact ⟨digits ++ url.writtenQuery blanks, by
      rw [writtenQuery, percentEncode_cons, dropped, written]; rfl⟩

/-- The whole payload is in the query exactly if nothing of it is dropped and nothing comes between
it and the URL's own query. -/
theorem query_eq_wholeQuery_iff {text payload : String} {own given : Url} (full : payload ≠ "")
    (read : parse text = .ok own) (spliced : parse (Request.appendQuery text payload) = .ok given) :
    given.query = some (own.wholeQuery payload) ↔
      '#' ∉ text.toList ∧ IsHarmless payload.toList ∧
        (own.query = none ∨ blanksBehind text.toList = []) := by
  rw [query_of_appendQuery full read spliced, wholeQuery, ← taken_eq_self_iff]
  have edges := writtenQuery_of_edges own
    (fun _ (mem : _ ∈ blanksBehind text.toList) => isEdge_of_mem_blanksBehind mem)
  have lossless : own.writtenQuery (taken payload.toList) = own.writtenQuery payload.toList ↔
      taken payload.toList = payload.toList :=
    ⟨eq_of_percentEncode_eq (taken_sublist _), congrArg _⟩
  by_cases marked : '#' ∈ text.toList
  · rw [if_pos marked]
    simp only [marked, not_true, false_and, iff_false]
    intro same
    cases query : own.query with
    | none =>
      rw [query] at same
      cases same
    | some query' =>
      rw [query] at same
      have lengths := congrArg List.length (Option.some.inj same)
      simp [joined] at lengths
  · rw [if_neg marked]
    simp only [marked, not_false_eq_true, true_and, Option.some.injEq]
    cases query : own.query with
    | none => simp only [Option.map_none, joined, lossless, true_or, and_true]
    | some query' =>
      simp only [Option.map_some, joined, List.append_assoc, List.append_cancel_left_eq]
      rcases edges with none | ⟨more, written⟩
      · simp [none, writtenQuery, ← lossless]
      · have some_blank : blanksBehind text.toList ≠ [] := by
          intro none
          rw [none] at written
          cases written
        simp [written, some_blank]

end Url

namespace Request

/-- The signs of a form are none that a query drops or takes for a mark. -/
theorem isHarmless_form (pairs : List (String × String)) :
    Url.IsHarmless (Form.render pairs).toList := by
  have small : ∀ n : Fin 33, ¬ (isUnreserved (Char.ofNat n) ∨ Char.ofNat n = '%' ∨
      Char.ofNat n = '=' ∨ Char.ofNat n = '&') := by decide
  refine Url.isHarmless_of_shown (fun c mem => ?_) fun mem => ?_
  · rw [← Bool.not_eq_true]
    intro edge
    have bound : c.toNat < 33 := Nat.lt_succ_of_le (of_decide_eq_true edge)
    have not_form := small ⟨c.toNat, bound⟩
    rw [Char.ofNat_toNat] at not_form
    exact not_form (Form.mem_render mem)
  · exact absurd (Form.mem_render mem) (by decide)

/-- The request without its payload. -/
def withoutBody (request : Request) : Request := { request with body := none }

theorem encode_withoutBody (request : Request) :
    request.withoutBody.encode = .ok ⟨request.url, none⟩ := by
  have nothing : request.withoutBody.payload = .ok none := rfl
  cases body : request.withoutBody.method.carriesBody with
  | true => exact encode_of_carriesBody nothing body
  | false => exact encode_of_not_carriesBody nothing body

/-- **When a payload reaches the server whole.** It does exactly if the URL has no fragment and no
blanks behind its query, and the payload has no `#`, no tabs or line ends and no blanks at its end.
Nothing but the query is changed by it then. -/
theorem payload_whole_iff (request : Request) {url : Url} {payload : String}
    (bare : request.method = .get ∨ request.method = .delete)
    (valid : Url.parse request.url = .ok url) (http : url.isHttp = true)
    (has : request.payload = .ok (some payload)) (full : payload ≠ "") :
    (∀ own bareWire, request.withoutBody.prepare own = .ok bareWire →
      '#' ∉ request.url.toList → Url.blanksBehind request.url.toList = [] →
      Url.IsHarmless payload.toList →
      let sent := { bareWire.url with query := some (url.wholeQuery payload) }
      sent.render.length ≤ 65534 →
      request.prepare own = .ok { bareWire with url := sent }) ∧
    ∀ own wire, request.prepare own = .ok wire →
      (wire.url.query = some (url.wholeQuery payload) ↔
        '#' ∉ request.url.toList ∧ Url.IsHarmless payload.toList ∧
          (url.query = none ∨ Url.blanksBehind request.url.toList = [])) := by
  have encodes := encode_of_not_carriesBody has (Method.carriesBody_eq_false_iff.mpr bare)
  constructor
  · intro own bareWire sendable no_fragment no_blanks harmless sent short
    obtain ⟨given, parsed, host, headers, isHttp, sends, rfl⟩ :=
      (prepare_eq_ok_iff_of_encode request.encode_withoutBody).mp sendable
    obtain rfl := Except.ok.inj (valid.symm.trans parsed)
    have read := Url.parse_appendQuery full valid http no_fragment no_blanks harmless
    have known : (url.withoutLogin.authority.any Url.unsentInHost.contains) = false := by
      simpa using (Bool.and_eq_true_iff.mp sends).2
    have sendable : sent.isSendable = true := by
      simp only [Url.isSendable, short, decide_true, Bool.true_and, Bool.not_eq_true']
      exact known
    refine (prepare_eq_ok_iff_of_encode encodes).mpr ⟨_, read, ?_⟩
    rw [Url.withoutLogin_withQuery]
    exact ⟨host, headers, isHttp, sendable, rfl⟩
  · intro own wire sent
    obtain ⟨given, parsed, -, -, -, -, rfl⟩ := (prepare_eq_ok_iff_of_encode encodes).mp sent
    rw [Url.query_withoutLogin]
    exact Url.query_eq_wholeQuery_iff full valid parsed

/-- A form with a `#` in a field goes behind the query that the URL has. -/
theorem payload_whole_iff_of_form :
    let request := (Request.new .get "http://h/x?a=1").withRawBody (.object [("q", .string "v#")])
    ∃ url wire, Url.parse request.url = .ok url ∧ url.isHttp = true ∧
      request.payload = .ok (some "q=v%23") ∧ request.prepare [] = .ok wire ∧
      wire.url.query = some (url.wholeQuery "q=v%23") ∧ wire.url.target = "/x?a=1&q=v%23" := by
  intro request
  have valid : Url.parse request.url = .ok ⟨"http".toList, none, some (.domain "h".toList, none),
    .segments ["x".toList], some "a=1".toList, none⟩ := by decide +kernel
  have has : request.payload = .ok (some "q=v%23") := by decide +kernel
  obtain ⟨sends, exactly⟩ := payload_whole_iff request (.inl rfl) valid rfl has (by decide)
  have headers : Header.fault? (request.withoutBody.headers []) = none := by decide +kernel
  have sendable := (prepare_eq_ok_iff_of_encode request.encode_withoutBody).mpr
    ⟨_, valid, rfl, headers, rfl, by decide +kernel, rfl⟩
  have harmless : Url.IsHarmless "q=v%23".toList := by
    have form := isHarmless_form [("q", "v#")]
    rwa [show Form.render [("q", "v#")] = "q=v%23" by decide +kernel] at form
  have sent := sends [] _ sendable (by decide) (by decide) harmless (by decide +kernel)
  exact ⟨_, _, valid, rfl, has, sent, (exactly [] _ sent).mpr
    ⟨by decide, harmless, .inr (by decide)⟩, by decide +kernel⟩

/-- A payload behind a fragment stays with the client: the server is asked for the bare path. -/
theorem payload_lost_in_fragment :
    let request := (Request.new .get "http://h/x#top").withRawBody (.object [("q", .string "v")])
    ∃ url wire, Url.parse request.url = .ok url ∧ url.isHttp = true ∧
      request.payload = .ok (some "q=v") ∧ request.prepare [] = .ok wire ∧
      wire.url.query ≠ some (url.wholeQuery "q=v") ∧ wire.url.target = "/x" := by
  intro request
  have valid : Url.parse request.url = .ok ⟨"http".toList, none, some (.domain "h".toList, none),
    .segments ["x".toList], none, some "top".toList⟩ := by decide +kernel
  have has : request.payload = .ok (some "q=v") := by decide +kernel
  have spliced : Url.parse (appendQuery request.url "q=v") = .ok ⟨"http".toList, none,
    some (.domain "h".toList, none), .segments ["x".toList], none, some "top?q=v".toList⟩ := by
    decide +kernel
  have headers : Header.fault? (request.headers []) = none := by decide +kernel
  have sent := (prepare_eq_ok_iff_of_encode (encode_of_not_carriesBody has rfl)).mpr
    ⟨_, spliced, rfl, headers, rfl, by decide +kernel, rfl⟩
  exact ⟨_, _, valid, rfl, has, sent, nofun, by decide +kernel⟩

end Request

end CatalogClient

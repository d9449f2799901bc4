import CatalogClient.Client.Basic

/-!
# What it takes to send a request

`prepare_eq_ok_iff` lists all that has to hold of a request for it to go on the wire, and what goes on
the wire then; `error_of_prepare` says how a request fails that does not go on the wire. Whatever is
proved about sent requests starts from them.
-/

namespace CatalogClient

namespace Url

@[simp] theorem hasHost_withoutLogin (url : Url) : url.withoutLogin.hasHost = url.hasHost := by
  unfold withoutLogin
  split <;> rfl

@[simp] theorem isHttp_withoutLogin (url : Url) : url.withoutLogin.isHttp = url.isHttp := by
  unfold withoutLogin
  split <;> rfl

end Url

namespace Header

/-- The header can be sent. -/
def IsValid (header : String × String) : Prop :=
  isName header.1 = true ∧ isValue header.2 = true

theorem fault?_eq_none_iff {headers : List (String × String)} :
    fault? headers = none ↔ ∀ header ∈ headers, IsValid header := by
  induction headers with
  | nil => simp [fault?]
  | cons header more ih =>
    obtain ⟨name, value⟩ := header
    rw [List.forall_mem_cons, ← ih, fault?, IsValid]
    cases isName name <;> cases isValue value <;> simp

end Header

namespace Request

/-- What a request adds to the client's own headers is valid but for its content type, perhaps. -/
theorem fault?_headers_eq_none_iff {request : Request} {own : List (String × String)} :
    Header.fault? (request.headers own) = none ↔
      (∀ header ∈ own, Header.IsValid header) ∧
        ∀ text, request.contentType = some text → Header.isValue text = true := by
  have accept : Header.IsValid ("Accept", request.method.responseKind.accept) := by
    cases request.method <;> exact ⟨by decide +kernel, by decide +kernel⟩
  have name : Header.isName "Content-Type" = true := by decide +kernel
  rw [Header.fault?_eq_none_iff, headers, List.cons_append, List.forall_mem_cons,
    List.forall_mem_append]
  constructor
  · rintro ⟨-, valid, last⟩
    refine ⟨valid, fun text given => ?_⟩
    exact (last ("Content-Type", text) (by simp [given])).2
  · rintro ⟨valid, last⟩
    refine ⟨accept, valid, fun header mem => ?_⟩
    cases given : request.contentType with
    | none => simp [given] at mem
    | some text =>
      obtain rfl : header = ("Content-Type", text) := by simpa [given] using mem
      exact ⟨name, last text given⟩

/-- A request is sent exactly if it can be encoded, its URL is one of HTTP with a host and not too
long, and its headers are valid. -/
theorem prepare_eq_ok_iff {request : Request} {own : List (String × String)} {wire : WireRequest} :
    request.prepare own = .ok wire ↔
      ∃ encoded given, request.encode = .ok encoded ∧ Url.parse encoded.url = .ok given ∧
        given.withoutLogin.hasHost = true ∧ Header.fault? (request.headers own) = none ∧
        given.withoutLogin.isHttp = true ∧ given.withoutLogin.isSendable = true ∧
        wire = ⟨request.method, given.withoutLogin,
          (given.login?.map authorization).toList ++ request.headers own, encoded.body⟩ := by
  constructor
  · intro prepared
    unfold prepare at prepared
    split at prepared
    next => cases prepared
    rename_i encoded written
    split at prepared
    next => cases prepared
    rename_i given parsed
    dsimp only at prepared
    split at prepared
    next => cases prepared
    rename_i host
    split at prepared
    next => cases prepared
    rename_i valid
    split at prepared
    next => cases prepared
    rename_i http
    split at prepared
    next => cases prepared
    rename_i sendable
    exact ⟨encoded, given, written, parsed, by simpa using host, valid, by simpa using http,
      by simpa using sendable, (Except.ok.inj prepared).symm⟩
  · rintro ⟨encoded, given, written, parsed, host, valid, http, sendable, rfl⟩
    simp only [prepare, written, parsed, host, valid, http, sendable, Bool.not_true,
      Bool.false_eq_true, if_false]

theorem prepare_eq_ok_iff_of_encode {request : Request} {encoded : EncodedRequest}
    {own : List (String × String)} {wire : WireRequest} (encodes : request.encode = .ok encoded) :
    request.prepare own = .ok wire ↔
      ∃ given, Url.parse encoded.url = .ok given ∧
        given.withoutLogin.hasHost = true ∧ Header.fault? (request.headers own) = none ∧
        given.withoutLogin.isHttp = true ∧ given.withoutLogin.isSendable = true ∧
        wire = ⟨request.method, given.withoutLogin,
          (given.login?.map authorization).toList ++ request.headers own, encoded.body⟩ := by
  rw [prepare_eq_ok_iff]
  constructor
  · rintro ⟨encoded', given, encodes', rest⟩
    obtain rfl := Except.ok.inj (encodes.symm.trans encodes')
    exact ⟨given, rest⟩
  · rintro ⟨given, rest⟩
    exact ⟨encoded, given, encodes, rest⟩

/-- A request that is not sent cannot be encoded, or else the transport refuses it by itself. -/
theorem error_of_prepare {request : Request} {own : List (String × String)} {error : FetchError}
    (refused : request.prepare own = .error error) :
    (∃ fault, request.encode = .error fault ∧ error = .encode fault) ∨
      ∃ encoded fault, request.encode = .ok encoded ∧ error = .transport fault ∧
        fault.isLocal = true := by
  unfold prepare at refused
  split at refused
  next fault unwritten =>
    exact .inl ⟨fault, unwritten, (Except.error.inj refused).symm⟩
  rename_i encoded written
  -- whatever else stands in the way is found by the transport
  have transport : ∀ {fault : TransportFault}, fault.isLocal = true →
      (.error (.transport fault) : Except FetchError WireRequest) = .error error →
      (∃ fault, request.encode = .error fault ∧ error = .encode fault) ∨
        ∃ encoded fault, request.encode = .ok encoded ∧ error = .transport fault ∧
          fault.isLocal = true :=
    fun isLocal same => .inr ⟨encoded, _, written, (Except.error.inj same).symm, isLocal⟩
  split at refused
  next => exact transport rfl refused
  dsimp only at refused
  split at refused
  next => exact transport rfl refused
  split at refused
  next => exact transport rfl refused
  split at refused
  next => exact transport rfl refused
  split at refused
  next => exact transport rfl refused
  cases refused

end Request

end CatalogClient

import CatalogClient.Proofs.Form
import CatalogClient.Proofs.Prepare

/-!
# Which requests can be encoded

A body in wire form is a form only if it is flat, and the first field that is not gives its name to the
fault (`pairs_eq_error_iff`). Nothing else keeps a request from being encoded: `encodes_exactly` says
which requests fail, how, and what all others come to.
-/

namespace CatalogClient

namespace Form

/-- The field keeps an object from being a form, under this name: the key of an object, or the key of
an array with `[]` if an item of the array has parts. -/
inductive Offends : String → String × Json → Prop
  | object {key : String} {fields : List (String × Json)} : Offends key (key, .object fields)
  | item {key : String} {items : List Json} {item : Json} :
    item ∈ items → item.isScalar = false → Offends (key ++ "[]") (key, .array items)

/-- The field under this name comes before all others that keep an object from being a form. -/
def FirstOffends (name : String) (fields : Fields Json) : Prop :=
  ∃ before field after, fields = before ++ field :: after ∧ Offends name field ∧
    ∀ other ∈ before, ∀ name', ¬ Offends name' other

/-- A field is flat exactly if there is no name under which it offends. -/
theorem isFlat_iff {field : String × Json} :
    field.2.isFlat = true ↔ ∀ name, ¬ Offends name field := by
  obtain ⟨key, value⟩ := field
  cases value with
  | array items =>
    constructor
    · rintro flat name (_ | ⟨mem, parts⟩)
      rw [List.all_eq_true.mp flat _ mem] at parts
      cases parts
    · intro harmless
      refine List.all_eq_true.mpr fun item mem => ?_
      rw [← Bool.not_eq_false]
      exact fun parts => harmless _ (.item mem parts)
  | object fields => exact ⟨nofun, fun harmless => absurd .object (harmless key)⟩
  | null | bool | number | string => exact ⟨fun _ _ => nofun, fun _ => rfl⟩

/-! ## Fields that offend -/

theorem pair_of_not_isScalar (key : String) {value : Json} (h : value.isScalar = false) :
    pair key value = .error (.nestedField key) := by
  cases value with
  | array | object => rfl
  | null | bool | number | string => cases h

/-- One item with parts is enough, whichever it is: all items go by one name. -/
theorem mapM_pair_of_not_isScalar (key : String) {items : List Json} {item : Json}
    (mem : item ∈ items) (parts : item.isScalar = false) :
    items.mapM (pair key) = .error (.nestedField key) := by
  induction items with
  | nil => cases mem
  | cons first more ih =>
    rw [List.mapM_cons]
    cases scalar : first.isScalar with
    | false =>
      rw [pair_of_not_isScalar key scalar]
      rfl
    | true =>
      have later : item ∈ more := by
        rcases List.mem_cons.mp mem with rfl | later
        · rw [scalar] at parts
          cases parts
        · exact later
      rw [pair_of_isScalar key scalar, ih later]
      rfl

theorem pairsOfField_of_offends {name : String} {field : String × Json}
    (h : Offends name field) : pairsOfField field = .error (.nestedField name) := by
  cases h with
  | object => rfl
  | @item key items item mem parts => exact mapM_pair_of_not_isScalar (key ++ "[]") mem parts

/-- The first field that offends is the one that is named. -/
theorem pairs_of_firstOffends {name : String} {fields : Fields Json}
    (h : FirstOffends name fields) : pairs fields = .error (.nestedField name) := by
  obtain ⟨before, field, after, rfl, offends, harmless⟩ := h
  induction before with
  | nil =>
    rw [List.nil_append, pairs, pairsOfField_of_offends offends]
    rfl
  | cons first before ih =>
    have flat := isFlat_iff.mpr (harmless first List.mem_cons_self)
    rw [List.cons_append, pairs, pairsOfField_of_isFlat flat,
      ih fun other mem => harmless other (List.mem_cons_of_mem _ mem)]
    rfl

/-- Where some field offends, one is the first to do so. -/
theorem exists_firstOffends {name : String} {field : String × Json} {fields : Fields Json}
    (mem : field ∈ fields) (offends : Offends name field) : ∃ name, FirstOffends name fields := by
  induction fields with
  | nil => cases mem
  | cons first more ih =>
    by_cases here : ∃ name, Offends name first
    · obtain ⟨name', offends'⟩ := here
      exact ⟨name', [], first, more, rfl, offends', fun _ mem => absurd mem List.not_mem_nil⟩
    · have later : field ∈ more := by
        rcases List.mem_cons.mp mem with rfl | later
        · exact absurd ⟨name, offends⟩ here
        · exact later
      obtain ⟨name', before, field', after, rfl, offends', harmless⟩ := ih later
      refine ⟨name', first :: before, field', after, rfl, offends', fun other mem => ?_⟩
      rcases List.mem_cons.mp mem with rfl | earlier
      · exact not_exists.mp here
      · exact harmless other earlier

/-- **Which objects are no forms**, and what is said of them. -/
theorem pairs_eq_error_iff {fields : Fields Json} {fault : EncodeFault} :
    pairs fields = .error fault ↔ ∃ name, FirstOffends name fields ∧ fault = .nestedField name := by
  constructor
  · intro refused
    by_cases flat : ∀ field ∈ fields, field.2.isFlat = true
    · rw [pairs_of_isFlat flat] at refused
      cases refused
    · obtain ⟨field, mem, nested⟩ : ∃ field ∈ fields, ¬ field.2.isFlat = true := by
        simpa using flat
      obtain ⟨name, offends⟩ : ∃ name, Offends name field := by
        simpa [isFlat_iff] using nested
      obtain ⟨name', first⟩ := exists_firstOffends mem offends
      rw [pairs_of_firstOffends first] at refused
      exact ⟨name', first, (Except.error.inj refused).symm⟩
  · rintro ⟨name, first, rfl⟩
    exact pairs_of_firstOffends first

/-- Where fields are in the order of their keys, no field that offends has a lesser key than the first
one. -/
theorem key_le_of_firstOffends {name : String} {fields : Fields Json} (ordered : fields.Ordered)
    (h : FirstOffends name fields) :
    ∃ field ∈ fields, Offends name field ∧
      ∀ other ∈ fields, ∀ name', Offends name' other → other = field ∨ field.1 < other.1 := by
  obtain ⟨before, field, after, rfl, offends, harmless⟩ := h
  refine ⟨field, by simp, offends, fun other mem name' offends' => ?_⟩
  obtain ⟨-, behind, -⟩ := List.pairwise_append.mp ordered
  rcases List.mem_append.mp mem with earlier | mem
  · exact absurd offends' (harmless other earlier name')
  · rcases List.mem_cons.mp mem with rfl | later
    · exact .inl rfl
    · exact .inr ((List.pairwise_cons.mp behind).1 other later)

end Form

/-! ## Bodies in wire form -/

namespace Json

/-- A body that is supplied in wire form, and has none. -/
inductive LacksWireForm : Json → Prop
  | array {item : Json} {items : List Json} : LacksWireForm (.array (item :: items))
  | object {fields : Fields Json} {field : String × Json} {name : String} :
    field ∈ fields → Form.Offends name field → LacksWireForm (.object fields)

/-- The text of a body in wire form. Null and the empty array have none. -/
def wireText? : Json → Option String
  | .null | .array _ => none
  | .string text => some text
  | .object fields => some (Form.render (Form.flatten fields))
  | value => some value.render

end Json

theorem rawPayload_of_lacksWireForm {body : Json} (h : body.LacksWireForm) :
    ∃ fault, rawPayload body = .error fault := by
  cases h with
  | array => exact ⟨_, rfl⟩
  | @object fields field name mem offends =>
    obtain ⟨name', first⟩ := Form.exists_firstOffends mem offends
    exact ⟨.nestedField name', by rw [rawPayload, Form.pairs_of_firstOffends first]; rfl⟩

theorem rawPayload_of_wireForm {body : Json} (h : ¬ body.LacksWireForm) :
    rawPayload body = .ok body.wireText? := by
  cases body with
  | array items =>
    cases items with
    | nil => rfl
    | cons item items => exact absurd .array h
  | object fields =>
    have flat : ∀ field ∈ fields, field.2.isFlat = true := fun field mem =>
      Form.isFlat_iff.mpr fun name offends => h (.object mem offends)
    rw [rawPayload, Form.pairs_of_isFlat flat]
    rfl
  | null | bool | number | string => rfl

namespace Request

variable {request : Request}

/-- The request has a body that is supplied in wire form, and has none. -/
def LacksWireForm (request : Request) : Prop :=
  request.serializeBody = true ∧ ∃ body, request.body = some body ∧ body.LacksWireForm

/-- The payload of a request: the text of a body in wire form, else the body as JSON text. -/
def wireText? (request : Request) : Option String :=
  request.body.bind fun body =>
    if request.serializeBody then body.wireText? else some body.render

theorem payload_of_lacksWireForm (h : request.LacksWireForm) :
    ∃ fault, request.payload = .error fault := by
  obtain ⟨raw, body, given, lacks⟩ := h
  simp only [payload, given, raw, if_true]
  exact rawPayload_of_lacksWireForm lacks

theorem payload_of_wireForm (h : ¬ request.LacksWireForm) :
    request.payload = .ok request.wireText? := by
  cases given : request.body with
  | none => simp only [payload, wireText?, given, Option.bind_none]
  | some body =>
    simp only [payload, wireText?, given, Option.bind_some]
    cases raw : request.serializeBody with
    | false => rfl
    | true =>
      simp only [if_true]
      exact rawPayload_of_wireForm fun lacks => h ⟨raw, body, given, lacks⟩

/-- A request cannot be encoded exactly if it has no payload to encode. -/
theorem encode_eq_error_iff {fault : EncodeFault} :
    request.encode = .error fault ↔ request.payload = .error fault := by
  cases has : request.payload with
  | error fault' =>
    have refused : request.encode = .error fault' := by
      rw [encode, has]
      rfl
    rw [refused, Except.error.injEq, Except.error.injEq]
  | ok payload =>
    cases carries : request.method.carriesBody with
    | true => simp [encode_of_carriesBody has carries]
    | false => simp [encode_of_not_carriesBody has carries]

theorem exists_encode_eq_error_iff :
    (∃ fault, request.encode = .error fault) ↔ request.LacksWireForm := by
  simp only [encode_eq_error_iff]
  constructor
  · rintro ⟨fault, refused⟩
    refine Classical.byContradiction fun fine => ?_
    rw [payload_of_wireForm fine] at refused
    cases refused
  · exact payload_of_lacksWireForm

/-- A text is appended behind one sign, unless it is empty. -/
theorem appendQuery_of_ne_empty (url : String) {text : String} (full : text ≠ "") :
    appendQuery url text = url ++ (if '?' ∈ url.toList then "&" else "?") ++ text := by
  have some_text : text.isEmpty = false := by
    rw [← Bool.not_eq_true, String.isEmpty_iff]
    exact full
  simp [appendQuery, some_text]

/-! ## Requests in full -/

/-- What encoding makes of a request. -/
structure EncodesExactly (request : Request) : Prop where
  fails : (∃ fault, request.encode = .error fault) ↔
    request.serializeBody = true ∧ ∃ body, request.body = some body ∧ body.LacksWireForm
  /-- A body that goes out as JSON text always can. -/
  document : request.serializeBody = false → ∃ encoded, request.encode = .ok encoded
  /-- How it fails depends on the body alone, and on how the body is sent. -/
  sameBody : ∀ other : Request, other.serializeBody = request.serializeBody →
    other.body = request.body →
    ∀ fault, other.encode = .error fault ↔ request.encode = .error fault
  array : ∀ items fault, request.body = some (.array items) →
    request.encode = .error fault → fault = .nonEmptyArray
  /-- Of an object the first field is named that offends, in the order of the keys. -/
  object : ∀ (fields : Fields Json) fault,
    request.body = some (.object fields) → request.encode = .error fault →
    ∃ name, Form.FirstOffends name fields ∧
      fault.message = "form field '" ++ name ++ "' must hold a scalar value" ∧
      (∀ own, request.prepare own = .error (.encode fault)) ∧
      (fields.Ordered → ∃ field ∈ fields, Form.Offends name field ∧
        ∀ other ∈ fields, ∀ name', Form.Offends name' other → other = field ∨ field.1 < other.1)
  inBody : ∀ encoded, request.encode = .ok encoded →
    request.method = .post ∨ request.method = .put → encoded = ⟨request.url, request.wireText?⟩
  inQuery : ∀ encoded, request.encode = .ok encoded →
    request.method = .get ∨ request.method = .delete →
    encoded.body = none ∧
      (request.wireText? = none ∨ request.wireText? = some "" → encoded.url = request.url) ∧
      ∀ text, request.wireText? = some text → text ≠ "" →
        encoded.url = request.url ++ (if '?' ∈ request.url.toList then "&" else "?") ++ text

/-- A request that can be encoded has its payload. -/
theorem payload_of_encode {encoded : EncodedRequest} (encodes : request.encode = .ok encoded) :
    request.payload = .ok request.wireText? := by
  refine payload_of_wireForm fun lacks => ?_
  obtain ⟨fault, refused⟩ := exists_encode_eq_error_iff.mpr lacks
  rw [encodes] at refused
  cases refused

/-- What a request fails with has the body for a reason. -/
theorem rawPayload_of_encode {body : Json} {fault : EncodeFault} (given : request.body = some body)
    (refused : request.encode = .error fault) : rawPayload body = .error fault := by
  have payload := encode_eq_error_iff.mp refused
  rw [Request.payload, given] at payload
  cases raw : request.serializeBody with
  | true => rwa [raw] at payload
  | false =>
    rw [raw] at payload
    cases payload

/-- **What can be encoded, and what it comes to.** -/
theorem encodes_exactly (request : Request) : request.EncodesExactly where
  fails := exists_encode_eq_error_iff
  document := by
    intro written
    cases outcome : request.encode with
    | ok encoded => exact ⟨encoded, rfl⟩
    | error fault =>
      obtain ⟨raw, -⟩ := exists_encode_eq_error_iff.mp ⟨fault, outcome⟩
      rw [written] at raw
      cases raw
  sameBody := by
    intro other raw body fault
    rw [encode_eq_error_iff, encode_eq_error_iff, payload, payload, raw, body]
  array := by
    intro items fault given refused
    have raw := rawPayload_of_encode given refused
    cases items with
    | nil => cases raw
    | cons item items => exact (Except.error.inj raw).symm
  object := by
    intro fields fault given refused
    have raw := rawPayload_of_encode given refused
    obtain ⟨name, first, rfl⟩ : ∃ name, Form.FirstOffends name fields ∧
        fault = .nestedField name := by
      rw [← Form.pairs_eq_error_iff]
      cases pairs : Form.pairs fields with
      | ok pairs => rw [rawPayload, pairs] at raw; cases raw
      | error fault' => rw [rawPayload, pairs] at raw; exact congrArg _ (Except.error.inj raw)
    refine ⟨name, first, rfl, fun own => ?_,
      fun ordered => Form.key_le_of_firstOffends ordered first⟩
    rw [prepare, refused]
  inBody := by
    intro encoded encodes carries
    have known := encode_of_carriesBody (payload_of_encode encodes)
      (Method.carriesBody_eq_true_iff.mpr carries)
    exact Except.ok.inj (encodes.symm.trans known)
  inQuery := by
    intro encoded encodes bare
    have known := encode_of_not_carriesBody (payload_of_encode encodes)
      (Method.carriesBody_eq_false_iff.mpr bare)
    obtain rfl := Except.ok.inj (encodes.symm.trans known)
    refine ⟨rfl, ?_, fun text has full => ?_⟩
    · rintro (none | empty)
      · simp [none, appendQuery]
      · simp [empty, appendQuery]
    · simp only [has, Option.getD_some]
      exact appendQuery_of_ne_empty _ full

/-- Two fields offend, and the one that comes first by its key has its name in the fault: it is an
array whose second item has parts. An empty array before it does no harm. -/
theorem encodes_exactly_array_first :
    let fields : Fields Json := [("a", .array []), ("b", .array [.null, .object []]),
      ("c", .object [])]
    let request := (Request.new .get "http://h/x?y").withRawBody (.object fields)
    request.encode = .error (.nestedField "b[]") ∧ request.LacksWireForm ∧
      ∃ name, Form.FirstOffends name fields := by
  intro fields request
  have refused : request.encode = .error (.nestedField "b[]") := rfl
  have exactly := encodes_exactly request
  obtain ⟨name, first, -⟩ := exactly.object fields _ rfl refused
  exact ⟨refused, exactly.fails.mp ⟨_, refused⟩, name, first⟩

end Request

end CatalogClient

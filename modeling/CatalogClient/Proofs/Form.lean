import CatalogClient.Request.Encoding
import CatalogClient.Text.Parts

/-!
# Forms read back

`Form.read?` is how a form is read: cut at every `&`, each piece cut at its `=`, and both sides
percent-decoded. It gives back the flattened fields, whatever their keys and texts hold
(`read?_render`), because an encoded text holds neither of the two signs (`mem_encodeComponent`).
`form_fields_arrive` follows the fields through the encoding of a whole request.
-/

namespace CatalogClient

namespace Json

/-- A value without parts. -/
def isScalar : Json → Bool
  | .array _ | .object _ => false
  | .null | .bool _ | .number _ | .string _ => true

/-- What a form can hold under one key: a scalar, or an array of scalars. -/
def isFlat : Json → Bool
  | .array items => items.all isScalar
  | value => value.isScalar

/-- What a form says for a scalar: nothing for null, a string itself, else its JSON text. -/
def formText : Json → String
  | .null => ""
  | .string text => text
  | value => value.render

end Json

namespace Form

/-- The pairs for one field: the items of an array are pairs of their own. -/
def flattenField : String × Json → List (String × String)
  | (key, .array items) => items.map fun item => (key ++ "[]", item.formText)
  | (key, value) => [(key, value.formText)]

/-- The pairs for all fields in their order, which is the order of the keys. -/
def flatten (fields : Fields Json) : List (String × String) := fields.flatMap flattenField

/-! ## Reading -/

/-- The text that one side of a pair stands for, if it is UTF-8. -/
def readComponent? (text : List Char) : Option String :=
  String.fromUTF8? (percentDecode text).toByteArray

/-- Reads a pair, which has exactly one `=`. -/
def readPair? (piece : List Char) : Option (String × String) :=
  match splitAtChar (· = '=') piece with
  | [key, value] => do return (← readComponent? key, ← readComponent? value)
  | _ => none

/-- What stands between the `&`, empty pieces left out. -/
def pieces (text : List Char) : List (List Char) :=
  (splitAtChar (· = '&') text).filter fun piece => !piece.isEmpty

/-- Reads a form. -/
def read? (form : String) : Option (List (String × String)) :=
  (pieces form.toList).mapM readPair?

/-- The pieces of a URL's query, which is all after the first `?`. -/
def queryPieces (url : String) : List (List Char) := pieces ((cut '?' url.toList).2.getD [])

/-! ## Flat fields have a form -/

theorem scalarText?_of_isScalar {value : Json} (h : value.isScalar = true) :
    scalarText? value = some value.formText := by
  cases value with
  | null | string => rfl
  | bool b => cases b <;> rfl
  | number n => simp [scalarText?, Json.formText, Json.render, Json.renderChars]
  | array | object => cases h

theorem pair_of_isScalar (key : String) {value : Json} (h : value.isScalar = true) :
    pair key value = .ok (key, value.formText) := by
  rw [pair, scalarText?_of_isScalar h]

theorem mapM_pair_of_isScalar (key : String) {items : List Json}
    (h : ∀ item ∈ items, item.isScalar = true) :
    items.mapM (pair key) = .ok (items.map fun item => (key, item.formText)) := by
  induction items with
  | nil => rfl
  | cons item items ih =>
    rw [List.mapM_cons, pair_of_isScalar key (h item List.mem_cons_self),
      ih fun other mem => h other (List.mem_cons_of_mem _ mem)]
    rfl

theorem pairsOfField_of_isFlat {field : String × Json} (h : field.2.isFlat = true) :
    pairsOfField field = .ok (flattenField field) := by
  obtain ⟨key, value⟩ := field
  cases value with
  | array items => exact mapM_pair_of_isScalar (key ++ "[]") (List.all_eq_true.mp h)
  | object => cases h
  | null | bool | number | string =>
    simp only [pairsOfField]
    rw [pair_of_isScalar key rfl]
    rfl

theorem pairs_of_isFlat {fields : Fields Json} (h : ∀ field ∈ fields, field.2.isFlat = true) :
    pairs fields = .ok (flatten fields) := by
  induction fields with
  | nil => rfl
  | cons field fields ih =>
    rw [pairs, pairsOfField_of_isFlat (h field List.mem_cons_self),
      ih fun other mem => h other (List.mem_cons_of_mem _ mem)]
    rfl

/-! ## The way back -/

theorem readComponent?_encodeComponent (text : String) :
    readComponent? (encodeComponent text).toList = some text := by
  have octets : percentDecode (encodeComponent text).toList =
      text.toList.flatMap String.utf8EncodeChar := by
    rw [encodeComponent, String.toList_ofList]
    exact percentDecode_percentEncode rfl text.toList
  have bytes : (percentDecode (encodeComponent text).toList).toByteArray = text.toByteArray := by
    rw [octets, ← String.ofList_toList (s := text), String.toByteArray_ofList,
      String.toList_ofList]
    rfl
  rw [readComponent?, bytes, String.fromUTF8?, dif_pos text.isValidUTF8]
  rfl

/-- Neither side of a pair holds a sign that parts pairs or sides. -/
theorem not_mem_encodeComponent {text : String} {c : Char} (h : c = '&' ∨ c = '=') :
    c ∉ (encodeComponent text).toList := by
  intro mem
  have reserved : ¬ (isUnreserved c ∨ c = '%') := by
    rcases h with rfl | rfl <;> decide
  exact reserved (mem_encodeComponent mem)

theorem toList_renderPair (p : String × String) :
    (renderPair p).toList =
      (encodeComponent p.1).toList ++ '=' :: (encodeComponent p.2).toList := by
  simp [renderPair, String.toList_append]

theorem readPair?_renderPair (p : String × String) : readPair? (renderPair p).toList = some p := by
  have inside : ∀ text : String, ∀ c ∈ (encodeComponent text).toList, decide (c = '=') = false :=
    fun text c mem => decide_eq_false fun same => not_mem_encodeComponent (.inr same) mem
  have sides : splitAtChar (· = '=') (renderPair p).toList =
      [(encodeComponent p.1).toList, (encodeComponent p.2).toList] := by
    rw [toList_renderPair, splitAtChar_append _ _ (decide_eq_true rfl),
      splitAtChar_of_none (inside p.1), splitAtChar_of_none (inside p.2)]
    rfl
  simp [readPair?, sides, readComponent?_encodeComponent]

/-- A pair is one piece, and never an empty one. -/
theorem not_separator_of_mem_renderPair {p : String × String} {c : Char}
    (h : c ∈ (renderPair p).toList) : decide (c = '&') = false := by
  refine decide_eq_false fun same => ?_
  rw [toList_renderPair] at h
  rcases List.mem_append.mp h with key | rest
  · exact not_mem_encodeComponent (.inl same) key
  · rcases List.mem_cons.mp rest with rfl | value
    · exact absurd same (by decide)
    · exact not_mem_encodeComponent (.inl same) value

theorem renderPair_ne_nil (p : String × String) : (renderPair p).toList ≠ [] := by
  rw [toList_renderPair]
  simp

theorem toList_render (pairs : List (String × String)) :
    (render pairs).toList = ['&'].intercalate (pairs.map fun p => (renderPair p).toList) := by
  rw [render, String.toList_intercalate, List.map_map]
  rfl

theorem splitAtChar_render {pairs : List (String × String)} (some_pair : pairs ≠ []) :
    splitAtChar (· = '&') (render pairs).toList = pairs.map fun p => (renderPair p).toList := by
  rw [toList_render]
  refine splitAtChar_intercalate (decide_eq_true rfl) ?_ (by simpa using some_pair)
  intro part mem c inside
  obtain ⟨p, -, rfl⟩ := List.mem_map.mp mem
  exact not_separator_of_mem_renderPair inside

theorem pieces_render (pairs : List (String × String)) :
    pieces (render pairs).toList = pairs.map fun p => (renderPair p).toList := by
  cases pairs with
  | nil => rfl
  | cons p pairs =>
    rw [pieces, splitAtChar_render (List.cons_ne_nil _ _), List.filter_eq_self]
    intro piece mem
    obtain ⟨q, -, rfl⟩ := List.mem_map.mp mem
    simp [renderPair_ne_nil q]

/-- The pairs come back as they were, in their order. -/
theorem read?_render (pairs : List (String × String)) : read? (render pairs) = some pairs := by
  rw [read?, pieces_render, List.mapM_map]
  induction pairs with
  | nil => rfl
  | cons p pairs ih =>
    rw [List.mapM_cons, ih]
    simp [readPair?_renderPair]

theorem mem_intercalate {separator c : Char} {parts : List (List Char)}
    (h : c ∈ [separator].intercalate parts) : c = separator ∨ ∃ part ∈ parts, c ∈ part := by
  induction parts with
  | nil => cases h
  | cons part more ih =>
    cases more with
    | nil =>
      rw [List.intercalate_singleton] at h
      exact .inr ⟨part, List.mem_cons_self, h⟩
    | cons next more =>
      rw [List.intercalate_cons_cons, List.append_assoc] at h
      rcases List.mem_append.mp h with here | rest
      · exact .inr ⟨part, List.mem_cons_self, here⟩
      · rcases List.mem_cons.mp rest with same | later
        · exact .inl same
        · exact (ih later).imp id fun ⟨p, mem, inside⟩ => ⟨p, List.mem_cons_of_mem _ mem, inside⟩

theorem mem_render {pairs : List (String × String)} {c : Char} (h : c ∈ (render pairs).toList) :
    isUnreserved c ∨ c = '%' ∨ c = '=' ∨ c = '&' := by
  rw [toList_render] at h
  rcases mem_intercalate h with same | ⟨part, mem, inside⟩
  · exact .inr (.inr (.inr same))
  · obtain ⟨p, -, rfl⟩ := List.mem_map.mp mem
    rw [toList_renderPair] at inside
    rcases List.mem_append.mp inside with key | rest
    · exact (mem_encodeComponent key).imp id .inl
    · rcases List.mem_cons.mp rest with same | value
      · exact .inr (.inr (.inl same))
      · exact (mem_encodeComponent value).imp id .inl

theorem render_eq_empty_iff {pairs : List (String × String)} : render pairs = "" ↔ pairs = [] := by
  constructor
  · intro empty
    have read := read?_render pairs
    rw [empty] at read
    exact (Option.some.inj read).symm
  · rintro rfl
    rfl

/-! ## Forms in queries -/

theorem pieces_append (before after : List Char) :
    pieces (before ++ '&' :: after) = pieces before ++ pieces after := by
  rw [pieces, splitAtChar_append _ _ (decide_eq_true rfl), List.filter_append]
  rfl

/-- What is appended to a URL comes after the pieces of its own query. -/
theorem queryPieces_appendQuery (url query : String) :
    queryPieces (Request.appendQuery url query) = queryPieces url ++ pieces query.toList := by
  unfold Request.appendQuery
  split
  · next empty =>
    rw [String.isEmpty_iff.mp empty]
    exact (List.append_nil _).symm
  · split
    · next marked =>
      obtain ⟨before, after, parted, first⟩ :=
        List.eq_append_cons_of_mem (List.contains_iff_mem.mp marked)
      have whole : (url ++ "&" ++ query).toList =
          before ++ '?' :: (after ++ '&' :: query.toList) := by
        simp [String.toList_append, parted]
      rw [queryPieces, queryPieces, whole, parted, cut_append _ first, cut_append _ first]
      exact pieces_append after query.toList
    · next unmarked =>
      have absent : '?' ∉ url.toList := fun mem => unmarked (List.contains_iff_mem.mpr mem)
      have whole : (url ++ "?" ++ query).toList = url.toList ++ '?' :: query.toList := by
        simp [String.toList_append]
      rw [queryPieces, queryPieces, whole, cut_append _ absent, cut_of_not_mem absent]
      rfl

end Form

/-! ## Forms in requests -/

theorem payload_of_isFlat (request : Request) {fields : Fields Json}
    (flat : ∀ field ∈ fields, field.2.isFlat = true) :
    (request.withRawBody (.object fields)).payload =
      .ok (some (Form.render (Form.flatten fields))) := by
  show (Form.pairs fields).map _ = _
  rw [Form.pairs_of_isFlat flat]
  rfl

/-- **Form fields arrive as they were.** An object of scalars and arrays of scalars goes out as a
form of harmless signs that reads back as its flattened fields, none merged, split or lost. A method
that carries no body takes it in the query, after the pieces that the URL has of its own. -/
theorem form_fields_arrive (request : Request) (fields : Fields Json)
    (flat : ∀ field ∈ fields, field.2.isFlat = true) :
    ∃ form : String,
      (∀ c ∈ form.toList, isUnreserved c ∨ c = '%' ∨ c = '=' ∨ c = '&') ∧
      Form.read? form = some (Form.flatten fields) ∧
      (Form.flatten fields ≠ [] → [] ∉ splitAtChar (· = '&') form.toList) ∧
      (request.method = .post ∨ request.method = .put →
        (request.withRawBody (.object fields)).encode = .ok ⟨request.url, some form⟩) ∧
      (request.method = .get ∨ request.method = .delete →
        ∃ url, (request.withRawBody (.object fields)).encode = .ok ⟨url, none⟩ ∧
          (Form.flatten fields = [] → url = request.url) ∧
          (Form.flatten fields ≠ [] →
            url = request.url ++ "?" ++ form ∨ url = request.url ++ "&" ++ form) ∧
          Form.queryPieces url = Form.queryPieces request.url ++ Form.pieces form.toList) := by
  have payload := payload_of_isFlat request flat
  refine ⟨Form.render (Form.flatten fields), fun c => Form.mem_render, Form.read?_render _, ?_, ?_,
    ?_⟩
  · intro some_pair
    rw [Form.splitAtChar_render some_pair]
    intro empty
    obtain ⟨p, -, void⟩ := List.mem_map.mp empty
    exact Form.renderPair_ne_nil p void
  · intro carries
    exact Request.encode_of_carriesBody payload (Method.carriesBody_eq_true_iff.mpr carries)
  · intro bare
    refine ⟨Request.appendQuery request.url (Form.render (Form.flatten fields)),
      Request.encode_of_not_carriesBody payload (Method.carriesBody_eq_false_iff.mpr bare), ?_, ?_,
      Form.queryPieces_appendQuery _ _⟩
    · intro nothing
      rw [Form.render_eq_empty_iff.mpr nothing]
      rfl
    · intro some_pair
      have full : (Form.render (Form.flatten fields)).isEmpty = false := by
        rw [← Bool.not_eq_true, String.isEmpty_iff, Form.render_eq_empty_iff]
        exact some_pair
      unfold Request.appendQuery
      rw [full]
      split
      · next impossible => cases impossible
      · split
        · exact .inr rfl
        · exact .inl rfl

/-- Keys and texts that hold the signs of forms and queries themselves, behind a query that ends with
an `&`: three pairs arrive, two of them from one array. -/
theorem form_fields_arrive_signs_inside :
    let fields : Fields Json := [("", .array []), ("a&b", .array [.string "=?&%26", .null]),
      ("ü", .bool true)]
    let request := Request.new .get "http://h/x?a=1&"
    (∀ field ∈ fields, field.2.isFlat = true) ∧
    ∃ form url,
      Form.read? form = some [("a&b[]", "=?&%26"), ("a&b[]", ""), ("ü", "true")] ∧
      (request.withRawBody (.object fields)).encode = .ok ⟨url, none⟩ ∧
      Form.queryPieces url = "a=1".toList :: Form.pieces form.toList := by
  intro fields request
  have flat : ∀ field ∈ fields, field.2.isFlat = true := by
    simp [fields, Json.isFlat, Json.isScalar]
  obtain ⟨form, -, read, -, -, asked⟩ := form_fields_arrive request fields flat
  obtain ⟨url, encoded, -, -, pieces⟩ := asked (.inl rfl)
  have own : Form.queryPieces request.url = ["a=1".toList] := by decide +kernel
  rw [own] at pieces
  exact ⟨flat, form, url, read, encoded, pieces⟩

end CatalogClient

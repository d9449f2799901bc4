import CatalogClient.Catalog
import CatalogClient.Proofs.Budget
import CatalogClient.Proofs.Calls
import CatalogClient.Proofs.Json.Written
import CatalogClient.Proofs.ResponseText
import Mathlib.Data.List.Forall2

/-!
# The outline of a catalog

A document that was read holds its fields in order, each key once (`every_inOrder_sorted`), so what it
has under a key is one list of fields or nothing (`under_fieldsUnder`). The outline has one line for
each schema and each table that is found that way (`outlines_outline`). The command prints it where the
request succeeds, and nothing where it fails (`command_prints_outline`).
-/

namespace CatalogClient

namespace Fields

variable {α : Type}

theorem mem_ofList {fields : List (String × α)} {field : String × α} (h : field ∈ ofList fields) :
    field ∈ fields := by
  suffices ∀ sorted : Fields α,
      field ∈ fields.foldl (fun sorted field => insert field.1 field.2 sorted) sorted →
        field ∈ sorted ∨ field ∈ fields from (this [] h).resolve_left List.not_mem_nil
  clear h
  induction fields with
  | nil => exact fun sorted h => .inl h
  | cons first rest ih =>
    intro sorted h
    rcases ih _ h with put | later
    · rcases mem_insert put with rfl | before
      · exact .inr List.mem_cons_self
      · exact .inl before
    · exact .inr (List.mem_cons_of_mem _ later)

/-- In fields in order a key has the one value that stands there. -/
theorem get?_eq_some_iff {fields : Fields α} (ordered : Ordered fields) {key : String} {value : α} :
    get? key fields = some value ↔ (key, value) ∈ fields := by
  induction fields with
  | nil => simp [get?]
  | cons field rest ih =>
    obtain ⟨k, v⟩ := field
    obtain ⟨before, ordered⟩ := List.pairwise_cons.mp ordered
    rw [get?, List.mem_cons, Prod.mk.injEq]
    split
    · next same =>
      subst same
      have once : (key, value) ∉ rest := fun mem => String.lt_irrefl key (before _ mem)
      simp [once, eq_comm]
    · next apart => simp [apart, ih ordered]

end Fields

namespace Json

/-- Fields in the order of their keys, each key once. -/
def InOrder : Json → Prop
  | .object fields => Fields.Ordered fields
  | _ => True

/-- By recursion on the document as it was written. -/
theorem every_inOrder_sorted : (document : Json) → Every InOrder document.sorted
  | .null | .bool _ | .number _ | .string _ => .intro trivial fun _ h => absurd h List.not_mem_nil
  | .array items => by
    rw [sorted, sortedItems_eq_map]
    refine .intro trivial fun child h => ?_
    obtain ⟨item, mem, rfl⟩ := List.mem_map.mp h
    exact every_inOrder_sorted item
  | .object fields => by
    rw [sorted, sortedFields_eq_map]
    refine .intro (Fields.ordered_ofList _) fun child h => ?_
    obtain ⟨field, kept, rfl⟩ := List.mem_map.mp h
    obtain ⟨⟨key, value⟩, mem, rfl⟩ := List.mem_map.mp (Fields.mem_ofList kept)
    exact every_inOrder_sorted value
termination_by document => sizeOf document
decreasing_by
  · have := List.sizeOf_lt_of_mem mem
    simp only [Json.array.sizeOf_spec]
    omega
  · have := List.sizeOf_lt_of_mem mem
    simp only [Json.object.sizeOf_spec, Prod.mk.sizeOf_spec] at this ⊢
    omega

theorem every_inOrder_of_read {text : String} {document : Json}
    (parsed : read text = .ok document) : Every InOrder document := by
  obtain ⟨written, -, rfl⟩ := readAsWritten_of_read parsed
  exact every_inOrder_sorted written

end Json

namespace Catalog

/-! ## What is found in a document -/

/-- What a document has under a key: the fields of the object there. It is nothing where the
document is no object, or has no object there. -/
inductive Under (key : String) (document : Json) : Fields Json → Prop
  | inner {fields inside : Fields Json} : document = .object fields →
    (key, .object inside) ∈ fields → Under key document inside
  | nothing : (∀ fields inside, document = .object fields → (key, .object inside) ∉ fields) →
    Under key document []

/-- Lines that tell of the schemas of a document in the order of their names, each followed by its
tables in the order of theirs. -/
structure Outlines (document : Json) (schemas : Fields Json) (tables : List (Fields Json))
    (lines : List String) : Prop where
  schemas_found : Under "schemas" document schemas
  tables_found : List.Forall₂ (fun schema tables => Under "tables" schema.2 tables) schemas tables
  ordered : Fields.Ordered schemas ∧ ∀ some_tables ∈ tables, Fields.Ordered some_tables
  lines_eq : lines = (List.zipWith (fun schema tables => schema.1 :: tables.map fun table =>
    "  " ++ table.1) schemas tables).flatten
  count : lines.length = schemas.length + tables.flatten.length

section Finding
variable {key : String} {document : Json}

theorem under_fieldsUnder (ordered : document.InOrder) :
    Under key document (fieldsUnder key document) := by
  cases document with
  | object fields =>
    have found {value : Json} : Fields.get? key fields = some value ↔ (key, value) ∈ fields :=
      Fields.get?_eq_some_iff ordered
    have absent (none : ∀ inside, Fields.get? key fields ≠ some (.object inside)) :
        Under key (.object fields) [] := by
      refine .nothing fun fields' inside same mem => ?_
      cases same
      exact none inside (found.mpr mem)
    have whole : fieldsUnder key (.object fields) =
        ((Fields.get? key fields).bind Json.asObject?).getD [] := rfl
    rw [whole]
    cases value : Fields.get? key fields with
    | none => exact absent fun inside => by rw [value]; simp
    | some value' =>
      cases value' with
      | object inside => exact .inner rfl (found.mp value)
      | null | bool | number | string | array => exact absent fun inside => by rw [value]; simp
  | null | bool | number | string | array =>
    exact .nothing fun fields inside same => by cases same

/-- What is found inside is in order where everything is. -/
theorem ordered_fieldsUnder (key : String) (ordered : Json.Every Json.InOrder document) :
    Fields.Ordered (fieldsUnder key document) ∧
      ∀ field ∈ fieldsUnder key document, Json.Every Json.InOrder field.2 := by
  have found : Under key document (fieldsUnder key document) := under_fieldsUnder ordered.here
  generalize fieldsUnder key document = inside at found ⊢
  cases found with
  | nothing => exact ⟨.nil, fun _ h => absurd h List.not_mem_nil⟩
  | inner object mem =>
    subst object
    have inside := ordered.inside _ (List.mem_map_of_mem mem)
    exact ⟨inside.here, fun field h => inside.inside _ (List.mem_map_of_mem h)⟩

/-- The outline of a document in order. -/
theorem outlines_outline (ordered : Json.Every Json.InOrder document) :
    Outlines document (fieldsUnder "schemas" document)
      ((fieldsUnder "schemas" document).map fun schema => fieldsUnder "tables" schema.2)
      (outline document) := by
  obtain ⟨sorted, inside⟩ := ordered_fieldsUnder "schemas" ordered
  refine ⟨under_fieldsUnder ordered.here, ?_, ⟨sorted, ?_⟩, ?_, ?_⟩
  · rw [List.forall₂_map_right_iff, List.forall₂_same]
    exact fun schema mem => under_fieldsUnder (inside schema mem).here
  · intro some_tables h
    obtain ⟨schema, mem, rfl⟩ := List.mem_map.mp h
    exact (ordered_fieldsUnder "tables" (inside schema mem)).1
  · rw [outline, List.flatMap_def, List.zipWith_map_right, List.zipWith_self]
    rfl
  · rw [outline]
    induction fieldsUnder "schemas" document with
    | nil => rfl
    | cons schema schemas ih =>
      simp only [List.flatMap_cons, List.length_append, ih, schemaLines, List.length_cons,
        List.length_map, List.map_cons, List.flatten_cons]
      omega

end Finding

/-! ## The request for a catalog -/

/-- A success of the request holds the document that is kept of the answer. -/
theorem document_of_success {client : Client} {url : String} {w : World} {i : Nat}
    {success : Success} (succeeded : client.outcomes (request url) w i = .ok success) :
    ∃ status headers body document, w.network (w.sent + i) = .response status headers body ∧
      KeepsDocument .get status body document ∧ success.json? = some document := by
  cases sent : (request url).prepare client.options.headers with
  | error error => simp only [Client.outcomes, sent, reduceCtorEq] at succeeded
  | ok wire =>
    have of_request : wire.method = .get := by
      obtain ⟨encoded, given, -, -, -, -, -, -, rfl⟩ := Request.prepare_eq_ok_iff.mp sent
      rfl
    simp only [Client.outcomes, sent] at succeeded
    cases answer : w.network (w.sent + i) with
    | response status headers body =>
      have reading := reading_of_response wire status headers body
      rw [answer] at succeeded
      rw [succeeded, of_request] at reading
      refine ⟨status, headers, body, ?_⟩
      -- a GET is never taken as an acknowledgment
      cases reading with
      | acknowledged _ writes => simp at writes
      | empty inside reads no_content => exact ⟨_, rfl, .empty inside reads no_content, rfl⟩
      | read inside reads content read => exact ⟨_, rfl, .read inside reads content read, rfl⟩
    | unreachable | noResponse | brokenBody =>
      rw [answer] at succeeded
      cases succeeded

theorem every_inOrder_of_keepsDocument {method : Method} {status : Status} {body : String}
    {document : Json} (keeps : KeepsDocument method status body document) :
    Json.Every Json.InOrder document := by
  cases keeps with
  | empty => exact .intro trivial fun _ h => absurd h List.not_mem_nil
  | read _ _ _ read => exact Json.every_inOrder_of_read read

/-! ## The command -/

/-- A command that failed and printed nothing. -/
def Result.FailsSilently (result : Result) : Prop := result.stdout = "" ∧ result.exitCode ≠ 0

/-- A command that printed these lines. -/
def Result.Prints (result : Result) (lines : List String) : Prop :=
  result.stdout = String.join (lines.map (· ++ "\n")) ∧ result.exitCode = 0

/-- What the command comes to for the outcome of its last attempt, the one so many after the first. -/
def Reports (result : Result) (w : World) (k : Nat) : Outcome → Prop
  | .error _ => result.FailsSilently
  | .ok success => ∃ status headers body document,
    w.network (w.sent + k) = .response status headers body ∧
    KeepsDocument .get status body document ∧ success.json? = some document ∧
    Json.Every Json.InOrder document ∧
    ∃ schemas tables lines, Outlines document schemas tables lines ∧ result.Prints lines

theorem reports_report {client : Client} {url : String} {w : World} {k : Nat} :
    Reports (report (client.outcomes (request url) w k)) w k
      (client.outcomes (request url) w k) := by
  cases outcome : client.outcomes (request url) w k with
  | error error => exact ⟨rfl, Nat.one_ne_zero⟩
  | ok success =>
    obtain ⟨status, headers, body, document, answer, keeps, holds⟩ := document_of_success outcome
    have ordered := every_inOrder_of_keepsDocument keeps
    refine ⟨status, headers, body, document, answer, keeps, holds, ordered, _, _, outline document,
      outlines_outline ordered, ?_⟩
    simp only [report, holds]
    exact ⟨rfl, rfl⟩

/-- The command keeps to the standard policy. -/
theorem retryPolicy_options (busy : Busy.Indicator) :
    ((Client.new busy).withOptions options).retryPolicy = RetryPolicy.standard := by
  unfold Client.retryPolicy RetryPolicy.standard ClientOptions.retryPolicy Client.withOptions
    options
  dsimp only

/-- **The command prints the whole outline or nothing.** It makes a GET of its first argument under the
standard policy, and always ends. If the last attempt succeeds, it prints one line for each schema of
the document and under it one for each table, in order, none left out and none twice. Without an
argument, or if the request fails, it prints nothing and fails. -/
theorem command_prints_outline (busy : Busy.Indicator) (w : World) :
    (∃ result, command busy [] w = some (result, w) ∧ result.FailsSilently) ∧
    ∀ url more, ∃ outcome result w' k,
      let client := (Client.new busy).withOptions options
      client.retryPolicy = RetryPolicy.standard ∧
      (request url).method = .get ∧ (request url).url = url ∧ (request url).body = none ∧
      IsLeast {i | client.Stops (request url) w i} k ∧
      outcome = client.outcomes (request url) w k ∧
      client.execute (request url) w = some (outcome, w') ∧
      command busy (url :: more) w = some (result, w') ∧ Reports result w k outcome := by
  refine ⟨⟨_, rfl, rfl, Nat.one_ne_zero⟩, fun url more => ?_⟩
  let client := (Client.new busy).withOptions options
  have below : client.options.maxRetries.toNat < 4294967295 := by
    show ClientOptions.standard.maxRetries.toNat < 4294967295
    decide
  have past : client.Stops (request url) w _ := Client.stops_past_budget below
  obtain ⟨k, -, stop, before⟩ := Client.exists_first_stop past
  obtain ⟨w', -, ended, -⟩ := Client.run_eq_some before stop
  have executed : client.execute (request url) w =
      some (client.outcomes (request url) w k, w') := by
    rw [Client.execute_apply, ended, Option.map_some, Client.outcome_endingOf]
  refine ⟨_, report (client.outcomes (request url) w k), w', k, retryPolicy_options busy, rfl, rfl,
    rfl, Client.isLeast_stops before stop, rfl, executed, ?_, reports_report⟩
  show (client.execute (request url) >>= fun outcome => pure (report outcome)) w = _
  rw [Activity.bind_apply, executed]
  rfl

end Catalog

end CatalogClient

import CatalogClient.Proofs.Json.TwoPaths
import CatalogClient.Response
import CatalogClient.Shape

/-!
# Decoding a response

A response is kept as the text that came or as the document that the text reads as, and can be decoded
from either. All shapes agree on the two (`Shape.agrees`), so it does not matter which one was kept,
as long as no object of the text repeats a key: `decode_agrees`.
-/

namespace CatalogClient

open Json

/-! ## Listings -/

namespace Listing

/-- What a field of a listing adds to the schemas, if there are any yet. -/
def takeField (schemas : Option (Fields Json)) (name : String) (value : Json) :
    Option (Option (Fields Json)) :=
  if name = key then
    if schemas.isSome then none
    else ((Format.fields Format.document).ofDocument value).toOption.map some
  else some schemas

theorem stepsLike_scanField (fuel depth : Nat) :
    Format.StepsLike fuel depth (scanField fuel depth) takeField := by
  intro schemas name colon behind after value short passed read_here distinct
  unfold scanField takeField
  split
  · split
    · rfl
    · show ((scanColon colon).bind _).toOption = _
      rw [passed]
      show ((Format.fields Format.document).ofText fuel depth behind >>= _).toOption = _
      rw [toOption_bind,
        (Format.agrees_fields Format.agrees_document).same short read_here distinct]
      cases ((Format.fields Format.document).ofDocument value.sorted).toOption <;> rfl
  · show ((scanColon colon).bind _).toOption = _
    rw [passed]
    show ((skipValue fuel behind).bind _).toOption = _
    rw [(skipValue_of_readWritten read_here short).1]
    rfl

theorem trades_takeField : Format.Trades takeField := by
  intro schemas name name' value value' apart
  unfold takeField
  by_cases here : name = key
  · have elsewhere : name' ≠ key := fun same => apart (here.trans same.symm)
    simp only [if_pos here, if_neg elsewhere, Option.bind_some, Option.bind_fun_some]
  · simp only [if_neg here, Option.bind_some, Option.bind_fun_some]

/-- Fields with other keys add nothing. -/
theorem foldlM_takeField_of_not_mem {fields : List (String × Json)} (schemas : Option (Fields Json))
    (other : key ∉ fields.map Prod.fst) :
    fields.foldlM (fun state f => takeField state f.1 f.2) schemas = some schemas := by
  induction fields with
  | nil => rfl
  | cons field fields ih =>
    obtain ⟨apart, other⟩ := not_or.mp (mt List.mem_cons.mpr other)
    rw [List.foldlM_cons, takeField, if_neg (Ne.symm apart)]
    exact ih other

/-- Of fields with keys of their own, the one with the schemas is taken. -/
theorem foldlM_takeField {fields : List (String × Json)} (distinct : (fields.map Prod.fst).Nodup) :
    fields.foldlM (fun state f => takeField state f.1 f.2) none =
      match Fields.get? key fields with
      | none => some none
      | some value => ((Format.fields Format.document).ofDocument value).toOption.map some := by
  induction fields with
  | nil => rfl
  | cons field fields ih =>
    obtain ⟨name, value⟩ := field
    obtain ⟨own, distinct⟩ := List.nodup_cons.mp distinct
    rw [List.foldlM_cons, Fields.get?]
    by_cases here : name = key
    · subst here
      rw [if_pos rfl, takeField, if_pos rfl]
      show Option.bind (((Format.fields Format.document).ofDocument value).toOption.map some) _ =
        ((Format.fields Format.document).ofDocument value).toOption.map some
      cases ((Format.fields Format.document).ofDocument value).toOption with
      | none => rfl
      | some schemas => exact foldlM_takeField_of_not_mem _ own
    · rw [if_neg (Ne.symm here), takeField, if_neg here]
      exact ih distinct

/-- A listing in a document is what its fields add up to, if they have keys of their own. -/
theorem ofDocument_object {fields : List (String × Json)}
    (distinct : (fields.map Prod.fst).Nodup) :
    (Listing.format.ofDocument (.object fields)).toOption =
      (fields.foldlM (fun state f => takeField state f.1 f.2) none).bind (·.map Listing.mk) := by
  rw [foldlM_takeField distinct]
  simp only [Listing.format]
  cases Fields.get? key fields with
  | none => rfl
  | some value =>
    show ((Format.fields Format.document).ofDocument value >>= _).toOption =
      Option.bind (((Format.fields Format.document).ofDocument value).toOption.map some) _
    rw [toOption_bind]
    cases ((Format.fields Format.document).ofDocument value).toOption <;> rfl

theorem agrees_format : Listing.format.Agrees := by
  refine Format.agrees_of_written fun {fuel depth text rest document} short written distinct => ?_
  simp only [Listing.format]
  generalize skipBlanks text = shown at short written
  cases written with
  | @array depth text rest items stand =>
    have short := Nat.lt_of_succ_lt short
    have distinct := distinct.inside
    cases stand with
    | close next _ =>
      show (Except.bind (nextItem true text) _).toOption = _
      rw [next]
      rfl
    | @item k _ _ start after rest item items next read_here stand =>
      have short := Nat.lt_of_le_of_lt (Format.length_le_of_nextItem next) short
      have same := (Format.agrees_fields Format.agrees_document).same short read_here
        (distinct item List.mem_cons_self)
      show (Except.bind (nextItem true text) _).toOption =
        Option.map _ ((Format.fields Format.document).ofDocument item.sorted >>= _).toOption
      rw [next, toOption_bind]
      show ((Format.fields Format.document).ofText _ depth start >>= _).toOption = _
      rw [toOption_bind, same]
      cases ((Format.fields Format.document).ofDocument item.sorted).toOption with
      | none => rfl
      | some schemas =>
        show (closeList after >>= _).toOption = _
        rw [toOption_bind, Format.toOption_closeList stand, sortedItems_eq_map]
        cases items <;> rfl
  | @object depth text rest fields stand =>
    have same := Format.toOption_scanFields (stepsLike_scanField fuel depth) stand
      (Nat.lt_of_succ_lt short) distinct.of_field none
    show (scanFields (scanField fuel depth) fuel true none text >>= _).toOption =
      Option.map _ (Listing.format.ofDocument
        (.object (Fields.ofList (sortedFields fields)))).toOption
    rw [toOption_bind, same, ofDocument_object (Fields.distinct_ofList _),
      Format.foldlM_sorted trades_takeField distinct.here]
    cases (sortedFields fields).foldlM (fun state f => takeField state f.1 f.2) none with
    | none => rfl
    | some schemas => cases schemas <;> rfl
  | number digit number =>
    split
    iterate 2 next same => cases same; exact absurd digit (by decide)
    next => exact toOption_refuse fuel structName _
  | _ => exact toOption_refuse fuel structName _

end Listing

/-! ## Options -/

namespace OptionName

/-- The type of an option's values. -/
def Value : OptionName → Type
  | timeoutMs => UInt64
  | maxRetries => UInt32
  | backoffScaleMs => Binary64
  | headers => List (String × String)

def valueFormat : (name : OptionName) → Format name.Value
  | timeoutMs => Format.word64
  | maxRetries => Format.word32
  | backoffScaleMs => Format.float
  | headers => Format.list (Format.pair Format.text Format.text)

theorem agrees_valueFormat (name : OptionName) : name.valueFormat.Agrees := by
  cases name with
  | timeoutMs => exact Format.agrees_word64
  | maxRetries => exact Format.agrees_word32
  | backoffScaleMs => exact Format.agrees_float
  | headers => exact Format.agrees_list (Format.agrees_pair Format.agrees_text Format.agrees_text)

theorem key_of_ofKey? {key : String} {name : OptionName} (found : ofKey? key = some name) :
    name.key = key := by
  simpa using List.find?_some found

end OptionName

namespace PartialOptions

variable {options : PartialOptions} {name name' : OptionName}

/-- The options with one more, or with another value for one. -/
def put (options : PartialOptions) : (name : OptionName) → name.Value → PartialOptions
  | .timeoutMs, v => { options with timeoutMs := some v }
  | .maxRetries, v => { options with maxRetries := some v }
  | .backoffScaleMs, v => { options with backoffScaleMs := some v }
  | .headers, v => { options with headers := some v }

theorem format_eq (options : PartialOptions) (name : OptionName) :
    options.format name = name.valueFormat.map (options.put name) := by
  cases name <;> rfl

theorem has_put (apart : name ≠ name') (v : name.Value) :
    (options.put name v).has name' = options.has name' := by
  cases name <;> cases name' <;> first | rfl | exact absurd rfl apart

theorem put_comm (apart : name ≠ name') (v : name.Value) (v' : name'.Value) :
    (options.put name v).put name' v' = (options.put name' v').put name v := by
  cases name <;> cases name' <;> first | rfl | exact absurd rfl apart

/-- Takes one option from its value, unless it is there already. -/
def take (options : PartialOptions) (name : OptionName) (value : Json) : Option PartialOptions :=
  if options.has name then none
  else (name.valueFormat.ofDocument value).toOption.map (options.put name)

/-- Takes the option that a field is about, if it is about one. -/
def takeField (options : PartialOptions) (key : String) (value : Json) : Option PartialOptions :=
  match OptionName.ofKey? key with
  | none => some options
  | some name => options.take name value

theorem take_comm (options : PartialOptions) (apart : name ≠ name') (value value' : Json) :
    (options.take name value).bind (·.take name' value') =
      (options.take name' value').bind (·.take name value) := by
  unfold take
  cases (name.valueFormat.ofDocument value).toOption with
  | none =>
    cases (name'.valueFormat.ofDocument value').toOption <;>
      cases options.has name <;> cases options.has name' <;> simp
  | some v =>
    cases (name'.valueFormat.ofDocument value').toOption with
    | none => cases options.has name <;> cases options.has name' <;> simp
    | some v' =>
      cases has : options.has name <;> cases has' : options.has name' <;>
        simp [has_put apart, has_put apart.symm, has, has', put_comm apart]

theorem trades_takeField : Format.Trades takeField := by
  intro options key key' value value' apart
  unfold takeField
  cases found : OptionName.ofKey? key with
  | none =>
    simp only [Option.bind_some]
    exact (Option.bind_fun_some _).symm
  | some name =>
    cases found' : OptionName.ofKey? key' with
    | none =>
      simp only [Option.bind_some]
      exact Option.bind_fun_some _
    | some name' =>
      refine take_comm options (fun same => apart ?_) value value'
      rw [← OptionName.key_of_ofKey? found, same, OptionName.key_of_ofKey? found']

theorem stepsLike_scanField (fuel depth : Nat) :
    Format.StepsLike fuel depth (scanField fuel depth) takeField := by
  intro options key colon behind after value short passed read_here distinct
  unfold scanField takeField
  cases OptionName.ofKey? key with
  | none =>
    show ((scanColon colon).bind _).toOption = _
    rw [passed]
    show ((skipValue fuel behind).bind _).toOption = _
    rw [(skipValue_of_readWritten read_here short).1]
    rfl
  | some name =>
    simp only [take]
    split
    · rfl
    · show ((scanColon colon).bind _).toOption = _
      rw [passed]
      show ((options.format name).ofText fuel depth behind).toOption = _
      rw [format_eq, (Format.agrees_map name.agrees_valueFormat _).same short read_here distinct]
      show Option.map _ (Except.toOption ((name.valueFormat.ofDocument value.sorted).map _)) = _
      rw [toOption_map]

theorem ofFields_eq_foldlM (options : PartialOptions) (fields : List (String × Json)) :
    (options.ofFields fields).toOption =
      fields.foldlM (fun state f => takeField state f.1 f.2) options := by
  induction fields generalizing options with
  | nil => rfl
  | cons field fields ih =>
    obtain ⟨key, value⟩ := field
    rw [ofFields, List.foldlM_cons]
    unfold takeField
    cases OptionName.ofKey? key with
    | none => exact ih options
    | some name =>
      simp only [take]
      split
      · rfl
      · rw [toOption_bind, format_eq]
        show (Except.toOption ((name.valueFormat.ofDocument value).map _)).bind _ = _
        rw [toOption_map]
        exact congrArg _ (funext ih)

/-- Options by their positions come to the same on both paths. -/
theorem toOption_scanPositions {fuel depth k : Nat} {first : Bool} {text rest : List Char}
    {items : List Json} (names : List OptionName) (options : PartialOptions)
    (stand : ItemsAt (readWritten fuel depth) k first text items rest) (short : text.length < fuel)
    (distinct : ∀ item ∈ items, Every Distinct item) (asked : first = true → names ≠ []) :
    (scanPositions fuel depth names first options text).toOption =
      (options.ofItems names (sortedItems items)).toOption.map fun options => (options, rest) := by
  induction names generalizing options k first text rest items with
  | nil =>
    have later : first = false := by
      cases first with
      | false => rfl
      | true => exact absurd rfl (asked rfl)
    subst later
    show (closeList text >>= _).toOption = _
    rw [toOption_bind, Format.toOption_closeList stand, sortedItems_eq_map]
    cases items <;> rfl
  | cons name names ih =>
    cases stand with
    | close next closed =>
      show ((nextItem first text).bind _).toOption = _
      rw [next]
      show ((closeList _).bind _).toOption = _
      rw [closed]
      rfl
    | @item k _ _ start after rest item items next read_here stand =>
      have short' := Nat.lt_of_le_of_lt (Format.length_le_of_nextItem next) short
      have same := (Format.agrees_map name.agrees_valueFormat (options.put name)).same short'
        read_here (distinct item List.mem_cons_self)
      rw [← format_eq] at same
      show ((nextItem first text).bind _).toOption =
        Option.map _ ((options.format name).ofDocument item.sorted >>= _).toOption
      rw [next, toOption_bind]
      show ((options.format name).ofText fuel depth start >>= _).toOption = _
      rw [toOption_bind, same]
      cases ((options.format name).ofDocument item.sorted).toOption with
      | none => rfl
      | some options =>
        exact ih options stand (Nat.lt_trans (Format.length_lt_of_readWritten read_here) short')
          (fun item mem => distinct item (List.mem_cons_of_mem _ mem)) fun first => nomatch first

end PartialOptions

theorem ClientOptions.agrees_format : ClientOptions.format.Agrees := by
  refine Format.agrees_of_written fun {fuel depth text rest document} short written distinct => ?_
  simp only [ClientOptions.format]
  generalize skipBlanks text = shown at short written
  cases written with
  | @array depth text rest items stand =>
    have same := PartialOptions.toOption_scanPositions OptionName.all .empty stand
      (Nat.lt_of_succ_lt short) distinct.inside fun _ => by decide
    show (PartialOptions.scanPositions fuel depth OptionName.all true .empty text >>= _).toOption =
      Option.map _ (Except.toOption
        ((PartialOptions.empty.ofItems OptionName.all (sortedItems items)).map (·.complete)))
    rw [toOption_bind, same, toOption_map]
    cases (PartialOptions.empty.ofItems OptionName.all (sortedItems items)).toOption <;> rfl
  | @object depth text rest fields stand =>
    have same := Format.toOption_scanFields (PartialOptions.stepsLike_scanField fuel depth) stand
      (Nat.lt_of_succ_lt short) distinct.of_field .empty
    show (scanFields (PartialOptions.scanField fuel depth) fuel true .empty text >>= _).toOption =
      Option.map _ (Except.toOption ((PartialOptions.empty.ofFields
        (Fields.ofList (sortedFields fields))).map (·.complete)))
    rw [toOption_bind, same, toOption_map, PartialOptions.ofFields_eq_foldlM,
      Format.foldlM_sorted PartialOptions.trades_takeField distinct.here]
    cases (sortedFields fields).foldlM
      (fun state f => PartialOptions.takeField state f.1 f.2) .empty <;> rfl
  | number digit number =>
    split
    iterate 2 next same => cases same; exact absurd digit (by decide)
    next => exact toOption_refuse fuel structName _
  | _ => exact toOption_refuse fuel structName _

/-! ## All shapes -/

theorem Shape.agrees (shape : Shape) : shape.format.Agrees := by
  cases shape with
  | value => exact Format.agrees_document
  | word8 => exact Format.agrees_word8
  | word64 => exact Format.agrees_word64
  | signed64 => exact Format.agrees_signed64
  | float => exact Format.agrees_float
  | bool => exact Format.agrees_bool
  | text => exact Format.agrees_text
  | optionalText => exact Format.agrees_optional Format.agrees_text
  | texts => exact Format.agrees_list Format.agrees_text
  | unit => exact Format.agrees_unit
  | pair => exact Format.agrees_pair Format.agrees_text Format.agrees_word64
  | words => exact Format.agrees_fields Format.agrees_word64
  | listing => exact Listing.agrees_format
  | options => exact ClientOptions.agrees_format

namespace Success

theorem decode_text {α : Type} {success : Success} {body : String}
    (holds : success.payload = .text body) (format : Format α) :
    success.decode format =
      (format.read body).mapError fun e => .decode success.status (.textShape e) body := by
  simp only [decode, holds]
  cases format.read body <;> rfl

theorem decode_document {α : Type} {success : Success} {document : Json}
    (holds : success.payload = .json document) (format : Format α) :
    success.decode format = (format.ofDocument document).mapError fun m =>
      .decode success.status (.documentShape m) document.render := by
  simp only [decode, holds]
  cases format.ofDocument document <;> rfl

/-- **It does not matter whether a response is kept as its text or as the document that it reads as.**
Where the text repeats no key, decoding either gives the same value, or fails with the same status. -/
theorem decode_agrees (shape : Shape) {textual parsed : Success} {text : String} {document : Json}
    (as_text : textual.payload = .text text) (as_document : parsed.payload = .json document)
    (status : parsed.status = textual.status) (reads : Json.read text = .ok document)
    (once : RepeatsNoKey text) :
    (∃ x, textual.decode shape.format = .ok x ∧ parsed.decode shape.format = .ok x) ∨
      ∃ e m,
        textual.decode shape.format = .error (.decode textual.status (.textShape e) text) ∧
        parsed.decode shape.format =
          .error (.decode textual.status (.documentShape m) document.render) := by
  obtain ⟨written, as_written, rfl⟩ := readAsWritten_of_read reads
  have same := shape.agrees.read as_written (once written as_written)
  rw [decode_text as_text, decode_document as_document, status]
  cases from_text : shape.format.read text with
  | ok x =>
    rw [from_text] at same
    rw [toOption_eq_some_iff.mp same.symm]
    exact .inl ⟨x, rfl, rfl⟩
  | error e =>
    cases from_document : shape.format.ofDocument written.sorted with
    | ok x => rw [from_text, from_document] at same; cases same
    | error m => exact .inr ⟨e, m, rfl, rfl⟩

/-- Two words with their fields out of order and blanks between them. -/
def unorderedWords : String := "\x7b \"b\": 1,\n \"a\":2 \x7d"

theorem repeatsNoKey_unorderedWords : RepeatsNoKey unorderedWords := by
  have as_written : readAsWritten unorderedWords =
    .ok (.object [("b", .ofInt 1), ("a", .ofInt 2)]) := rfl
  intro written same
  obtain rfl := Except.ok.inj (as_written.symm.trans same)
  have distinct : Distinct (.object [("b", .ofInt 1), ("a", .ofInt 2)]) :=
    show ["b", "a"].Nodup by decide
  refine .intro distinct fun child mem => ?_
  rcases List.mem_pair.mp mem with rfl | rfl <;> exact .intro trivial fun _ mem => nomatch mem

theorem decode_agrees_unorderedWords :
    let textual : Success := ⟨.text unorderedWords, 200, "OK", []⟩
    let parsed : Success := ⟨.json (.object [("a", .ofInt 2), ("b", .ofInt 1)]), 200, "OK", []⟩
    ∃ x, textual.decode Shape.words.format = .ok x ∧ parsed.decode Shape.words.format = .ok x := by
  have decoded : Success.decode ⟨.text unorderedWords, 200, "OK", []⟩ Shape.words.format =
    .ok [("a", 2), ("b", 1)] := rfl
  intro textual parsed
  have agree := @decode_agrees .words textual parsed _ _ rfl rfl rfl rfl repeatsNoKey_unorderedWords
  refine agree.resolve_right ?_
  rintro ⟨e, m, failed, -⟩
  exact nomatch decoded.symm.trans failed

/-- Of a key that comes twice, both values are asked of the text, but only the last one is in the
document. -/
example :
    let text := "\x7b\"a\":-1,\"a\":2\x7d"
    (Shape.words.format.read text).toOption = none ∧
      ((Json.read text).toOption.bind fun document =>
        (Shape.words.format.ofDocument document).toOption) = some [("a", 2)] :=
  ⟨rfl, rfl⟩

end Success

end CatalogClient

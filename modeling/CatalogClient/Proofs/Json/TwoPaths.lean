import CatalogClient.Json.Format
import CatalogClient.Proofs.Json.FieldOrder
import CatalogClient.Proofs.Json.Written

/-!
# Two paths to a typed value

A format reads a value straight from a text, or from the document that the text reads as. Where no
object of the text repeats a key, both paths come to the same (`Format.Agrees`): they give the same
value, or both refuse, though not in the same words. Agreement passes from formats to the lists,
pairs and objects made of them, so it is proved for one way to make a format at a time.
-/

namespace CatalogClient

/-! ## Results without their faults -/

section ToOption
variable {ε α β : Type}

theorem toOption_eq_some_iff {x : Except ε α} {a : α} : x.toOption = some a ↔ x = .ok a := by
  cases x with
  | error e => exact ⟨(nomatch ·), (nomatch ·)⟩
  | ok b => exact ⟨fun same => by cases same; rfl, fun same => by cases same; rfl⟩

theorem toOption_bind (x : Except ε α) (f : α → Except ε β) :
    (x >>= f).toOption = x.toOption.bind fun a => (f a).toOption := by
  cases x <;> rfl

theorem toOption_map (f : α → β) (x : Except ε α) : (x.map f).toOption = x.toOption.map f := by
  cases x <;> rfl

theorem toOption_mapM (f : α → Except ε β) (xs : List α) :
    (xs.mapM f).toOption = xs.mapM fun x => (f x).toOption := by
  induction xs with
  | nil => rfl
  | cons x xs ih =>
    rw [List.mapM_cons, List.mapM_cons, toOption_bind]
    refine congrArg _ (funext fun y => ?_)
    rw [toOption_bind, ih]
    rfl

end ToOption

namespace Json

/-- No key comes twice among the fields. -/
def Distinct : Json → Prop
  | .object fields => (fields.map Prod.fst).Nodup
  | _ => True

/-- No object of the document that a text reads as repeats a key, at any depth. -/
def RepeatsNoKey (text : String) : Prop :=
  ∀ written, readAsWritten text = .ok written → Every Distinct written

theorem Every.of_field {P : Json → Prop} {fields : List (String × Json)}
    (every : Every P (.object fields)) : ∀ f ∈ fields, Every P f.2 :=
  fun f mem => every.inside f.2 (List.mem_map_of_mem mem)

/-- What refuses a value gives none. -/
theorem toOption_refuse {α : Type} (fuel : Nat) (expected : String) (text : List Char) :
    (refuse fuel expected text : Except Fault α).toOption = none := by
  have word : ∀ {β : Type} (x : Except Fault β) (f : β → Except Fault α),
      (∀ b, (f b).toOption = none) → (x >>= f).toOption = none := by
    intro β x f none
    rw [toOption_bind]
    cases x.toOption with
    | none => rfl
    | some b => exact none b
  unfold refuse
  generalize skipBlanks text = shown
  split
  next => rfl
  iterate 5 next => exact word _ _ fun _ => rfl
  next => rfl
  next => rfl
  next =>
    split
    next => exact word _ _ fun _ => rfl
    next => rfl

end Json

/-! ## Agreement -/

namespace Format

open Json

variable {α β : Type}

/-- On a value that repeats no key, the path from the text gives what the path from the document gives,
and leaves of the text what is left behind the value. -/
structure Agrees (format : Format α) : Prop where
  same : ∀ {fuel depth : Nat} {text rest : List Char} {written : Json}, text.length < fuel →
    readWritten fuel depth text = .ok (written, rest) → Every Distinct written →
    (format.ofText fuel depth text).toOption =
      (format.ofDocument written.sorted).toOption.map fun x => (x, rest)

/-- To agree, the two paths only have to come to the same on what stands behind the blanks. -/
theorem agrees_of_written {format : Format α}
    (same : ∀ {fuel depth : Nat} {text rest : List Char} {document : Json},
      (skipBlanks text).length < fuel →
      Written (readWritten fuel) fuel depth (skipBlanks text) document rest →
      Every Distinct document →
      (format.ofText fuel depth text).toOption =
        (format.ofDocument document.sorted).toOption.map fun x => (x, rest)) : format.Agrees :=
  ⟨fun short scanned distinct =>
    same (Nat.lt_of_le_of_lt (length_skipBlanks_le _) short) (written_of_readWritten scanned)
      distinct⟩

theorem agrees_map {format : Format α} (agrees : format.Agrees) (f : α → β) :
    (format.map f).Agrees := by
  refine ⟨fun {fuel depth text rest written} short scanned distinct => ?_⟩
  have same := agrees.same short scanned distinct
  show (format.ofText fuel depth text >>= _).toOption = _
  rw [toOption_bind, same]
  show _ = Option.map _ (Except.toOption ((format.ofDocument written.sorted).map f))
  rw [toOption_map]
  cases (format.ofDocument written.sorted).toOption <;> rfl

theorem agrees_document : Format.document.Agrees := by
  refine ⟨fun {fuel depth text rest written} short scanned distinct => ?_⟩
  show (readValue fuel depth text).toOption = _
  rw [readValue_eq_sorted, scanned]
  rfl

theorem toOption_stopUnless (checked : Except Mismatch α) (rest : List Char) :
    (stopUnless checked rest).toOption = checked.toOption.map fun x => (x, rest) := by
  cases checked <;> rfl

theorem agrees_number (expected : String) (check : JsonNumber → Except Mismatch α) :
    (number expected check).Agrees := by
  refine agrees_of_written fun {fuel depth text rest document} short written distinct => ?_
  simp only [number]
  generalize skipBlanks text = shown at written
  cases written with
  | negative number =>
    show ((scanNumber true _).bind _).toOption = _
    rw [number]
    exact toOption_stopUnless _ _
  | number digit number =>
    split
    next same => cases same; exact absurd digit (by decide)
    next same =>
      cases same
      rw [if_pos digit, number]
      exact toOption_stopUnless _ _
    next same => cases same
  | _ =>
    exact (congrArg Except.toOption (if_neg (by decide))).trans (toOption_refuse fuel expected _)

theorem agrees_whole (low high : Int) (expected : String) : (whole low high expected).Agrees :=
  agrees_number expected _

theorem agrees_word8 : word8.Agrees := agrees_map (agrees_whole _ _ _) _

theorem agrees_word32 : word32.Agrees := agrees_map (agrees_whole _ _ _) _

theorem agrees_word64 : word64.Agrees := agrees_map (agrees_whole _ _ _) _

theorem agrees_signed64 : signed64.Agrees := agrees_map (agrees_whole _ _ _) _

theorem agrees_float : Format.float.Agrees := agrees_number _ _

theorem agrees_bool : Format.bool.Agrees := by
  refine agrees_of_written fun {fuel depth text rest document} short written distinct => ?_
  simp only [bool]
  generalize skipBlanks text = shown at written
  cases written with
  | true word | false word =>
    show (Except.bind (scanWord _ _) _).toOption = _
    rw [word]
    rfl
  | number digit number =>
    split
    iterate 2 next same => cases same; exact absurd digit (by decide)
    next => exact toOption_refuse fuel "a boolean" _
  | _ => exact toOption_refuse fuel "a boolean" _

theorem agrees_text : Format.text.Agrees := by
  refine agrees_of_written fun {fuel depth text rest document} short written distinct => ?_
  simp only [Format.text]
  generalize skipBlanks text = shown at written
  cases written with
  | string string =>
    show (scanString _ _).toOption = _
    rw [string]
    rfl
  | number digit number =>
    split
    next same => cases same; exact absurd digit (by decide)
    next => exact toOption_refuse fuel "a string" _
  | _ => exact toOption_refuse fuel "a string" _

theorem agrees_unit : Format.unit.Agrees := by
  refine agrees_of_written fun {fuel depth text rest document} short written distinct => ?_
  simp only [unit]
  generalize skipBlanks text = shown at written
  cases written with
  | null word =>
    show (Except.bind (scanWord _ _) _).toOption = _
    rw [word]
    rfl
  | number digit number =>
    split
    next same => cases same; exact absurd digit (by decide)
    next => exact toOption_refuse fuel "unit" _
  | _ => exact toOption_refuse fuel "unit" _

theorem agrees_optional {format : Format α} (agrees : format.Agrees) :
    (optional format).Agrees := by
  refine ⟨fun {fuel depth text rest written} short scanned distinct => ?_⟩
  obtain ⟨n, rfl⟩ := Nat.exists_eq_add_one_of_ne_zero (Nat.ne_zero_of_lt short)
  have written' := written_of_readWritten scanned
  have inside := agrees.same (Nat.lt_of_le_of_lt (length_skipBlanks_le text) short)
    ((readWritten_skipBlanks n depth text).trans scanned) distinct
  simp only [optional]
  generalize skipBlanks text = shown at written' inside
  -- any value but null is left to the format
  have value : (format.ofText (n + 1) depth shown >>= fun p => .ok (some p.1, p.2)).toOption =
      ((format.ofDocument written.sorted).map some).toOption.map fun x => (x, rest) := by
    rw [toOption_bind, inside, toOption_map]
    cases (format.ofDocument written.sorted).toOption <;> rfl
  cases written' with
  | null word =>
    show (Except.bind (scanWord _ _) _).toOption = _
    rw [word]
    rfl
  | number digit number =>
    split
    next same => cases same; exact absurd digit (by decide)
    next => exact value
  | _ => exact value

/-! ## Lists -/

section Lists
variable {fuel depth k : Nat} {first : Bool} {text rest : List Char} {items : List Json}

/-- The text between the items of a list gets no longer. -/
theorem length_le_of_nextItem {start : List Char} (next : nextItem first text = .ok (true, start)) :
    start.length ≤ text.length := by
  have fewer := length_skipBlanks_le text
  cases goesOn_of_nextItem next with
  | first begins => rwa [begins.1] at fewer
  | @later _ behind _ shown begins =>
    obtain ⟨rfl, -⟩ := begins
    have fewest := length_skipBlanks_le behind
    rw [shown, List.length_cons] at fewer
    omega

theorem length_lt_of_readWritten {document : Json}
    (scanned : readWritten fuel depth text = .ok (document, rest)) : rest.length < text.length :=
  (skipValue_of_readWritten scanned (Nat.lt_succ_self _)).2

/-- The items of a list come to the same on both paths. -/
theorem toOption_scanItems {format : Format α} (agrees : format.Agrees)
    (stand : ItemsAt (readWritten fuel depth) k first text items rest) (short : text.length < fuel)
    (distinct : ∀ item ∈ items, Every Distinct item) :
    (scanItems (format.ofText fuel depth) k first text).toOption =
      (items.mapM fun item => (format.ofDocument item.sorted).toOption).map
        fun xs => (xs, rest) := by
  induction stand with
  | close next closed =>
    rw [scanItems_eq_ok_iff.mpr (.close next closed)]
    rfl
  | @item k first text start after rest item items next read_here _ ih =>
    have short' := Nat.lt_of_le_of_lt (length_le_of_nextItem next) short
    have same := agrees.same short' read_here (distinct item List.mem_cons_self)
    have later := ih (Nat.lt_trans (length_lt_of_readWritten read_here) short')
      fun item mem => distinct item (List.mem_cons_of_mem _ mem)
    simp only [scanItems, toOption_bind, next, List.mapM_cons]
    show ((format.ofText fuel depth start) >>= _).toOption = _
    rw [toOption_bind, same]
    cases (format.ofDocument item.sorted).toOption with
    | none => rfl
    | some x =>
      show ((scanItems (format.ofText fuel depth) k false after) >>= _).toOption = _
      rw [toOption_bind, later]
      cases items.mapM fun item => (format.ofDocument item.sorted).toOption <;> rfl

/-- A list is closed exactly if no item is left. -/
theorem toOption_closeList {read : Reader Json} (stand : ItemsAt read k false text items rest) :
    (closeList text).toOption = if items.isEmpty then some rest else none := by
  cases stand with
  | close next closed =>
    cases goesOn_of_nextItem next with
    | close shown =>
      obtain rfl := Except.ok.inj closed
      rw [closeList, shown]
      rfl
  | item next _ _ =>
    cases goesOn_of_nextItem next with
    | later shown _ =>
      rw [closeList, shown]
      simp only
      split <;> rfl

theorem agrees_list {format : Format α} (agrees : format.Agrees) : (list format).Agrees := by
  refine agrees_of_written fun {fuel depth text rest document} short written distinct => ?_
  simp only [list]
  generalize skipBlanks text = shown at short written
  cases written with
  | @array depth text rest items stand =>
    show (scanItems (format.ofText fuel depth) fuel true text).toOption =
      Option.map _ (Except.toOption (List.mapM format.ofDocument (sortedItems items)))
    rw [toOption_scanItems agrees stand (Nat.lt_of_succ_lt short) distinct.inside, toOption_mapM,
      sortedItems_eq_map, List.mapM_map]
    rfl
  | number digit number =>
    split
    next same => cases same; exact absurd digit (by decide)
    next => exact toOption_refuse fuel "a sequence" _
  | _ => exact toOption_refuse fuel "a sequence" _

theorem agrees_pair {format : Format α} {format' : Format β} (agrees : format.Agrees)
    (agrees' : format'.Agrees) : (pair format format').Agrees := by
  refine agrees_of_written fun {fuel depth text rest document} short written distinct => ?_
  simp only [pair]
  generalize skipBlanks text = shown at short written
  cases written with
  | @array depth text rest items stand =>
    have short := Nat.lt_of_succ_lt short
    have distinct := distinct.inside
    cases stand with
    | close next _ =>
      show (Except.bind (nextItem true text) _).toOption = _
      rw [next]
      rfl
    | @item k _ _ start after rest item items next read_here stand =>
      have short := Nat.lt_of_le_of_lt (length_le_of_nextItem next) short
      have same := agrees.same short read_here (distinct item List.mem_cons_self)
      show (Except.bind (nextItem true text) _).toOption = _
      rw [next]
      show (format.ofText _ depth start >>= _).toOption = _
      rw [toOption_bind, same]
      have short := Nat.lt_trans (length_lt_of_readWritten read_here) short
      cases stand with
      | close next _ =>
        show _ = Option.map _ (format.ofDocument item.sorted >>= fun _ => _).toOption
        rw [toOption_bind]
        cases (format.ofDocument item.sorted).toOption with
        | none => rfl
        | some x =>
          show (Except.bind (nextItem false after) _).toOption = _
          rw [next]
          rfl
      | @item k _ _ start after' rest item' items next read_here stand =>
        have short := Nat.lt_of_le_of_lt (length_le_of_nextItem next) short
        have same := agrees'.same short read_here
          (distinct item' (List.mem_cons_of_mem _ List.mem_cons_self))
        show _ = Option.map _ (format.ofDocument item.sorted >>= fun _ => _).toOption
        rw [toOption_bind]
        cases (format.ofDocument item.sorted).toOption with
        | none => rfl
        | some x =>
          show (Except.bind (nextItem false after) _).toOption =
            Option.map _ (format'.ofDocument item'.sorted >>= fun _ => _).toOption
          rw [next, toOption_bind]
          show (format'.ofText _ depth start >>= _).toOption = _
          rw [toOption_bind, same]
          cases (format'.ofDocument item'.sorted).toOption with
          | none => rfl
          | some y =>
            show (closeList after' >>= _).toOption = _
            rw [toOption_bind, toOption_closeList stand, sortedItems_eq_map]
            cases items <;> rfl
  | number digit number =>
    split
    next same => cases same; exact absurd digit (by decide)
    next => exact toOption_refuse fuel pairName _
  | _ => exact toOption_refuse fuel pairName _

end Lists

/-! ## Objects -/

section Objects
variable {σ : Type} {fuel depth k : Nat} {first : Bool} {text rest : List Char}
  {written : List (String × Json)}

/-- A reader of fields comes from its colon on to what a step makes of the value. -/
def StepsLike (fuel depth : Nat) (field : σ → String → Reader σ)
    (step : σ → String → Json → Option σ) : Prop :=
  ∀ (state : σ) (key : String) {colon behind after : List Char} {value : Json},
    behind.length < fuel → scanColon colon = .ok behind →
    readWritten fuel depth behind = .ok (value, after) → Every Distinct value →
    (field state key colon).toOption =
      (step state key value.sorted).map fun state => (state, after)

theorem length_lt_of_nextKey {start : List Char} (next : nextKey first text = .ok (true, start)) :
    start.length < text.length := by
  have fewer := length_skipBlanks_le text
  cases goesOn_of_nextKey next with
  | first quote => rwa [quote] at fewer
  | @later _ behind _ shown quote =>
    have fewest := length_skipBlanks_le behind
    rw [shown, List.length_cons] at fewer
    rw [quote, List.length_cons] at fewest
    omega

/-- The fields of an object come to the same, step by step, in the order in which they are written. -/
theorem toOption_scanFields {field : σ → String → Reader σ} {step : σ → String → Json → Option σ}
    (like : StepsLike fuel depth field step)
    (stand : FieldsAt (readWritten fuel depth) k first text written rest)
    (short : text.length < fuel) (distinct : ∀ f ∈ written, Every Distinct f.2) (state : σ) :
    (scanFields field k first state text).toOption =
      ((sortedFields written).foldlM (fun state f => step state f.1 f.2) state).map
        fun state => (state, rest) := by
  induction stand generalizing state with
  | close next closed =>
    rw [scanFields, next]
    show ((closeObject _).bind _).toOption = _
    rw [closed]
    rfl
  | @field k first text start colon behind after rest key value written next key_read passed
      read_here _ ih =>
    have := length_lt_of_nextKey next
    have := length_lt_of_scanString key_read
    have := length_lt_of_scanColon passed
    have := length_lt_of_readWritten read_here
    have same := like state key (by omega) passed read_here (distinct _ List.mem_cons_self)
    rw [scanFields, next]
    show ((scanString (k + 1) start).bind _).toOption = _
    rw [key_read]
    show (field state key colon >>= _).toOption = _
    rw [toOption_bind, same, sortedFields, List.foldlM_cons]
    show _ = Option.map _ ((step state key value.sorted).bind _)
    cases step state key value.sorted with
    | none => rfl
    | some state =>
      exact ih (by omega) (fun f mem => distinct f (List.mem_cons_of_mem _ mem)) state

/-- Steps on two fields with different keys can trade places. -/
def Trades (step : σ → String → Json → Option σ) : Prop :=
  ∀ (state : σ) (key key' : String) (value value' : Json), key ≠ key' →
    (step state key value).bind (step · key' value') =
      (step state key' value').bind (step · key value)

/-- The fields of an object come to the same in order as they do as written, if no key comes twice. -/
theorem foldlM_sorted {step : σ → String → Json → Option σ} (trades : Trades step)
    (distinct : (written.map Prod.fst).Nodup) (state : σ) :
    (Fields.ofList (sortedFields written)).foldlM (fun state f => step state f.1 f.2) state =
      (sortedFields written).foldlM (fun state f => step state f.1 f.2) state := by
  refine Fields.foldlM_ofList ?_
    (fun state key value key' value' => trades state key key' value value') state
  rw [sortedFields_eq_map, List.map_map]
  exact distinct

/-- Decodes a value and puts it under its key. -/
def putField (format : Format α) (fields : Fields α) (key : String) (value : Json) :
    Option (Fields α) :=
  (format.ofDocument value).toOption.map fun x => Fields.insert key x fields

/-- Reads a value from its colon on, and puts it under its key. -/
def scanField (format : Format α) (fuel depth : Nat) (fields : Fields α) (key : String) :
    Reader (Fields α) := fun text => do
  let text ← scanColon text
  let (value, text) ← format.ofText fuel depth text
  return (Fields.insert key value fields, text)

theorem Agrees.stepsLike_scanField {format : Format α} (agrees : format.Agrees) (fuel depth : Nat) :
    StepsLike fuel depth (format.scanField fuel depth) (putField format) := by
  intro fields key colon behind after value short passed read_here distinct
  show ((scanColon colon).bind _).toOption = _
  rw [passed]
  show (format.ofText fuel depth behind >>= _).toOption = _
  rw [toOption_bind, agrees.same short read_here distinct, putField]
  cases (format.ofDocument value.sorted).toOption <;> rfl

theorem trades_putField (format : Format α) : Trades (putField format) := by
  intro fields key key' value value' apart
  unfold putField
  cases (format.ofDocument value).toOption with
  | none => cases (format.ofDocument value').toOption <;> rfl
  | some x =>
    cases (format.ofDocument value').toOption with
    | none => rfl
    | some x' => exact congrArg some (Fields.insert_comm apart.symm fields)

theorem ofDocument_fields (format : Format α) (fields : List (String × Json)) :
    ((Format.fields format).ofDocument (.object fields)).toOption =
      fields.foldlM (fun state f => putField format state f.1 f.2) [] := by
  have step : ∀ (fields : List (String × Json)) (state : Fields α),
      (fields.mapM fun f => (format.ofDocument f.2).toOption.map fun x => (f.1, x)).map
          (fun values => values.foldl (fun sorted f => Fields.insert f.1 f.2 sorted) state) =
        fields.foldlM (fun state f => putField format state f.1 f.2) state := by
    intro fields
    induction fields with
    | nil => exact fun _ => rfl
    | cons field fields ih =>
      intro state
      rw [List.mapM_cons, List.foldlM_cons, putField]
      cases (format.ofDocument field.2).toOption with
      | none => rfl
      | some x =>
        refine Eq.trans ?_ (ih (Fields.insert field.1 x state))
        show Option.map _ (Option.bind (List.mapM _ fields) _) = _
        cases fields.mapM fun f => (format.ofDocument f.2).toOption.map fun x => (f.1, x) <;> rfl
  have each : (fun f : String × Json => (do
      let value ← format.ofDocument f.2
      return (f.1, value) : Except Mismatch (String × α)).toOption) =
      fun f => (format.ofDocument f.2).toOption.map fun x => (f.1, x) := by
    funext f
    rw [toOption_bind]
    cases (format.ofDocument f.2).toOption <;> rfl
  have whole : (Format.fields format).ofDocument (.object fields) =
      fields.mapM (fun f => do
        let value ← format.ofDocument f.2
        return (f.1, value)) >>= fun values => .ok (Fields.ofList values) := rfl
  rw [← step, ← each, whole, toOption_bind, toOption_mapM]
  exact Option.map_eq_bind.symm

theorem agrees_fields {format : Format α} (agrees : format.Agrees) :
    (Format.fields format).Agrees := by
  refine agrees_of_written fun {fuel depth text rest document} short written distinct => ?_
  simp only [Format.fields]
  generalize skipBlanks text = shown at short written
  cases written with
  | @object depth text rest entries stand =>
    show (scanFields (format.scanField fuel depth) fuel true [] text).toOption =
      Option.map _ ((Format.fields format).ofDocument
        (.object (Fields.ofList (sortedFields entries)))).toOption
    rw [toOption_scanFields (agrees.stepsLike_scanField fuel depth) stand
      (Nat.lt_of_succ_lt short) distinct.of_field, ofDocument_fields,
      foldlM_sorted (trades_putField format) distinct.here]
  | number digit number =>
    split
    next same => cases same; exact absurd digit (by decide)
    next => exact toOption_refuse fuel "a map" _
  | _ => exact toOption_refuse fuel "a map" _

end Objects

/-- Both paths come to the same for a whole text. -/
theorem Agrees.read {format : Format α} (agrees : format.Agrees) {text : String} {written : Json}
    (as_written : readAsWritten text = .ok written) (distinct : Every Distinct written) :
    (format.read text).toOption = (format.ofDocument written.sorted).toOption := by
  obtain ⟨rest, scanned, blank⟩ := readText_eq_ok_iff.mp as_written
  have same := agrees.same (Nat.lt_succ_self _) scanned distinct
  ext x
  rw [toOption_eq_some_iff, Format.read, readText_eq_ok_iff]
  constructor
  · rintro ⟨behind, front, -⟩
    rw [toOption_eq_some_iff.mpr front] at same
    obtain ⟨y, given, same⟩ := Option.map_eq_some_iff.mp same.symm
    cases same
    exact given
  · intro given
    refine ⟨rest, toOption_eq_some_iff.mp ?_, blank⟩
    rw [same, given]
    rfl

end Format

end CatalogClient

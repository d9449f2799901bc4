import CatalogClient.Proofs.Decoding
import CatalogClient.Proofs.Json.Spelled
import CatalogClient.Retry

/-!
# Options given in part

Options are read from the fields of an object in any order, or from the items of a list in the order
of their names. `TakesAll` says what a series of keys and values makes of options, one at a time;
both forms are read as that and no other (`read_object_iff`, `read_array_iff`). From no options at
all a series comes to a result just if every option it gives is given once and with a value of its
type (`exists_takesAll`, `get?_of_takesAll`), so options that are left out keep their defaults
(`partial_options_read`).
-/

namespace CatalogClient

open Json

/-! ## Values of options -/

namespace OptionName

/-- What is written for a value of an option: the digits of a word, a number, or a list of pairs of
texts. -/
def Spells : (name : OptionName) → name.Value → List Char → Prop
  | timeoutMs, v, text => IsWhole text ∧ Nat.ofDigitChars 10 text 0 = UInt64.toNat v
  | maxRetries, v, text => IsWhole text ∧ Nat.ofDigitChars 10 text 0 = UInt32.toNat v
  | backoffScaleMs, v, text => ∃ n : JsonNumber, SpellsNumber n text ∧ n.toBinary64 = v
  | headers, v, text =>
    Format.SpellsList (Format.SpellsPair Format.SpellsString Format.SpellsString) v text

theorem readsJust_word64 : Format.word64.ReadsJust 0 (Spells timeoutMs) := by
  refine Format.readsJust_word (by decide) "u64" (fun n below => ?_) (fun v => ?_) fun v => ?_
  · exact UInt64.toNat_ofNat_of_lt' (show n < 18446744073709551616 by omega)
  · exact UInt64.ofNat_toNat
  · have := UInt64.toNat_lt v
    omega

theorem readsJust_word32 : Format.word32.ReadsJust 0 (Spells maxRetries) := by
  refine Format.readsJust_word (by decide) "u32" (fun n below => ?_) (fun v => ?_) fun v => ?_
  · exact UInt32.toNat_ofNat_of_lt' (show n < 4294967296 by omega)
  · exact UInt32.ofNat_toNat
  · have := UInt32.toNat_lt v
    omega

theorem readsJust_float : Format.float.ReadsJust 0 (Spells backoffScaleMs) := by
  refine (Format.readsJust_number _ _).congr fun v text => ?_
  simp only [Spells, Except.ok.injEq]

/-- Headers nest two deep, all other options not at all. -/
theorem readsJust_valueFormat (name : OptionName) : name.valueFormat.ReadsJust 2 name.Spells := by
  cases name with
  | timeoutMs => exact readsJust_word64.mono (by decide)
  | maxRetries => exact readsJust_word32.mono (by decide)
  | backoffScaleMs => exact readsJust_float.mono (by decide)
  | headers =>
    exact Format.readsJust_list (Format.readsJust_pair Format.readsJust_text Format.readsJust_text)

theorem ofKey?_key (name : OptionName) : ofKey? name.key = some name := by
  cases name <;> rfl

theorem key_injective {name name' : OptionName} (same : name.key = name'.key) : name = name' :=
  Option.some.inj ((ofKey?_key name).symm.trans ((congrArg ofKey? same).trans (ofKey?_key name')))

end OptionName

/-- The value of an option. -/
def ClientOptions.value (options : ClientOptions) : (name : OptionName) → name.Value
  | .timeoutMs => options.timeoutMs
  | .maxRetries => options.maxRetries
  | .backoffScaleMs => options.backoffScaleMs
  | .headers => options.headers

namespace PartialOptions

/-- The value of an option, if it is given. -/
def get? (options : PartialOptions) : (name : OptionName) → Option name.Value
  | .timeoutMs => options.timeoutMs
  | .maxRetries => options.maxRetries
  | .backoffScaleMs => options.backoffScaleMs
  | .headers => options.headers

theorem has_eq_false_iff {options : PartialOptions} {name : OptionName} :
    options.has name = false ↔ options.get? name = none := by
  cases name <;> exact Option.isSome_eq_false_iff.trans Option.isNone_iff_eq_none

@[simp] theorem get?_empty (name : OptionName) : empty.get? name = none := by
  cases name <;> rfl

@[simp] theorem get?_put (options : PartialOptions) (name : OptionName) (v : name.Value) :
    (options.put name v).get? name = some v := by
  cases name <;> rfl

theorem get?_put_of_ne (options : PartialOptions) {name name' : OptionName} (apart : name ≠ name')
    (v : name.Value) : (options.put name v).get? name' = options.get? name' := by
  cases name <;> cases name' <;> first | rfl | exact absurd rfl apart

theorem value_complete (options : PartialOptions) (name : OptionName) :
    options.complete.value name = (options.get? name).getD (ClientOptions.standard.value name) := by
  cases name <;> rfl

/-! ## Options taken one by one -/

/-- What a key with a value does to options: an option that is not given yet takes a value that it
spells, and any other key is passed over. -/
inductive Takes (options : PartialOptions) (key : String) (text : List Char) :
    PartialOptions → Prop
  | unknown : OptionName.ofKey? key = none → Takes options key text options
  | known {name : OptionName} {v : name.Value} : OptionName.ofKey? key = some name →
    options.get? name = none → name.Spells v text → Takes options key text (options.put name v)

/-- What a series of keys with their values does to options. -/
inductive TakesAll : PartialOptions → List (String × List Char) → PartialOptions → Prop
  | nil {options : PartialOptions} : TakesAll options [] options
  | cons {options options' options'' : PartialOptions} {key : String} {text : List Char}
    {fields : List (String × List Char)} : Takes options key text options' →
    TakesAll options' fields options'' → TakesAll options ((key, text) :: fields) options''

theorem get?_of_takes {options options' : PartialOptions} {key : String} {text : List Char}
    (taken : Takes options key text options') {name : OptionName} (other : key ≠ name.key) :
    options'.get? name = options.get? name := by
  cases taken with
  | unknown _ => rfl
  | @known name' v found _ _ =>
    refine get?_put_of_ne options (fun same => other ?_) v
    rw [← OptionName.key_of_ofKey? found, same]

/-- A series that comes to a result gives an option at most once, with a value that it spells, and only
if it was not given before. Options that it does not give stay as they were. -/
theorem get?_of_takesAll {options options' : PartialOptions} {fields : List (String × List Char)}
    (taken : TakesAll options fields options') (name : OptionName) :
    (name.key ∉ fields.map Prod.fst ∧ options'.get? name = options.get? name) ∨
    ((fields.map Prod.fst).count name.key = 1 ∧ options.get? name = none ∧
      ∃ v, options'.get? name = some v ∧
        ∀ text, (name.key, text) ∈ fields → name.Spells v text) := by
  induction taken with
  | nil => exact .inl ⟨List.not_mem_nil, rfl⟩
  | @cons options options₁ options' key text fields here _ ih =>
    by_cases same : key = name.key
    · subst same
      cases here with
      | unknown other => rw [OptionName.ofKey?_key] at other; cases other
      | @known name' v found absent spelled =>
        rw [OptionName.ofKey?_key] at found
        obtain rfl := Option.some.inj found
        rw [get?_put] at ih
        -- the option is given now, so nothing behind this field can give it again
        rcases ih with ⟨later, kept⟩ | ⟨-, given, -⟩
        · refine .inr ⟨?_, absent, v, kept, fun text' mem => ?_⟩
          · rw [List.map_cons, List.count_cons_self, List.count_eq_zero.mpr later]
          · rcases List.mem_cons.mp mem with same | mem
            · cases same
              exact spelled
            · exact absurd (List.mem_map_of_mem mem) later
        · cases given
    · rw [get?_of_takes here same] at ih
      rcases ih with ⟨later, kept⟩ | ⟨once, absent, v, given, spelled⟩
      · refine .inl ⟨?_, kept⟩
        rw [List.map_cons, List.mem_cons, not_or]
        exact ⟨fun h => same h.symm, later⟩
      · refine .inr ⟨?_, absent, v, given, fun text' mem => ?_⟩
        · rw [List.map_cons, List.count_cons_of_ne same, once]
        · rcases List.mem_cons.mp mem with first | mem
          · exact absurd (Prod.mk.inj first).1.symm same
          · exact spelled text' mem

/-- By induction on the series: whatever it still gives is not given yet. -/
theorem exists_takesAll {options : PartialOptions} {fields : List (String × List Char)}
    (once : ∀ name : OptionName, (fields.map Prod.fst).count name.key ≤ 1)
    (absent : ∀ name : OptionName, name.key ∈ fields.map Prod.fst → options.get? name = none)
    (spelled : ∀ field ∈ fields, ∀ name : OptionName, field.1 = name.key →
      ∃ v, name.Spells v field.2) : ∃ options', TakesAll options fields options' := by
  induction fields generalizing options with
  | nil => exact ⟨options, .nil⟩
  | cons field fields ih =>
    obtain ⟨key, text⟩ := field
    have later_once (name : OptionName) : (fields.map Prod.fst).count name.key ≤ 1 :=
      Nat.le_trans (List.count_le_count_cons) (once name)
    have later_spelled : ∀ field ∈ fields, ∀ name : OptionName, field.1 = name.key →
        ∃ v, name.Spells v field.2 := fun field mem => spelled field (List.mem_cons_of_mem _ mem)
    cases found : OptionName.ofKey? key with
    | none =>
      obtain ⟨options', taken⟩ := ih later_once
        (fun name mem => absent name (List.mem_cons_of_mem _ mem)) later_spelled
      exact ⟨options', .cons (.unknown found) taken⟩
    | some name =>
      obtain rfl := OptionName.key_of_ofKey? found
      obtain ⟨v, spells⟩ := spelled (name.key, text) List.mem_cons_self name rfl
      have later_absent : ∀ name' : OptionName, name'.key ∈ fields.map Prod.fst →
          (options.put name v).get? name' = none := by
        intro name' mem
        -- a second value for the same option would make two
        have apart : name ≠ name' := by
          rintro rfl
          have twice := once name
          rw [List.map_cons, List.count_cons_self] at twice
          have := List.count_pos_iff.mpr mem
          omega
        rw [get?_put_of_ne options apart]
        exact absent name' (List.mem_cons_of_mem _ mem)
      obtain ⟨options', taken⟩ := ih later_once later_absent later_spelled
      exact ⟨options', .cons (.known found (absent name List.mem_cons_self) spells) taken⟩

end PartialOptions

/-! ## Objects and lists -/

namespace Json

/-- A field whose key spells a text and whose value is well-formed. Half a surrogate pair is no
text, so no key has one. -/
structure Entry extends Field where
  key : String
  spelled : SpellsText quoted key.toList
  wellFormed : IsValue value.text

/-- The key of an entry and what is written for its value. -/
def Entry.given (entry : Entry) : String × List Char := (entry.key, entry.value.text)

/-- A well-formed value with blanks around it. -/
structure Item extends Spaced where
  wellFormed : IsValue text

/-- A key that is written as it is, with nothing around the value. -/
def Entry.bare (key : String) (plain : ∀ c ∈ key.toList, IsPlain c) (text : List Char)
    (value : IsValue text) : Entry where
  front := []
  quoted := key.toList
  between := []
  value := .bare text
  blank_front := isBlanks_nil
  blank_between := isBlanks_nil
  key := key
  spelled := spellsText_of_plain plain
  wellFormed := value

def Item.bare (text : List Char) (value : IsValue text) : Item := ⟨.bare text, value⟩

/-- The text is an object with these entries. -/
def IsObjectText (text : String) (entries : List Entry) : Prop :=
  ∃ front blanks back, IsBlanks front ∧ IsBlanks blanks ∧ IsBlanks back ∧
    text.toList = front ++
      '\x7b' :: (enclosed '\x7d' blanks (entries.map fun e => e.toField.chars) ++ back)

/-- The text is a list of these items. -/
def IsListText (text : String) (items : List Item) : Prop :=
  ∃ front blanks back, IsBlanks front ∧ IsBlanks blanks ∧ IsBlanks back ∧
    text.toList = front ++
      '[' :: (enclosed ']' blanks (items.map fun i => i.toSpaced.chars) ++ back)

theorem isObjectText_of_toList {text : String} {entries : List Entry} (same : text.toList =
    '\x7b' :: enclosed '\x7d' [] (entries.map fun e => e.toField.chars)) :
    IsObjectText text entries :=
  ⟨[], [], [], isBlanks_nil, isBlanks_nil, isBlanks_nil, by rw [same, List.append_nil]; rfl⟩

theorem isListText_of_toList {text : String} {items : List Item} (same : text.toList =
    '[' :: enclosed ']' [] (items.map fun i => i.toSpaced.chars)) : IsListText text items :=
  ⟨[], [], [], isBlanks_nil, isBlanks_nil, isBlanks_nil, by rw [same, List.append_nil]; rfl⟩

end Json

namespace PartialOptions

section Reading
variable {options options' : PartialOptions} {name : OptionName} {fuel depth k : Nat}
  {blanks back rest rest' : List Char} {first : Bool} {entry : Entry} {entries : List Entry}

/-- An option that is not given yet is read from the values that it spells. -/
theorem readsJust_format (absent : options.get? name = none) :
    (options.format name).ReadsJust 2
      fun options' text => Takes options name.key text options' := by
  rw [format_eq]
  refine (Format.readsJust_map name.readsJust_valueFormat (options.put name)).congr
    fun options' text => ⟨?_, fun taken => ?_⟩
  · rintro ⟨v, spelled, rfl⟩
    exact .known (OptionName.ofKey?_key name) absent spelled
  · cases taken with
    | unknown other => rw [OptionName.ofKey?_key] at other; cases other
    | @known name' v found _ spelled =>
      rw [OptionName.ofKey?_key] at found
      obtain rfl := Option.some.inj found
      exact ⟨v, spelled, rfl⟩

/-- What stands behind a key is read as the option takes it, or passed over. -/
theorem scanField_iff (ends : EndsNumber rest) (deeper : 2 ≤ depth)
    (enough : entry.value.text.length < fuel) :
    scanField fuel depth options entry.key
        (entry.between ++ ':' :: (entry.value.chars ++ rest)) = .ok (options', rest') ↔
      Takes options entry.key entry.value.text options' ∧ rest' = entry.value.back ++ rest := by
  unfold scanField
  cases found : OptionName.ofKey? entry.key with
  | none =>
    -- an unknown key: its value is passed over, whatever it is
    have passed := skipValue_of_isValue entry.wellFormed enough entry.value.front _
      entry.value.blank_front (endsNumber_append entry.value.blank_back ends)
    rw [← entry.value.chars_append] at passed
    have read : (do
        let text ← scanColon (entry.between ++ ':' :: (entry.value.chars ++ rest))
        let text ← skipValue fuel text
        return (options, text)) = (.ok (options, entry.value.back ++ rest) : Except Fault _) := by
      rw [scanColon_append entry.blank_between]
      show (skipValue fuel (entry.value.chars ++ rest)).bind _ = _
      rw [passed]
      rfl
    simp only [read, Except.ok.injEq, Prod.mk.injEq]
    constructor
    · rintro ⟨rfl, rfl⟩
      exact ⟨.unknown found, rfl⟩
    · rintro ⟨taken, rfl⟩
      cases taken with
      | unknown _ => exact ⟨rfl, rfl⟩
      | known found' => rw [found] at found'; cases found'
  | some name =>
    obtain same := OptionName.key_of_ofKey? found
    dsimp only
    cases given : options.has name with
    | true =>
      -- a repeated option is refused before its value is looked at
      refine iff_of_false (fun read => nomatch read) ?_
      rintro ⟨taken, -⟩
      cases taken with
      | unknown other => rw [found] at other; cases other
      | known found' absent _ =>
        rw [found] at found'
        obtain rfl := Option.some.inj found'
        rw [has_eq_false_iff.mpr absent] at given
        cases given
    | false =>
      rw [if_neg Bool.false_ne_true, scanColon_append entry.blank_between, ← same]
      exact (readsJust_format (has_eq_false_iff.mp given)).reads_spaced_iff entry.wellFormed ends
        deeper enough

theorem scanFields_close_iff {text text' : List Char}
    (next : nextKey first text = .ok (false, '\x7d' :: rest)) :
    scanFields (scanField fuel depth) (k + 1) first options text = .ok (options', text') ↔
      TakesAll options [] options' ∧ text' = rest := by
  have brace : closeObject ('\x7d' :: rest) = .ok rest := rfl
  have closed : scanFields (scanField fuel depth) (k + 1) first options text =
      .ok (options, rest) := by
    simp only [scanFields, next, bind, Except.bind, Bool.false_eq_true, if_false, brace]
    rfl
  rw [closed, Except.ok.injEq, Prod.mk.injEq, @eq_comm _ rest]
  refine and_congr_left fun _ => ⟨?_, fun taken => ?_⟩
  · rintro rfl
    exact .nil
  · cases taken
    rfl

/-- One field is taken, and then those after it from what it makes of the options. -/
theorem scanFields_entry_iff {text behind text' : List Char} {given : List (String × List Char)}
    (next : nextKey first text = .ok (true, entry.quoted ++ '"' ::
      (entry.between ++ ':' :: (entry.value.chars ++ behind))))
    (ends : EndsNumber behind) (deeper : 2 ≤ depth) (quoted : entry.quoted.length < k + 1)
    (enough : entry.value.text.length < fuel)
    (later : ∀ options options' text',
      scanFields (scanField fuel depth) k false options (entry.value.back ++ behind) =
        .ok (options', text') ↔ TakesAll options given options' ∧ text' = rest) :
    scanFields (scanField fuel depth) (k + 1) first options text = .ok (options', text') ↔
      TakesAll options (entry.given :: given) options' ∧ text' = rest := by
  rw [scanFields, next]
  show (scanString (k + 1) _).bind _ = _ ↔ _
  rw [scanString_of_spells entry.spelled quoted]
  show (scanField fuel depth options entry.key _).bind _ = _ ↔ _
  constructor
  · intro scan
    obtain ⟨⟨options₁, text₁⟩, here, scan⟩ := bind_eq_ok.mp scan
    obtain ⟨taken, rfl⟩ := (scanField_iff ends deeper enough).mp here
    obtain ⟨all, rfl⟩ := (later _ _ _).mp scan
    exact ⟨.cons taken all, rfl⟩
  · rintro ⟨_ | ⟨taken, all⟩, rfl⟩
    exact bind_eq_ok.mpr ⟨_, (scanField_iff ends deeper enough).mpr ⟨taken, rfl⟩,
      (later _ _ _).mpr ⟨all, rfl⟩⟩

theorem scanFields_further_iff {text' : List Char} (blank : IsBlanks back) (deeper : 2 ≤ depth)
    (fits : ∀ entry ∈ entries, entry.value.text.length < fuel)
    (enough : (further '\x7d' (entries.map fun e => e.toField.chars)).length ≤ k) :
    scanFields (scanField fuel depth) k false options
        (back ++ (further '\x7d' (entries.map fun e => e.toField.chars) ++ rest)) =
        .ok (options', text') ↔
      TakesAll options (entries.map Entry.given) options' ∧ text' = rest := by
  induction entries generalizing options options' k back text' with
  | nil =>
    obtain ⟨k, rfl⟩ := Nat.exists_eq_add_one_of_ne_zero (Nat.ne_zero_of_lt enough)
    exact scanFields_close_iff (nextKey_close blank false rest)
  | cons entry entries ih =>
    rw [List.map_cons, length_further_cons] at enough
    obtain ⟨k, rfl⟩ := Nat.exists_eq_add_one_of_ne_zero (Nat.ne_zero_of_lt enough)
    have shorter := entry.length_quoted_lt
    rw [List.map_cons, further_cons, entry.chars_append, List.map_cons]
    exact scanFields_entry_iff (nextKey_comma blank entry.blank_front _)
      (endsNumber_further (.inr rfl) _ rest) deeper (by omega) (fits entry List.mem_cons_self)
      fun _ _ _ => ih entry.value.blank_back
        (fun other mem => fits other (List.mem_cons_of_mem _ mem)) (by omega)

/-- The fields of an object are taken one by one, and nothing else is read from them. -/
theorem scanFields_enclosed_iff {text' : List Char} (blank : IsBlanks blanks) (deeper : 2 ≤ depth)
    (fits : ∀ entry ∈ entries, entry.value.text.length < fuel)
    (enough : (enclosed '\x7d' blanks (entries.map fun e => e.toField.chars)).length ≤ k) :
    scanFields (scanField fuel depth) k true options
        (enclosed '\x7d' blanks (entries.map fun e => e.toField.chars) ++ rest) =
        .ok (options', text') ↔
      TakesAll options (entries.map Entry.given) options' ∧ text' = rest := by
  cases entries with
  | nil =>
    rw [List.map_nil, enclosed, List.length_append] at enough
    obtain ⟨k, rfl⟩ := Nat.exists_eq_add_one_of_ne_zero (Nat.ne_zero_of_lt enough)
    rw [List.map_nil, enclosed, List.append_assoc]
    exact scanFields_close_iff (nextKey_close blank true rest)
  | cons entry entries =>
    have shorter := entry.length_quoted_lt
    rw [List.map_cons, length_enclosed_cons] at enough
    obtain ⟨k, rfl⟩ := Nat.exists_eq_add_one_of_ne_zero (n := k) (by omega)
    rw [List.map_cons, enclosed_cons, entry.chars_append, List.map_cons]
    exact scanFields_entry_iff (nextKey_quote entry.blank_front _)
      (endsNumber_further (.inr rfl) _ rest) deeper (by omega) (fits entry List.mem_cons_self)
      fun _ _ _ => scanFields_further_iff entry.value.blank_back deeper
        (fun other mem => fits other (List.mem_cons_of_mem _ mem)) (by omega)

/-! ### Positions -/

/-- The values of a list, each with the key of the option in its place. -/
def positions (names : List OptionName) (items : List Item) : List (String × List Char) :=
  List.zipWith (fun name item => (name.key, item.text)) names items

theorem scanPositions_item_iff {names : List OptionName} {item : Item} {items : List Item}
    {text behind text' : List Char}
    (next : nextItem first text = .ok (true, item.text ++ (item.back ++ behind)))
    (absent : options.get? name = none) (ends : EndsNumber behind) (deeper : 2 ≤ depth)
    (enough : item.text.length < fuel)
    (later : ∀ options₁ options' text', Takes options name.key item.text options₁ →
      (scanPositions fuel depth names false options₁ (item.back ++ behind) =
        .ok (options', text') ↔
      (items.length ≤ names.length ∧ TakesAll options₁ (positions names items) options') ∧
        text' = rest)) :
    scanPositions fuel depth (name :: names) first options text = .ok (options', text') ↔
      ((item :: items).length ≤ (name :: names).length ∧
        TakesAll options (positions (name :: names) (item :: items)) options') ∧ text' = rest := by
  have here {options₁ : PartialOptions} {text₁ : List Char} :
      (options.format name).ofText fuel depth (item.text ++ (item.back ++ behind)) =
        .ok (options₁, text₁) ↔
      Takes options name.key item.text options₁ ∧ text₁ = item.back ++ behind :=
    (readsJust_format absent).reads_iff item.wellFormed (endsNumber_append item.blank_back ends)
      deeper enough
  rw [scanPositions, next, List.length_cons, List.length_cons, Nat.add_le_add_iff_right]
  show ((options.format name).ofText fuel depth _).bind _ = _ ↔ _
  constructor
  · intro scan
    obtain ⟨⟨options₁, text₁⟩, read, scan⟩ := bind_eq_ok.mp scan
    obtain ⟨taken, rfl⟩ := here.mp read
    obtain ⟨⟨few, all⟩, rfl⟩ := (later _ _ _ taken).mp scan
    exact ⟨⟨few, .cons taken all⟩, rfl⟩
  · rintro ⟨⟨few, _ | ⟨taken, all⟩⟩, rfl⟩
    exact bind_eq_ok.mpr ⟨_, here.mpr ⟨taken, rfl⟩, (later _ _ _ taken).mpr ⟨⟨few, all⟩, rfl⟩⟩

theorem scanPositions_close_iff {names : List OptionName} {text text' : List Char}
    (next : nextItem first text = .ok (false, ']' :: rest)) :
    scanPositions fuel depth (name :: names) first options text = .ok (options', text') ↔
      (([] : List Item).length ≤ (name :: names).length ∧
        TakesAll options (positions (name :: names) []) options') ∧ text' = rest := by
  have bracket : closeList (']' :: rest) = .ok rest := rfl
  have closed : scanPositions fuel depth (name :: names) first options text =
      .ok (options, rest) := by
    simp only [scanPositions, next, bind, Except.bind, Bool.false_eq_true, if_false, bracket]
    rfl
  rw [closed, Except.ok.injEq, Prod.mk.injEq, @eq_comm _ rest]
  refine and_congr_left fun _ => ⟨?_, fun ⟨_, taken⟩ => ?_⟩
  · rintro rfl
    exact ⟨Nat.zero_le _, .nil⟩
  · cases taken
    rfl

/-- What no option before it gives is still not given behind it. -/
theorem absent_of_takes {names : List OptionName} {text : List Char}
    (nodup : (name :: names).Nodup) (absent : ∀ name' ∈ name :: names, options.get? name' = none)
    (taken : Takes options name.key text options') :
    ∀ name' ∈ names, options'.get? name' = none := by
  intro name' mem
  have apart : name.key ≠ name'.key := by
    intro same
    exact (List.nodup_cons.mp nodup).1 (OptionName.key_injective same ▸ mem)
  rw [get?_of_takes taken apart]
  exact absent name' (List.mem_cons_of_mem _ mem)

theorem scanPositions_further_iff {names : List OptionName} {items : List Item}
    {text' : List Char} (nodup : names.Nodup) (absent : ∀ name ∈ names, options.get? name = none)
    (blank : IsBlanks back) (deeper : 2 ≤ depth)
    (fits : ∀ item ∈ items, item.text.length < fuel) :
    scanPositions fuel depth names false options
        (back ++ (further ']' (items.map fun i => i.toSpaced.chars) ++ rest)) =
        .ok (options', text') ↔
      (items.length ≤ names.length ∧ TakesAll options (positions names items) options') ∧
        text' = rest := by
  induction names generalizing options options' items back text' with
  | nil =>
    -- no option is left: a further item stops the reader
    have starts : ∀ item ∈ items.map Item.toSpaced, StartsValue item.text := by
      intro item mem
      obtain ⟨item, -, rfl⟩ := List.mem_map.mp mem
      exact startsValue_of_isValue item.wellFormed
    have closed {text' : List Char} := @Format.closeList_further_iff back rest text' _ blank starts
    rw [List.map_map, List.map_eq_nil_iff] at closed
    have positions_nil : positions [] items = [] := rfl
    rw [positions_nil, List.length_nil, Nat.le_zero, List.length_eq_zero_iff]
    constructor
    · intro scan
      obtain ⟨text₁, close, last⟩ := bind_eq_ok.mp scan
      obtain ⟨empty, rfl⟩ := closed.mp close
      cases last
      exact ⟨⟨empty, .nil⟩, rfl⟩
    · rintro ⟨⟨empty, taken⟩, rfl⟩
      cases taken
      exact bind_eq_ok.mpr ⟨_, closed.mpr ⟨empty, rfl⟩, rfl⟩
  | cons name names ih =>
    cases items with
    | nil => exact scanPositions_close_iff (nextItem_close blank false rest)
    | cons item items =>
      rw [List.map_cons, further_cons, item.chars_append]
      exact scanPositions_item_iff
        (nextItem_comma blank item.blank_front (startsValue_of_isValue item.wellFormed) _)
        (absent name List.mem_cons_self) (endsNumber_further (.inl rfl) _ rest) deeper
        (fits item List.mem_cons_self) fun _ _ _ taken =>
          ih (List.nodup_cons.mp nodup).2 (absent_of_takes nodup absent taken) item.blank_back
            fun other mem => fits other (List.mem_cons_of_mem _ mem)

/-- The items of a list are taken for the options in their places, if there are enough of these. -/
theorem scanPositions_enclosed_iff {names : List OptionName} {items : List Item}
    {text' : List Char} (nodup : (name :: names).Nodup)
    (absent : ∀ name' ∈ name :: names, options.get? name' = none)
    (blank : IsBlanks blanks) (deeper : 2 ≤ depth)
    (fits : ∀ item ∈ items, item.text.length < fuel) :
    scanPositions fuel depth (name :: names) true options
        (enclosed ']' blanks (items.map fun i => i.toSpaced.chars) ++ rest) =
        .ok (options', text') ↔
      (items.length ≤ (name :: names).length ∧
        TakesAll options (positions (name :: names) items) options') ∧ text' = rest := by
  cases items with
  | nil =>
    rw [List.map_nil, enclosed, List.append_assoc]
    exact scanPositions_close_iff (nextItem_close blank true rest)
  | cons item items =>
    rw [List.map_cons, enclosed_cons, item.chars_append]
    exact scanPositions_item_iff
      (nextItem_value item.blank_front (startsValue_of_isValue item.wellFormed) _)
      (absent name List.mem_cons_self) (endsNumber_further (.inl rfl) _ rest) deeper
      (fits item List.mem_cons_self) fun _ _ _ taken =>
        scanPositions_further_iff (List.nodup_cons.mp nodup).2
          (absent_of_takes nodup absent taken) item.blank_back deeper
          fun other mem => fits other (List.mem_cons_of_mem _ mem)

end Reading

end PartialOptions

/-! ## Whole texts -/

namespace ClientOptions

open PartialOptions

/-- Options are read from a text as from what stands in its brackets. -/
theorem read_iff_of_scan {text : String} {back : List Char} {options : ClientOptions}
    {scan : Except Fault (PartialOptions × List Char)} {Given : PartialOptions → Prop}
    (opened : format.ofText (text.toList.length + 1) depthLimit text.toList =
      scan.bind fun p => .ok (p.1.complete, p.2))
    (scanned : ∀ given rest, scan = .ok (given, rest) ↔ Given given ∧ rest = back)
    (blank : IsBlanks back) :
    read text = .ok options ↔ ∃ given, Given given ∧ options = given.complete := by
  rw [show read text = readText (fun fuel => format.ofText fuel depthLimit) text from rfl,
    readText_eq_ok_iff, opened]
  constructor
  · rintro ⟨rest, read, -⟩
    obtain ⟨⟨given, rest⟩, scan, last⟩ := bind_eq_ok.mp read
    cases last
    exact ⟨given, ((scanned _ _).mp scan).1, rfl⟩
  · rintro ⟨given, is_given, rfl⟩
    exact ⟨back, bind_eq_ok.mpr ⟨_, (scanned _ _).mpr ⟨is_given, rfl⟩, rfl⟩,
      skipBlanks_of_isBlanks blank⟩

/-- The options of an object are those that its fields make of no options, completed. -/
theorem read_object_iff {text : String} {entries : List Entry} {options : ClientOptions}
    (is_object : IsObjectText text entries) :
    read text = .ok options ↔
      ∃ given, TakesAll .empty (entries.map Entry.given) given ∧ options = given.complete := by
  obtain ⟨front, blanks, back, blank_front, blank, blank_back, same⟩ := is_object
  have length := congrArg List.length same
  simp only [List.length_append, List.length_cons] at length
  -- a value is shorter than the text that it stands in, so the fuel is enough for it
  have fits : ∀ entry ∈ entries, entry.value.text.length < text.toList.length + 1 := by
    intro entry mem
    have inside := length_lt_enclosed_of_mem '\x7d' blanks
      (List.mem_map_of_mem (f := fun e : Entry => e.toField.chars) mem)
    have := entry.length_text_le
    omega
  have opened (fuel : Nat) : format.ofText fuel depthLimit text.toList =
      (scanFields (PartialOptions.scanField fuel 126) fuel true .empty
        (enclosed '\x7d' blanks (entries.map fun e => e.toField.chars) ++ back)).bind
        fun p => .ok (p.1.complete, p.2) := by
    rw [same, format]
    dsimp only
    rw [skipBlanks_append blank_front]
    rfl
  exact read_iff_of_scan (opened _)
    (fun _ _ => scanFields_enclosed_iff blank (by decide) fits (by omega)) blank_back

/-- The options of a list are those that its items make of no options in their order, completed. -/
theorem read_array_iff {text : String} {items : List Item} {options : ClientOptions}
    (is_list : IsListText text items) :
    read text = .ok options ↔ ∃ given, (items.length ≤ OptionName.all.length ∧
      TakesAll .empty (positions OptionName.all items) given) ∧ options = given.complete := by
  obtain ⟨front, blanks, back, blank_front, blank, blank_back, same⟩ := is_list
  have length := congrArg List.length same
  simp only [List.length_append, List.length_cons] at length
  have fits : ∀ item ∈ items, item.text.length < text.toList.length + 1 := by
    intro item mem
    have inside := length_lt_enclosed_of_mem ']' blanks
      (List.mem_map_of_mem (f := fun i : Item => i.toSpaced.chars) mem)
    have := item.length_text_le
    omega
  have opened (fuel : Nat) : format.ofText fuel depthLimit text.toList =
      (scanPositions fuel 126 OptionName.all true .empty
        (enclosed ']' blanks (items.map fun i => i.toSpaced.chars) ++ back)).bind
        fun p => .ok (p.1.complete, p.2) := by
    rw [same, format]
    dsimp only
    rw [skipBlanks_append blank_front]
    rfl
  exact read_iff_of_scan (opened _)
    (fun _ _ => scanPositions_enclosed_iff (by decide) (fun name _ => get?_empty name) blank
      (by decide) fits) blank_back

section Objects
variable {text : String} {entries : List Entry} {options : ClientOptions}

theorem map_fst_given (entries : List Entry) :
    (entries.map Entry.given).map Prod.fst = entries.map Entry.key := by
  rw [List.map_map]
  rfl

theorem mem_given {entry : Entry} (mem : entry ∈ entries) {name : OptionName}
    (same : entry.key = name.key) : (name.key, entry.value.text) ∈ entries.map Entry.given :=
  List.mem_map.mpr ⟨entry, mem, by rw [← same]; rfl⟩

/-- Options can be read from an object if it gives each at most once, with a value of its type. Other
fields make no difference. -/
theorem readable_object_iff (is_object : IsObjectText text entries) :
    (∃ options, read text = .ok options) ↔
      (∀ name : OptionName, (entries.map Entry.key).count name.key ≤ 1) ∧
      ∀ entry ∈ entries, ∀ name : OptionName, entry.key = name.key →
        ∃ v, name.Spells v entry.value.text := by
  constructor
  · rintro ⟨options, ok⟩
    obtain ⟨given, taken, -⟩ := (read_object_iff is_object).mp ok
    have each (name : OptionName) := get?_of_takesAll taken name
    simp only [map_fst_given] at each
    refine ⟨fun name => ?_, fun entry mem name same => ?_⟩
    · rcases each name with ⟨absent, -⟩ | ⟨once, -⟩
      · rw [List.count_eq_zero.mpr absent]
        exact Nat.zero_le _
      · exact Nat.le_of_eq once
    · rcases each name with ⟨absent, -⟩ | ⟨-, -, v, -, spelled⟩
      · exact absurd (same ▸ List.mem_map_of_mem mem) absent
      · exact ⟨v, spelled _ (mem_given mem same)⟩
  · rintro ⟨once, spelled⟩
    rw [← map_fst_given] at once
    have each_spelled : ∀ field ∈ entries.map Entry.given, ∀ name : OptionName,
        field.1 = name.key → ∃ v, name.Spells v field.2 := by
      intro field inside
      obtain ⟨entry, mem, rfl⟩ := List.mem_map.mp inside
      exact spelled entry mem
    obtain ⟨given, taken⟩ := exists_takesAll once (fun name _ => get?_empty name) each_spelled
    exact ⟨given.complete, (read_object_iff is_object).mpr ⟨given, taken, rfl⟩⟩

/-- An option that is given has the value that is written for it, and no other. -/
theorem spells_iff_of_read_object (is_object : IsObjectText text entries)
    (ok : read text = .ok options) {entry : Entry} (mem : entry ∈ entries) {name : OptionName}
    (same : entry.key = name.key) (v : name.Value) :
    name.Spells v entry.value.text ↔ v = options.value name := by
  obtain ⟨given, taken, rfl⟩ := (read_object_iff is_object).mp ok
  have here := mem_given mem same
  rcases get?_of_takesAll taken name with ⟨absent, -⟩ | ⟨-, -, v', is_given, spelled⟩
  · exact absurd (List.mem_map_of_mem here) absent
  · rw [value_complete, is_given, Option.getD_some]
    refine ⟨fun spelled' => name.readsJust_valueFormat.unique spelled' (spelled _ here), ?_⟩
    rintro rfl
    exact spelled _ here

/-- An option that is left out keeps its default. -/
theorem value_of_read_object (is_object : IsObjectText text entries)
    (ok : read text = .ok options) {name : OptionName} (absent : name.key ∉ entries.map Entry.key) :
    options.value name = standard.value name := by
  obtain ⟨given, taken, rfl⟩ := (read_object_iff is_object).mp ok
  rw [← map_fst_given] at absent
  rcases get?_of_takesAll taken name with ⟨-, kept⟩ | ⟨once, -⟩
  · rw [value_complete, kept, get?_empty, Option.getD_none]
  · exact absurd (List.count_pos_iff.mp (by omega)) absent

end Objects

/-- A list of at most four items reads as the object with the options in order. -/
theorem read_array_eq {text text' : String} {items : List Item} {entries : List Entry}
    (is_list : IsListText text items) (is_object : IsObjectText text' entries)
    (few : items.length ≤ OptionName.all.length)
    (in_order : entries.map Entry.given = positions OptionName.all items) :
    (read text).toOption = (read text').toOption := by
  refine Option.ext fun options => ?_
  rw [toOption_eq_some_iff, toOption_eq_some_iff, read_array_iff is_list,
    read_object_iff is_object, in_order]
  simp only [few, true_and]

/-- The items of a list can be written as an object with the options in order. -/
theorem exists_object_of_positions (names : List OptionName) (items : List Item) :
    ∃ text entries, IsObjectText text entries ∧
      entries.map Entry.given = positions names items := by
  have plain (name : OptionName) : ∀ c ∈ name.key.toList, IsPlain c := by
    cases name <;> simp [OptionName.key, IsPlain]
  let entry (name : OptionName) (item : Item) : Entry :=
    .bare name.key (plain name) item.text item.wellFormed
  have given : (List.zipWith entry names items).map Entry.given = positions names items :=
    List.map_zipWith
  exact ⟨_, _, isObjectText_of_toList (String.toList_ofList), given⟩

/-- **Options given in part.** Those that are given take the values written for them, the others
keep their defaults, whatever other fields there are and in whatever order. An object is refused if
an option is repeated or has no value of its type; a list stands for the object with the first
options in order. -/
theorem partial_options_read :
    (∀ (text : String) (entries : List Entry), IsObjectText text entries →
      ((∃ options, read text = .ok options) ↔
        (∀ name : OptionName, (entries.map Entry.key).count name.key ≤ 1) ∧
        ∀ entry ∈ entries, ∀ name : OptionName, entry.key = name.key →
          ∃ v, name.Spells v entry.value.text) ∧
      ∀ options, read text = .ok options →
        (∀ entry ∈ entries, ∀ name : OptionName, entry.key = name.key →
          ∀ v, name.Spells v entry.value.text ↔ v = options.value name) ∧
        (∀ name : OptionName, name.key ∉ entries.map Entry.key →
          options.value name = standard.value name) ∧
        options.retryPolicy.maxRetries = options.value .maxRetries ∧
        options.retryPolicy.backoffScaleMs = options.value .backoffScaleMs) ∧
    ∀ (text : String) (items : List Item), IsListText text items →
      (items.length ≤ 4 →
        (∃ text' entries, IsObjectText text' entries ∧
          entries.map Entry.given = positions OptionName.all items) ∧
        ∀ (text' : String) (entries : List Entry), IsObjectText text' entries →
          entries.map Entry.given = positions OptionName.all items →
          (read text).toOption = (read text').toOption) ∧
      (4 < items.length → ∃ error, read text = .error error) := by
  refine ⟨fun text entries is_object => ⟨readable_object_iff is_object, fun options ok => ?_⟩,
    fun text items is_list => ⟨fun few => ⟨exists_object_of_positions _ items, ?_⟩, fun many => ?_⟩⟩
  · exact ⟨fun entry mem name same => spells_iff_of_read_object is_object ok mem same,
      fun name absent => value_of_read_object is_object ok absent, rfl, rfl⟩
  · exact fun text' entries is_object in_order => read_array_eq is_list is_object few in_order
  · cases result : read text with
    | error error => exact ⟨error, rfl⟩
    | ok options =>
      obtain ⟨-, ⟨few, -⟩, -⟩ := (read_array_iff is_list).mp result
      exact absurd few (Nat.not_le_of_lt many)

/-- Two options behind a field with another key, the same as positions, and one position too many. -/
theorem partial_options_read_two :
    (∃ options, read "\x7b\"limit\":null,\"max_retries\":3,\"timeout_ms\":5000\x7d" = .ok options ∧
      options.timeoutMs = 5000 ∧ options.retryPolicy.maxRetries = 3 ∧
      options.backoffScaleMs = standard.backoffScaleMs ∧ options.headers = standard.headers) ∧
    (read "[5000,3]").toOption =
      (read "\x7b\"timeout_ms\":5000,\"max_retries\":3\x7d").toOption ∧
    ∃ error, read "[5000,3,3,3,3]" = .error error := by
  have three : IsWhole ['3'] := .digits (by decide) (by decide) (fun _ h => nomatch h)
  have large : IsWhole ['5', '0', '0', '0'] :=
    .digits (by decide) (by decide) (by simp [IsDigits])
  have three_spelled : OptionName.Spells .maxRetries (3 : UInt32) ['3'] := ⟨three, rfl⟩
  have large_spelled : OptionName.Spells .timeoutMs (5000 : UInt64) ['5', '0', '0', '0'] :=
    ⟨large, rfl⟩
  have three_number := IsNumber.plain (isUnsigned_of_isWhole three)
  have large_number := IsNumber.plain (isUnsigned_of_isWhole large)
  have plain : ∀ key ∈ ["limit", "max_retries", "timeout_ms"], ∀ c ∈ key.toList, IsPlain c := by
    simp [IsPlain]
  let limit : Entry := .bare "limit" (plain _ (by decide)) ['n', 'u', 'l', 'l'] (.word (by decide))
  let retries : Entry := .bare "max_retries" (plain _ (by decide)) _ (.number three_number)
  let timeout : Entry := .bare "timeout_ms" (plain _ (by decide)) _ (.number large_number)
  let three_item : Item := .bare _ (.number three_number)
  let large_item : Item := .bare _ (.number large_number)
  refine ⟨?_, ?_, ?_⟩
  · have object : IsObjectText "\x7b\"limit\":null,\"max_retries\":3,\"timeout_ms\":5000\x7d"
        [limit, retries, timeout] := isObjectText_of_toList rfl
    have once (name : OptionName) :
        ["limit", "max_retries", "timeout_ms"].count name.key ≤ 1 := by
      cases name <;> decide
    have spelled : ∀ entry ∈ [limit, retries, timeout], ∀ name : OptionName,
        entry.key = name.key → ∃ v, name.Spells v entry.value.text := by
      simp only [List.mem_cons, List.not_mem_nil, or_false]
      rintro _ (rfl | rfl | rfl) name same
      · change "limit" = name.key at same
        cases name <;> exact absurd same (by decide)
      · change OptionName.maxRetries.key = name.key at same
        obtain rfl := OptionName.key_injective same
        exact ⟨_, three_spelled⟩
      · change OptionName.timeoutMs.key = name.key at same
        obtain rfl := OptionName.key_injective same
        exact ⟨_, large_spelled⟩
    obtain ⟨readable, told⟩ := partial_options_read.1 _ _ object
    obtain ⟨options, ok⟩ := readable.mpr ⟨once, spelled⟩
    obtain ⟨given, absent, same, -⟩ := told options ok
    have timeout_given := given timeout (by simp) .timeoutMs rfl _ |>.mp large_spelled
    have retries_given := given retries (by simp) .maxRetries rfl _ |>.mp three_spelled
    have scale_absent : "backoff_scale_ms" ∉ ["limit", "max_retries", "timeout_ms"] := by decide
    have headers_absent : "headers" ∉ ["limit", "max_retries", "timeout_ms"] := by decide
    exact ⟨options, ok, timeout_given.symm, same.trans retries_given.symm,
      absent .backoffScaleMs scale_absent, absent .headers headers_absent⟩
  · have list : IsListText "[5000,3]" [large_item, three_item] := isListText_of_toList rfl
    have object : IsObjectText "\x7b\"timeout_ms\":5000,\"max_retries\":3\x7d"
        [timeout, retries] := isObjectText_of_toList rfl
    exact ((partial_options_read.2 _ _ list).1 (show 2 ≤ 4 by decide)).2 _ _ object rfl
  · have list : IsListText "[5000,3,3,3,3]"
        [large_item, three_item, three_item, three_item, three_item] := isListText_of_toList rfl
    exact (partial_options_read.2 _ _ list).2 (show 4 < 5 by decide)

end ClientOptions

end CatalogClient

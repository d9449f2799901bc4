import CatalogClient.Request.Encoding
import CatalogClient.Url.Basic
import Mathlib.Data.List.Flatten

/-!
# Text put behind a URL

A URL with a text behind it is read as one text, so the end of the URL and the signs of the text
decide together what becomes of both. `query_of_appendQuery` says what the query is then, whatever
the two texts are, and `parse_appendQuery` says when all else is as it was.
-/

namespace CatalogClient

/-- A part of a text is written shorter than the text. -/
theorem eq_of_percentEncode_eq {keep : Char → Bool} {part text : List Char} (h : part.Sublist text)
    (same : percentEncode keep part = percentEncode keep text) : part = text := by
  induction h with
  | slnil => rfl
  | @cons part text c h ih =>
    exfalso
    have shorter : (percentEncode keep part).length ≤ (percentEncode keep text).length :=
      (List.Sublist.flatMap h _).length_le
    have longer := length_percentEncode_lt_cons keep c text
    rw [← same] at longer
    omega
  | cons_cons c h ih =>
    rw [percentEncode_cons, percentEncode_cons, List.append_cancel_left_eq] at same
    rw [ih same]

namespace Url

/-! ## What trimming leaves -/

/-- Controls and blanks, with which no URL starts or ends. -/
def isEdge (c : Char) : Bool := c.toNat ≤ 0x20

/-- Tabs and line ends, of which a URL has none. -/
def isBreak (c : Char) : Bool := c = '\t' || c = '\n' || c = '\r'

/-- What is left of a text at the end of a URL. -/
def atEnd (text : List Char) : List Char :=
  (text.reverse.dropWhile isEdge).reverse.filter (!isBreak ·)

/-- What stands behind a text and counts only if more comes after it. -/
def blanksBehind (text : List Char) : List Char :=
  (text.reverse.takeWhile isEdge).reverse.filter (!isBreak ·)

theorem trim_eq (text : List Char) : trim text = atEnd (text.dropWhile isEdge) := rfl

theorem isBreak_of_not_isEdge {c : Char} (h : isEdge c = false) : isBreak c = false := by
  rw [← Bool.not_eq_true, isBreak]
  simp only [Bool.or_eq_true, decide_eq_true_eq]
  rintro ((rfl | rfl) | rfl) <;> cases h

theorem atEnd_append_blanksBehind (text : List Char) :
    atEnd text ++ blanksBehind text = text.filter (!isBreak ·) := by
  rw [atEnd, blanksBehind, ← List.filter_append, ← List.reverse_append,
    List.takeWhile_append_dropWhile, List.reverse_reverse]

theorem atEnd_sublist (text : List Char) : (atEnd text).Sublist text := by
  have whole : (atEnd text ++ blanksBehind text).Sublist text := by
    rw [atEnd_append_blanksBehind]
    exact List.filter_sublist
  exact (List.sublist_append_left _ _).trans whole

theorem isEdge_of_mem_blanksBehind {text : List Char} {c : Char} (h : c ∈ blanksBehind text) :
    isEdge c = true :=
  List.all_eq_true.mp List.all_takeWhile c (List.mem_reverse.mp (List.mem_filter.mp h).1)

theorem atEnd_append_cons {c : Char} (before after : List Char) (h : isEdge c = false) :
    atEnd (before ++ c :: after) = before.filter (!isBreak ·) ++ c :: atEnd after := by
  have turned : (before ++ c :: after).reverse = after.reverse ++ c :: before.reverse := by simp
  rw [atEnd, turned, dropWhile_append_cons_of_neg _ _ h]
  simp [atEnd, isBreak_of_not_isEdge h]

/-- A shown sign with text after it brings back the blanks before the sign. -/
theorem trim_append_cons {text : List Char} {c : Char} (after : List Char)
    (some_text : trim text ≠ []) (h : isEdge c = false) :
    trim (text ++ c :: after) = trim text ++ blanksBehind text ++ c :: atEnd after := by
  have some_shown : text.dropWhile isEdge ≠ [] := by
    intro none
    rw [trim_eq, none] at some_text
    exact some_text rfl
  obtain ⟨d, rest, opened⟩ := List.exists_cons_of_ne_nil some_shown
  have shown : isEdge d = false := by
    simpa [opened] using List.head_dropWhile_not isEdge some_shown
  have parted : text = text.takeWhile isEdge ++ d :: rest := by
    rw [← opened, List.takeWhile_append_dropWhile]
  have behind : blanksBehind text = blanksBehind (d :: rest) := by
    rw [parted]
    simp [blanksBehind, takeWhile_append_cons_of_neg _ _ shown]
  have first : (text ++ c :: after).dropWhile isEdge = d :: rest ++ c :: after := by
    rw [List.dropWhile_append, opened]
    rfl
  rw [trim_eq, trim_eq, first, opened, behind, atEnd_append_blanksBehind,
    atEnd_append_cons _ _ h]

theorem mem_trim {c : Char} {text : List Char} (h : isEdge c = false) :
    c ∈ trim text ↔ c ∈ text := by
  simp [trim_eq, atEnd, List.mem_filter, isBreak_of_not_isEdge h, mem_dropWhile_of_neg h]

/-! ## Schemes -/

/-- What schemes hold after their first letter. -/
def isInScheme (c : Char) : Bool := c.isAlphanum || c = '+' || c = '-' || c = '.'

/-- The same reading with a name for the signs of a scheme. -/
theorem scheme?_eq (text : List Char) : scheme? text =
    match text with
    | [] => none
    | c :: _ =>
      if c.isAlpha then
        match text.dropWhile isInScheme with
        | ':' :: rest => some ((text.takeWhile isInScheme).map Char.toLower, rest)
        | _ => none
      else none := rfl

theorem scheme?_eq_some_iff {text scheme rest : List Char} :
    scheme? text = some (scheme, rest) ↔
      ∃ c name, text = c :: name ++ ':' :: rest ∧ c.isAlpha = true ∧
        (∀ d ∈ name, isInScheme d = true) ∧ scheme = (c :: name).map Char.toLower := by
  have first : ∀ {c : Char}, c.isAlpha = true → isInScheme c = true := fun letter => by
    simp [isInScheme, Char.isAlphanum, letter]
  rw [scheme?_eq]
  constructor
  · intro h
    split at h
    next => cases h
    next c tail =>
      split at h
      next letter =>
        split at h
        next rest' dropped =>
          obtain ⟨rfl, rfl⟩ := Prod.mk.inj (Option.some.inj h)
          refine ⟨c, tail.takeWhile isInScheme, ?_, letter,
            List.all_eq_true.mp List.all_takeWhile, ?_⟩
          · rw [List.dropWhile_cons_of_pos (first letter)] at dropped
            rw [List.cons_append, ← dropped, List.takeWhile_append_dropWhile]
          · rw [List.takeWhile_cons_of_pos (first letter)]
        next => cases h
      next => cases h
  · rintro ⟨c, name, rfl, letter, inside, rfl⟩
    have all : ∀ d ∈ c :: name, isInScheme d = true :=
      List.forall_mem_cons.mpr ⟨first letter, inside⟩
    have colon : ¬ isInScheme ':' = true := by decide
    have dropped : (c :: name ++ ':' :: rest).dropWhile isInScheme = ':' :: rest := by
      rw [List.dropWhile_append_of_pos all, List.dropWhile_cons_of_neg colon]
    have taken : (c :: name ++ ':' :: rest).takeWhile isInScheme = c :: name := by
      rw [List.takeWhile_append_of_pos all, List.takeWhile_cons_of_neg colon, List.append_nil]
    simp only [List.cons_append, letter, if_true] at dropped taken ⊢
    rw [dropped, taken]
    rfl

theorem scheme?_append {text scheme rest : List Char} (more : List Char)
    (h : scheme? text = some (scheme, rest)) :
    scheme? (text ++ more) = some (scheme, rest ++ more) := by
  obtain ⟨c, name, rfl, letter, inside, rfl⟩ := scheme?_eq_some_iff.mp h
  exact scheme?_eq_some_iff.mpr ⟨c, name, by simp, letter, inside, rfl⟩

/-- The marks of a query and a fragment stand behind the scheme, and none is trimmed off. -/
theorem mem_rest_iff {text scheme rest : List Char} {mark : Char}
    (found : scheme? (trim text) = some (scheme, rest)) (isMark : mark = '#' ∨ mark = '?') :
    mark ∈ rest ↔ mark ∈ text := by
  have kept : mark ∈ trim text ↔ mark ∈ text := by
    rcases isMark with rfl | rfl <;> exact mem_trim rfl
  obtain ⟨c, name, whole, letter, inside, -⟩ := scheme?_eq_some_iff.mp found
  have not_first : mark ≠ c := by
    rintro rfl
    rcases isMark with rfl | rfl <;> exact absurd letter (by decide)
  have not_inside : mark ∉ name := by
    intro mem
    have inside := inside mark mem
    rcases isMark with rfl | rfl <;> exact absurd inside (by decide)
  have not_colon : mark ≠ ':' := by
    rcases isMark with rfl | rfl <;> decide
  rw [← kept, whole]
  simp [not_first, not_inside, not_colon]

/-! ## Parts behind the scheme -/

/-- What stands between the scheme and the query. -/
def frontText (rest : List Char) : List Char := (cut '?' (cut '#' rest).1).1

/-- The query as it is written. -/
def queryText (rest : List Char) : Option (List Char) := (cut '?' (cut '#' rest).1).2

/-- The fragment as it is written. -/
def fragmentText (rest : List Char) : Option (List Char) := (cut '#' rest).2

/-- The URL made of what stands behind the scheme, the hierarchy having been read. -/
def assemble (scheme rest : List Char) (hierarchy : Hierarchy) : Url where
  scheme := scheme
  credentials := hierarchy.credentials
  host := hierarchy.host
  path := hierarchy.path
  query := (queryText rest).map (percentEncode (keptInQuery (isSpecial scheme)))
  fragment := (fragmentText rest).map (percentEncode keptInFragment)

theorem parse_of_scheme? {text : String} {scheme rest : List Char}
    (h : scheme? (trim text.toList) = some (scheme, rest)) :
    parse text = (parseHierarchy scheme (frontText rest)
      ((queryText rest).isNone && (fragmentText rest).isNone)).map (assemble scheme rest) := by
  unfold parse
  rw [h]
  dsimp only [frontText, queryText, fragmentText]
  generalize parseHierarchy _ _ _ = hierarchy
  cases hierarchy <;> rfl

theorem parse_eq_ok_iff {text : String} {url : Url} :
    parse text = .ok url ↔
      ∃ scheme rest hierarchy, scheme? (trim text.toList) = some (scheme, rest) ∧
        parseHierarchy scheme (frontText rest)
          ((queryText rest).isNone && (fragmentText rest).isNone) = .ok hierarchy ∧
        url = assemble scheme rest hierarchy := by
  constructor
  · intro parsed
    cases found : scheme? (trim text.toList) with
    | none =>
      rw [parse, found] at parsed
      cases parsed
    | some parts =>
      obtain ⟨scheme, rest⟩ := parts
      rw [parse_of_scheme? found] at parsed
      cases read : parseHierarchy scheme (frontText rest)
          ((queryText rest).isNone && (fragmentText rest).isNone) with
      | error fault =>
        rw [read] at parsed
        cases parsed
      | ok hierarchy =>
        rw [read] at parsed
        exact ⟨scheme, rest, hierarchy, rfl, read, (Except.ok.inj parsed).symm⟩
  · rintro ⟨scheme, rest, hierarchy, found, read, rfl⟩
    rw [parse_of_scheme? found, read]
    rfl

/-! ## The end of a URL -/

/-- An `@` with nothing behind it is refused at the end of a URL as well, for want of a host. -/
theorem parseAuthority_of_isLast {scheme text : List Char} (special : isSpecial scheme = true)
    {parts : Option Credentials × (Host × Option Nat) × List Char}
    (h : parseAuthority scheme text true = .ok parts) :
    parseAuthority scheme text false = .ok parts := by
  unfold parseAuthority at h ⊢
  generalize cutLast '@' text = sides at h ⊢
  obtain ⟨credentials, rest⟩ := sides
  cases rest with
  | nil =>
    -- an empty host is refused in any case
    have no_host : Host.parse [] = .error .emptyHost := rfl
    simp only [splitPort, special, if_true, no_host] at h
    split at h <;> split at h <;> cases h
  | cons c rest => simpa using h

theorem parseHosted_of_isLast {scheme text : List Char} (special : isSpecial scheme = true)
    {hierarchy : Hierarchy} (h : parseHosted scheme text true = .ok hierarchy) :
    parseHosted scheme text false = .ok hierarchy := by
  unfold parseHosted at h ⊢
  dsimp only at h ⊢
  rw [Bool.true_and] at h
  rw [Bool.false_and]
  cases last : (text.dropWhile (!isSlash (isSpecial scheme) ·)).isEmpty with
  | false => rw [last] at h; exact h
  | true =>
    rw [last] at h
    cases read : parseAuthority scheme (text.takeWhile (!isSlash (isSpecial scheme) ·)) true with
    | error fault => rw [read] at h; cases h
    | ok parts =>
      rw [read] at h
      rw [parseAuthority_of_isLast special read]
      exact h

/-- What a URL of HTTP says up to its end it says in front of a query as well. -/
theorem parseHierarchy_of_isLast {scheme text : List Char}
    (http : httpSchemes.contains scheme = true) {hierarchy : Hierarchy}
    (h : parseHierarchy scheme text true = .ok hierarchy) :
    parseHierarchy scheme text false = .ok hierarchy := by
  have known : scheme = "http".toList ∨ scheme = "https".toList := by
    simpa [httpSchemes] using http
  have special : isSpecial scheme = true := by rcases known with rfl | rfl <;> decide
  have no_file : scheme ≠ "file".toList := by rcases known with rfl | rfl <;> decide
  simp only [parseHierarchy, if_neg no_file, if_pos special] at h ⊢
  exact parseHosted_of_isLast special h

/-! ## Parts of a text put behind a URL -/

/-- A query with more behind it. -/
def joined : Option (List Char) → List Char → List Char
  | none, more => more
  | some own, more => own ++ '&' :: more

/-- The sign that parts a query from what stands before it. -/
def joint (text : List Char) : Char := if '?' ∈ text then '&' else '?'

/-- What a query takes of a text that is put behind the URL. -/
def taken (text : List Char) : List Char := (cut '#' (atEnd text)).1

/-- There is nothing in the text that reading a URL drops or takes for the mark of a fragment. -/
def IsHarmless (text : List Char) : Prop :=
  '#' ∉ text ∧ (∀ c ∈ text, isBreak c = false) ∧ blanksBehind text = []

/-- A query takes harmless texts as they are, and no others. -/
theorem taken_eq_self_iff {text : List Char} : taken text = text ↔ IsHarmless text := by
  have parts := atEnd_append_blanksBehind text
  constructor
  · intro same
    have end_eq : atEnd text = text := by
      refine (atEnd_sublist text).eq_of_length_le ?_
      calc text.length = (taken text).length := by rw [same]
        _ ≤ (atEnd text).length := (cut_fst_sublist '#' (atEnd text)).length_le
    have kept : (text ++ blanksBehind text).length ≤ text.length := by
      rw [end_eq] at parts
      rw [parts]
      exact List.length_filter_le _ _
    have nothing : blanksBehind text = [] := by
      rw [List.length_append] at kept
      exact List.eq_nil_of_length_eq_zero (by omega)
    rw [end_eq, nothing, List.append_nil] at parts
    refine ⟨?_, fun c mem => ?_, nothing⟩
    · rw [taken, end_eq] at same
      exact cut_fst_eq_self_iff.mp same
    · rw [parts] at mem
      simpa using (List.mem_filter.mp mem).2
  · rintro ⟨no_fragment, no_breaks, no_blanks⟩
    have all : text.filter (!isBreak ·) = text :=
      List.filter_eq_self.mpr fun c mem => by rw [no_breaks c mem]; rfl
    rw [no_blanks, List.append_nil, all] at parts
    rw [taken, parts, cut_of_not_mem no_fragment]

example : taken "a\tb #c ".toList = "ab ".toList := by decide

theorem isHarmless_of_shown {text : List Char} (shown : ∀ c ∈ text, isEdge c = false)
    (no_fragment : '#' ∉ text) : IsHarmless text := by
  refine ⟨no_fragment, fun c mem => isBreak_of_not_isEdge (shown c mem), ?_⟩
  rw [List.eq_nil_iff_forall_not_mem]
  intro c mem
  have whole : c ∈ text.filter (!isBreak ·) := by
    rw [← atEnd_append_blanksBehind]
    exact List.mem_append_right _ mem
  have edge := isEdge_of_mem_blanksBehind mem
  rw [shown c (List.mem_filter.mp whole).1] at edge
  cases edge

theorem taken_sublist (text : List Char) : (taken text).Sublist text :=
  (cut_fst_sublist '#' (atEnd text)).trans (atEnd_sublist text)

/-- A fragment takes everything. -/
theorem queryText_append_of_mem {rest : List Char} (more : List Char) (h : '#' ∈ rest) :
    queryText (rest ++ more) = queryText rest := by
  obtain ⟨before, after, rfl, first⟩ := List.eq_append_cons_of_mem h
  rw [queryText, queryText, List.append_assoc, List.cons_append, cut_append _ first,
    cut_append _ first]

theorem isEdge_joint (text : List Char) : isEdge (joint text) = false := by
  unfold joint
  split <;> rfl

theorem joint_ne_fragment_mark (text : List Char) : '#' ≠ joint text := by
  unfold joint
  split <;> decide

section Joint
variable {rest : List Char} (blanks after : List Char)

/-- What is put behind the joint continues a query or starts one. -/
theorem cut_joint (no_fragment : '#' ∉ rest) (edges : ∀ c ∈ blanks, isEdge c = true) :
    cut '?' (cut '#' (rest ++ blanks ++ joint rest :: after)).1 =
      (if '?' ∈ rest then frontText rest else rest ++ blanks,
        some (joined ((queryText rest).map (· ++ blanks)) (cut '#' after).1)) := by
  have absent : ∀ {c : Char}, isEdge c = false → c ∉ blanks := fun shown mem => by
    rw [edges _ mem] at shown
    cases shown
  have before : '#' ∉ rest ++ blanks ++ [joint rest] := by
    simp [no_fragment, absent (c := '#') rfl, joint_ne_fragment_mark rest]
  have whole : rest ++ blanks ++ joint rest :: after =
      (rest ++ blanks ++ [joint rest]) ++ after := by simp
  rw [whole, cut_append_of_not_mem _ before, frontText, queryText, cut_of_not_mem no_fragment]
  by_cases marked : '?' ∈ rest
  · obtain ⟨front, own, rfl, first⟩ := List.eq_append_cons_of_mem marked
    simp only [joint, if_pos marked, List.append_assoc, List.cons_append, List.nil_append,
      cut_append _ first, Option.map_some, joined]
  · have front : '?' ∉ rest ++ blanks := by simp [marked, absent (c := '?') rfl]
    simp only [joint, if_neg marked, List.append_assoc (rest ++ blanks), List.cons_append,
      List.nil_append, cut_append _ front, cut_of_not_mem marked, Option.map_none, joined]

theorem queryText_joint (no_fragment : '#' ∉ rest) (edges : ∀ c ∈ blanks, isEdge c = true) :
    queryText (rest ++ blanks ++ joint rest :: after) =
      some (joined ((queryText rest).map (· ++ blanks)) (cut '#' after).1) := by
  rw [queryText, cut_joint blanks after no_fragment edges]

theorem frontText_joint (no_fragment : '#' ∉ rest) :
    frontText (rest ++ joint rest :: after) = frontText rest := by
  have parts := cut_joint [] after no_fragment (fun _ mem => absurd mem List.not_mem_nil)
  simp only [List.append_nil] at parts
  rw [frontText, parts]
  split
  · rfl
  · next unmarked => rw [frontText, cut_of_not_mem no_fragment, cut_of_not_mem unmarked]

theorem fragmentText_joint (no_fragment : '#' ∉ rest) (none_after : '#' ∉ after) :
    fragmentText (rest ++ joint rest :: after) = none := by
  have absent : '#' ∉ rest ++ joint rest :: after := by
    simp [no_fragment, none_after, joint_ne_fragment_mark rest]
  rw [fragmentText, cut_of_not_mem absent]

end Joint

/-! ## Reading a URL with a text behind it -/

theorem toList_appendQuery {url more : String} (full : more ≠ "") :
    (Request.appendQuery url more).toList = url.toList ++ joint url.toList :: more.toList := by
  have some_more : more.isEmpty = false := by
    rw [← Bool.not_eq_true, String.isEmpty_iff]
    exact full
  unfold Request.appendQuery joint
  by_cases marked : '?' ∈ url.toList <;> simp [some_more, marked, String.toList_append]

theorem scheme?_appendQuery {url more : String} {scheme rest : List Char} (full : more ≠ "")
    (found : scheme? (trim url.toList) = some (scheme, rest)) :
    scheme? (trim (Request.appendQuery url more).toList) =
      some (scheme, rest ++ blanksBehind url.toList ++ joint rest :: atEnd more.toList) := by
  have some_text : trim url.toList ≠ [] := by
    intro none
    rw [none] at found
    cases found
  have same_joint : joint url.toList = joint rest := by
    simp only [joint, mem_rest_iff found (.inr rfl)]
  rw [toList_appendQuery full, trim_append_cons _ some_text (isEdge_joint _), List.append_assoc,
    scheme?_append _ found, same_joint, List.append_assoc]

/-- A text as the query of a URL writes it. -/
abbrev writtenQuery (url : Url) (text : List Char) : List Char :=
  percentEncode (keptInQuery (isSpecial url.scheme)) text

theorem keptInQuery_and (special : Bool) : keptInQuery special '&' = true := by
  cases special <;> rfl

theorem percentEncode_joined (special : Bool) (own : Option (List Char)) (more : List Char) :
    percentEncode (keptInQuery special) (joined own more) =
      joined (own.map (percentEncode (keptInQuery special)))
        (percentEncode (keptInQuery special) more) := by
  cases own with
  | none => rfl
  | some own =>
    simp only [joined, Option.map_some, percentEncode_append, percentEncode_cons,
      keptInQuery_and special, if_true, List.singleton_append]

/-- **What becomes of text put behind a URL.** A fragment swallows it. Else the query takes it up to
its first `#`, without its tabs and line ends and without the blanks at its end. -/
theorem query_of_appendQuery {url more : String} {own given : Url} (full : more ≠ "")
    (read : parse url = .ok own) (spliced : parse (Request.appendQuery url more) = .ok given) :
    given.query =
      if '#' ∈ url.toList then own.query
      else some (joined (own.query.map (· ++ own.writtenQuery (blanksBehind url.toList)))
        (own.writtenQuery (taken more.toList))) := by
  obtain ⟨scheme, rest, hierarchy, found, -, rfl⟩ := parse_eq_ok_iff.mp read
  obtain ⟨scheme', rest', hierarchy', found', -, rfl⟩ := parse_eq_ok_iff.mp spliced
  rw [scheme?_appendQuery full found] at found'
  obtain ⟨rfl, rfl⟩ := Prod.mk.inj (Option.some.inj found')
  have fragment : '#' ∈ rest ↔ '#' ∈ url.toList := mem_rest_iff found (.inl rfl)
  by_cases marked : '#' ∈ url.toList
  · rw [if_pos marked]
    simp only [assemble]
    rw [List.append_assoc, queryText_append_of_mem _ (fragment.mpr marked)]
  · rw [if_neg marked]
    simp only [assemble]
    rw [queryText_joint _ _ (fun mem => marked (fragment.mp mem))
      (fun _ => isEdge_of_mem_blanksBehind), Option.map_some, percentEncode_joined, taken,
      Option.map_map, Option.map_map]
    simp [Function.comp_def]

/-- Harmless text behind a URL without a fragment changes nothing but the query. -/
theorem parse_appendQuery {url more : String} {own : Url} (full : more ≠ "")
    (read : parse url = .ok own) (http : own.isHttp = true) (no_fragment : '#' ∉ url.toList)
    (no_blanks : blanksBehind url.toList = []) (harmless : IsHarmless more.toList) :
    parse (Request.appendQuery url more) =
      .ok { own with query := some (joined own.query (own.writtenQuery more.toList)) } := by
  obtain ⟨scheme, rest, hierarchy, found, hierarchical, rfl⟩ := parse_eq_ok_iff.mp read
  have absent : '#' ∉ rest := fun mem => no_fragment ((mem_rest_iff found (.inl rfl)).mp mem)
  have none_inside : '#' ∉ atEnd more.toList := fun mem =>
    harmless.1 ((atEnd_sublist _).subset mem)
  have found' := scheme?_appendQuery full found
  rw [no_blanks, List.append_nil] at found'
  have query : queryText (rest ++ joint rest :: atEnd more.toList) =
      some (joined (queryText rest) more.toList) := by
    have continued := queryText_joint [] (atEnd more.toList) absent
      (fun _ mem => absurd mem List.not_mem_nil)
    simp only [List.append_nil, Option.map_id'] at continued
    rw [continued]
    exact congrArg (some ∘ joined _) (taken_eq_self_iff.mpr harmless)
  have room : parseHierarchy scheme (frontText rest) false = .ok hierarchy := by
    cases last : (queryText rest).isNone && (fragmentText rest).isNone with
    | false => rw [← last]; exact hierarchical
    | true =>
      rw [last] at hierarchical
      exact parseHierarchy_of_isLast http hierarchical
  refine parse_eq_ok_iff.mpr ⟨scheme, _, hierarchy, found', ?_, ?_⟩
  · rw [frontText_joint _ absent, query]
    exact room
  · simp only [assemble, query, Option.map_some, percentEncode_joined,
      fragmentText_joint _ absent none_inside, Option.map_none]
    rw [fragmentText, cut_of_not_mem absent]
    rfl

end Url

end CatalogClient

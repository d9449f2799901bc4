import CatalogClient.Proofs.Host
import Mathlib.Data.List.Basic
import Mathlib.Data.List.TakeWhile

/-!
# The URL that a text was put behind

Whatever can be read as a URL of HTTP with a text put behind it, could be read without the text, and
names the same host (`parse_of_parse_appendQuery`). So a URL that cannot be requested cannot be
requested with a query either. The blanks at its end are the one doubt: they are dropped where the URL
ends, and belong to it where a query follows.
-/

namespace CatalogClient

theorem cutLast_concat {mark c : Char} (other : mark ≠ c) (text : List Char) :
    cutLast mark (text ++ [c]) = ((cutLast mark text).1, (cutLast mark text).2 ++ [c]) := by
  have absent : mark ∉ [c] := by simpa using other
  rw [cutLast, cutLast, List.reverse_append, List.reverse_singleton,
    cut_append_of_not_mem _ absent]
  simp

namespace Url

variable {c : Char}

/-! ## Blanks behind an authority -/

theorem splitPort_concat (sign : c ∉ [':', '[', ']']) (inBrackets : Bool) (text : List Char) :
    splitPort inBrackets (text ++ [c]) =
      match splitPort inBrackets text with
      | (host, none) => (host ++ [c], none)
      | (host, some port) => (host, some (port ++ [c])) := by
  simp only [List.mem_cons, List.not_mem_nil, or_false, not_or] at sign
  induction text generalizing inBrackets with
  | nil => simp [splitPort, sign]
  | cons d text ih =>
    rw [List.cons_append, splitPort, splitPort]
    split
    · rfl
    · simp only [ih]
      split <;> simp_all

theorem mem_of_mem_port {inBrackets : Bool} {text port : List Char} {d : Char}
    (split : (splitPort inBrackets text).2 = some port) (mem : d ∈ port) : d ∈ text := by
  induction text generalizing inBrackets with
  | nil => cases split
  | cons e text ih =>
    rw [splitPort] at split
    split at split
    · obtain rfl := Option.some.inj split
      exact List.mem_cons_of_mem _ mem
    · exact List.mem_cons_of_mem _ (ih split)

/-- A port does not end with a blank. -/
theorem parsePort_concat_of_isEdge (scheme : List Char) {text : List Char} (edge : isEdge c = true)
    (no_slash : '\\' ∉ text) : ∃ fault, parsePort scheme (text ++ [c]) = .error fault := by
  obtain ⟨-, -, no_digit, -, -, signs⟩ := signs_of_isEdge edge
  have left : (text ++ [c]).dropWhile Char.isDigit = text.dropWhile Char.isDigit ++ [c] :=
    dropWhile_append_cons_of_neg text [] no_digit
  have bad : ((text ++ [c]).dropWhile Char.isDigit).head?.any (· != '\\') = true := by
    rw [left]
    cases dropped : text.dropWhile Char.isDigit with
    | nil =>
      have other : c ≠ '\\' := by
        rintro rfl
        simp at signs
      simp [other]
    | cons d more =>
      have mem : d ∈ text := (List.dropWhile_sublist _).subset (dropped ▸ List.mem_cons_self)
      have other : d ≠ '\\' := by
        rintro rfl
        exact no_slash mem
      simp [other]
  refine ⟨.badPort, ?_⟩
  unfold parsePort
  dsimp only
  rw [bad, Bool.true_or, if_pos rfl]

/-- Where an authority is read, its host is, and its port if it has one. -/
theorem read_of_parseAuthority {scheme text : List Char} {isLast : Bool}
    {parts : Option Credentials × (Host × Option Nat) × List Char}
    (special : isSpecial scheme = true) (read : parseAuthority scheme text isLast = .ok parts) :
    let sides := splitPort false (cutLast '@' text).2
    (∃ host, Host.parse sides.1 = .ok host) ∧
      ∀ port, sides.2 = some port → ∃ more, parsePort scheme port = .ok more := by
  unfold parseAuthority at read
  generalize cutLast '@' text = cuts at read ⊢
  obtain ⟨credentials, rest⟩ := cuts
  dsimp only at read ⊢
  generalize splitPort false rest = sides at read ⊢
  obtain ⟨hostText, portText⟩ := sides
  simp only [special, if_true] at read
  split at read
  · cases read
  · split at read
    · cases read
    · cases host : Host.parse hostText with
      | error fault => rw [host] at read; cases read
      | ok host' =>
        refine ⟨⟨host', rfl⟩, fun port has => ?_⟩
        obtain rfl : portText = some port := has
        cases ended : parsePort scheme port with
        | ok more => exact ⟨more, rfl⟩
        | error fault =>
          rw [host] at read
          dsimp only [bind, Except.bind] at read
          rw [ended] at read
          cases read

/-- No authority ends with a blank. -/
theorem parseAuthority_concat_of_isEdge {scheme text : List Char} (edge : isEdge c = true)
    (special : isSpecial scheme = true) (no_slash : '\\' ∉ text) (isLast : Bool) :
    ∃ fault, parseAuthority scheme (text ++ [c]) isLast = .error fault := by
  obtain ⟨-, -, -, -, -, signs⟩ := signs_of_isEdge edge
  have no_mark : '@' ≠ c := by
    rintro rfl
    simp at signs
  have no_part : c ∉ [':', '[', ']'] := by
    intro mem
    apply signs
    simp only [List.mem_cons, List.not_mem_nil, or_false] at mem ⊢
    rcases mem with rfl | rfl | rfl <;> decide
  have inside : ∀ d ∈ (cutLast '@' text).2, d ∈ text := by
    intro d mem
    have mem' := (cut_fst_sublist '@' text.reverse).subset (List.mem_reverse.mp mem)
    exact List.mem_reverse.mp mem'
  cases outcome : parseAuthority scheme (text ++ [c]) isLast with
  | error fault => exact ⟨fault, rfl⟩
  | ok parts =>
    exfalso
    obtain ⟨⟨host, read⟩, ended⟩ := read_of_parseAuthority special outcome
    rw [cutLast_concat no_mark, splitPort_concat no_part] at read ended
    rcases parted : splitPort false (cutLast '@' text).2 with ⟨hostText, portText⟩
    rw [parted] at read ended
    cases portText with
    | none =>
      -- the blank stands behind the host
      obtain ⟨fault, refused⟩ := Host.parse_concat_of_isEdge edge hostText
      rw [refused] at read
      cases read
    | some port =>
      have no_slash' : '\\' ∉ port := by
        intro mem
        exact no_slash (inside _ (mem_of_mem_port (by rw [parted]) mem))
      obtain ⟨more, left⟩ := ended (port ++ [c]) rfl
      obtain ⟨fault, refused⟩ := parsePort_concat_of_isEdge scheme edge no_slash'
      rw [refused] at left
      cases left

/-! ## The end of a URL -/

/-- Where something may follow, nothing is read that is not read at the end of a URL. -/
theorem parseAuthority_true_of_false {scheme text : List Char}
    {parts : Option Credentials × (Host × Option Nat) × List Char}
    (read : parseAuthority scheme text false = .ok parts) :
    parseAuthority scheme text true = .ok parts := by
  unfold parseAuthority at read ⊢
  generalize cutLast '@' text = sides at read ⊢
  obtain ⟨credentials, rest⟩ := sides
  cases empty : decide (credentials = some []) && rest.isEmpty with
  | false => simpa [empty] using read
  | true =>
    simp only [empty] at read
    cases read

/-- What stands behind the slashes is read by its authority. -/
theorem parseHosted_eq_ok_iff {scheme text : List Char} {isLast : Bool} {hierarchy : Hierarchy} :
    parseHosted scheme text isLast = .ok hierarchy ↔
      ∃ credentials host rest,
        parseAuthority scheme (text.takeWhile (!isSlash (isSpecial scheme) ·))
          (isLast && (text.dropWhile (!isSlash (isSpecial scheme) ·)).isEmpty) =
            .ok (credentials, host, rest) ∧
        hierarchy = ⟨credentials, some host, parsePath (isSpecial scheme)
          (rest ++ text.dropWhile (!isSlash (isSpecial scheme) ·))⟩ := by
  unfold parseHosted
  dsimp only
  cases parseAuthority scheme _ _ with
  | error fault => simp [bind, Except.bind]
  | ok parts =>
    obtain ⟨credentials, host, rest⟩ := parts
    simp only [bind, Except.bind, pure, Except.pure, Except.ok.injEq, Prod.mk.injEq]
    constructor
    · rintro rfl
      exact ⟨_, _, _, ⟨rfl, rfl, rfl⟩, rfl⟩
    · rintro ⟨_, _, _, ⟨rfl, rfl, rfl⟩, rfl⟩
      rfl

/-- What stands behind the slashes of a URL with blanks behind it is read without them, and names the
same host: the blanks go to the path, or there are none. -/
theorem parseHosted_of_blanks {scheme text blanks : List Char} {hierarchy : Hierarchy}
    (special : isSpecial scheme = true) (edges : ∀ c ∈ blanks, isEdge c = true)
    (read : parseHosted scheme (text ++ blanks) false = .ok hierarchy) :
    ∃ hierarchy', parseHosted scheme text true = .ok hierarchy' ∧
      hierarchy'.host = hierarchy.host := by
  obtain ⟨credentials, host, rest, authority, rfl⟩ := parseHosted_eq_ok_iff.mp read
  rw [Bool.false_and] at authority
  have slashless : ∀ c ∈ blanks, (!isSlash (isSpecial scheme) c) = true := by
    intro c mem
    obtain ⟨-, -, -, -, -, signs⟩ := signs_of_isEdge (edges c mem)
    simp only [List.mem_cons, not_or] at signs
    simp [isSlash, signs]
  rcases opened : text.dropWhile (!isSlash (isSpecial scheme) ·) with _ | ⟨slash, path⟩
  · -- the blanks would stand behind the authority
    have closed := List.dropWhile_eq_nil_iff.mp opened
    have all : ∀ c ∈ text ++ blanks, (!isSlash (isSpecial scheme) c) = true := by
      intro c mem
      rcases List.mem_append.mp mem with before | behind
      · exact closed c before
      · exact slashless c behind
    rw [List.takeWhile_eq_self_iff.mpr all] at authority
    rcases List.eq_nil_or_concat' blanks with rfl | ⟨more, c, rfl⟩
    · rw [List.append_nil] at authority
      refine ⟨⟨credentials, some host, _⟩, parseHosted_eq_ok_iff.mpr
        ⟨credentials, host, rest, ?_, rfl⟩, rfl⟩
      rw [List.takeWhile_eq_self_iff.mpr closed, opened]
      exact parseAuthority_true_of_false authority
    · have no_slash : '\\' ∉ text ++ more := by
        intro mem
        have here := all '\\' (by rw [← List.append_assoc]; exact List.mem_append_left _ mem)
        simp [isSlash, special] at here
      obtain ⟨fault, refused⟩ := parseAuthority_concat_of_isEdge (edges c (by simp)) special
        no_slash false
      rw [← List.append_assoc, refused] at authority
      cases authority
  · -- the blanks go to the path
    have same : (text ++ blanks).takeWhile (!isSlash (isSpecial scheme) ·) =
        text.takeWhile (!isSlash (isSpecial scheme) ·) := by
      have parted := List.takeWhile_append_dropWhile (p := (!isSlash (isSpecial scheme) ·))
        (l := text)
      rw [opened] at parted
      have lengths := congrArg List.length parted
      rw [List.length_append, List.length_cons] at lengths
      rw [List.takeWhile_append, if_neg (by omega)]
    rw [same] at authority
    refine ⟨⟨credentials, some host, _⟩, parseHosted_eq_ok_iff.mpr
      ⟨credentials, host, rest, ?_, rfl⟩, rfl⟩
    rw [opened]
    exact authority

/-- The same where the scheme is one of HTTP. -/
theorem parseHierarchy_of_blanks {scheme text blanks : List Char} {hierarchy : Hierarchy}
    (http : httpSchemes.contains scheme = true) (edges : ∀ c ∈ blanks, isEdge c = true)
    (read : parseHierarchy scheme (text ++ blanks) false = .ok hierarchy) :
    ∃ hierarchy', parseHierarchy scheme text true = .ok hierarchy' ∧
      hierarchy'.host = hierarchy.host := by
  have known : scheme = "http".toList ∨ scheme = "https".toList := by
    simpa [httpSchemes] using http
  have special : isSpecial scheme = true := by rcases known with rfl | rfl <;> decide
  have no_file : scheme ≠ "file".toList := by rcases known with rfl | rfl <;> decide
  have slashless : blanks.dropWhile (isSlash true) = blanks := by
    cases blanks with
    | nil => rfl
    | cons c more =>
      obtain ⟨-, -, -, -, -, signs⟩ := signs_of_isEdge (edges c List.mem_cons_self)
      simp only [List.mem_cons, not_or] at signs
      simp [isSlash, signs]
  have behind : (text ++ blanks).dropWhile (isSlash true) =
      text.dropWhile (isSlash true) ++ blanks := by
    rw [List.dropWhile_append, slashless]
    split
    · next empty => rw [List.isEmpty_iff.mp empty, List.nil_append]
    · rfl
  simp only [parseHierarchy, if_neg no_file, if_pos special, behind] at read ⊢
  exact parseHosted_of_blanks special edges read

/-! ## A URL that a text was put behind -/

/-- The scheme is in front of all that is put behind a URL. -/
theorem scheme?_of_append {text more scheme rest : List Char} {c : Char}
    (no_sign : isInScheme c = false) (no_colon : c ≠ ':')
    (found : scheme? (text ++ c :: more) = some (scheme, rest)) :
    ∃ own, scheme? text = some (scheme, own) := by
  obtain ⟨d, name, whole, letter, inside, same⟩ := scheme?_eq_some_iff.mp found
  rcases List.append_eq_append_iff.mp whole with ⟨between, early, late⟩ | ⟨between, early, late⟩
  · -- the scheme would reach past the text, but there is a sign that no scheme holds
    cases between with
    | nil => exact absurd (List.cons.inj late).1 no_colon
    | cons e between =>
      obtain ⟨rfl, -⟩ := List.cons.inj late
      have mem : c ∈ d :: name := early ▸ List.mem_append_right _ List.mem_cons_self
      rcases List.mem_cons.mp mem with rfl | mem
      · simp [isInScheme, Char.isAlphanum, letter] at no_sign
      · rw [inside c mem] at no_sign
        cases no_sign
  · cases between with
    | nil => exact absurd (List.cons.inj late).1.symm no_colon
    | cons e own =>
      obtain ⟨rfl, -⟩ := List.cons.inj late
      exact ⟨own, scheme?_eq_some_iff.mpr ⟨d, name, early, letter, inside, same⟩⟩

theorem isInScheme_of_isEdge (edge : isEdge c = true) : isInScheme c = false ∧ c ≠ ':' := by
  obtain ⟨n, rfl⟩ := exists_ofNat_of_isEdge edge
  revert n
  decide

/-- What nothing is left of has no scheme with a text behind it either. -/
theorem trim_ne_nil_of_append {text more scheme rest : List Char} {c : Char}
    (shown : isEdge c = false) (no_letter : c.isAlpha = false)
    (found : scheme? (trim (text ++ c :: more)) = some (scheme, rest)) : trim text ≠ [] := by
  intro nothing
  have all_edges : text.dropWhile isEdge = [] := by
    cases left : text.dropWhile isEdge with
    | nil => rfl
    | cons d tail =>
      have head := List.head_dropWhile_not isEdge (l := text) (by simp [left])
      have shown' : isEdge d = false := by simpa [left] using head
      have kept := atEnd_append_cons [] tail shown'
      rw [List.nil_append] at kept
      rw [trim_eq, left, kept] at nothing
      cases nothing
  have first := atEnd_append_cons [] more shown
  rw [List.nil_append] at first
  rw [trim_eq, dropWhile_append_cons_of_neg _ _ shown, all_edges, List.nil_append, first] at found
  simp [scheme?, no_letter] at found

/-- A fragment takes all that is put behind it. -/
theorem cut_append_of_mem {mark : Char} {text : List Char} (more : List Char) (mem : mark ∈ text) :
    (cut mark (text ++ more)).1 = (cut mark text).1 ∧
      (cut mark (text ++ more)).2.isNone = false ∧ (cut mark text).2.isNone = false := by
  obtain ⟨before, after, rfl, first⟩ := List.eq_append_cons_of_mem mem
  rw [List.append_assoc, List.cons_append, cut_append _ first, cut_append _ first]
  exact ⟨rfl, rfl, rfl⟩

/-- **A URL that can be requested with a text behind it can be requested without.** -/
theorem parse_of_parse_appendQuery {url more : String} {given : Url}
    (read : parse (Request.appendQuery url more) = .ok given) (http : given.isHttp = true) :
    ∃ own, parse url = .ok own ∧ own.scheme = given.scheme ∧ own.host = given.host := by
  by_cases full : more = ""
  · subst full
    exact ⟨given, read, rfl, rfl⟩
  obtain ⟨scheme, rest, hierarchy, found, hierarchical, rfl⟩ := parse_eq_ok_iff.mp read
  have no_letter : (joint url.toList).isAlpha = false ∧ isInScheme (joint url.toList) = false ∧
      joint url.toList ≠ ':' := by
    unfold joint
    split <;> decide
  have some_text : trim url.toList ≠ [] := by
    rw [toList_appendQuery full] at found
    exact trim_ne_nil_of_append (isEdge_joint _) no_letter.1 found
  obtain ⟨own, found'⟩ : ∃ own, scheme? (trim url.toList) = some (scheme, own) := by
    rw [toList_appendQuery full, trim_append_cons _ some_text (isEdge_joint _),
      List.append_assoc] at found
    cases blanks : blanksBehind url.toList with
    | nil =>
      rw [blanks] at found
      exact scheme?_of_append no_letter.2.1 no_letter.2.2 found
    | cons c tail =>
      rw [blanks, List.cons_append] at found
      have edge := isEdge_of_mem_blanksBehind (blanks ▸ List.mem_cons_self : c ∈ _)
      have outside := isInScheme_of_isEdge edge
      exact scheme?_of_append outside.1 outside.2 found
  have whole := scheme?_appendQuery full found'
  rw [found] at whole
  obtain ⟨-, rfl⟩ := Prod.mk.inj (Option.some.inj whole)
  have edges : ∀ c ∈ blanksBehind url.toList, isEdge c = true :=
    fun _ mem => isEdge_of_mem_blanksBehind mem
  by_cases fragment : '#' ∈ own
  · -- all goes to the fragment
    obtain ⟨front, after, before⟩ := cut_append_of_mem
      (blanksBehind url.toList ++ joint own :: atEnd more.toList) fragment
    rw [List.append_assoc, frontText, queryText, fragmentText, front, after,
      Bool.and_false] at hierarchical
    refine ⟨_, parse_eq_ok_iff.mpr ⟨scheme, own, hierarchy, found', ?_, rfl⟩, rfl, rfl⟩
    rw [frontText, queryText, fragmentText, before, Bool.and_false]
    exact hierarchical
  · have parts := cut_joint (blanksBehind url.toList) (atEnd more.toList) fragment edges
    rw [frontText, queryText, parts, Option.isNone_some, Bool.false_and] at hierarchical
    by_cases query : '?' ∈ own
    · -- all goes to the query
      rw [if_pos query] at hierarchical
      obtain ⟨-, -, before⟩ := cut_append_of_mem [] query
      refine ⟨_, parse_eq_ok_iff.mpr ⟨scheme, own, hierarchy, found', ?_, rfl⟩, rfl, rfl⟩
      rw [queryText, cut_of_not_mem fragment, before, Bool.false_and]
      exact hierarchical
    · rw [if_neg query] at hierarchical
      obtain ⟨hierarchy', hierarchical', host⟩ := parseHierarchy_of_blanks http edges hierarchical
      refine ⟨_, parse_eq_ok_iff.mpr ⟨scheme, own, hierarchy', found', ?_, rfl⟩, rfl, host⟩
      rw [frontText, queryText, fragmentText, cut_of_not_mem fragment, cut_of_not_mem query]
      exact hierarchical'

end Url

end CatalogClient

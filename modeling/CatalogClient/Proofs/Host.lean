import CatalogClient.Proofs.Splice
import CatalogClient.Url.Host

/-!
# Blanks behind a host

A control or a blank at the end of a host is still there when the host is brought into its form in
ASCII, whatever stands before it: nothing stands for it, nothing composes with what comes before it,
and an encoded label keeps it. No host can hold it, so no such host can be read
(`Host.parse_concat_of_isEdge`).
-/

namespace CatalogClient

/-! ## Normal form -/

section NormalForm
variable {c : Char}

theorem orderMarks_concat (ascii : isAscii c = true) (text : List Char) :
    orderMarks (text ++ [c]) = orderMarks text ++ [c] := by
  have starts : ∀ reversed, insertMark c reversed = c :: reversed := by
    intro reversed
    cases reversed with
    | nil => rfl
    | cons last before => simp [insertMark, combiningClass, ascii]
  simp [orderMarks, List.foldl_append, starts]

theorem decomposed_concat (ascii : isAscii c = true) (text : List Char) :
    decomposed (text ++ [c]) = decomposed text ++ [c] := by
  have whole : takenApart 3 c = [c] := by simp [takenApart, parts?, ascii]
  rw [decomposed, List.flatMap_append, List.flatMap_singleton, whole, orderMarks_concat ascii]
  rfl

/-- A character of ASCII behind a text has no part in the normal form of the text. -/
theorem normalForm_concat (ascii : isAscii c = true) (text : List Char) :
    normalForm (text ++ [c]) = normalForm text ++ [c] := by
  have starts : ∀ k : Composer, (k.add c).reversed = c :: k.reversed := by
    intro k
    have alone : (fun base => composed? base c) = fun _ => none := by
      funext base
      simp [composed?, ascii]
    have class_zero : combiningClass c = 0 := by simp [combiningClass, ascii]
    simp [Composer.add, alone, class_zero, Composer.reversed]
  rw [normalForm, decomposed_concat ascii, List.foldl_append, List.foldl_cons, List.foldl_nil,
    starts, List.reverse_cons]
  rfl

end NormalForm

/-! ## Parts of a text -/

theorem exists_mem_splitAtChar (isSeparator : Char → Bool) {text : List Char} {c : Char}
    (mem : c ∈ text) (inside : isSeparator c = false) :
    ∃ part ∈ splitAtChar isSeparator text, c ∈ part := by
  induction text with
  | nil => cases mem
  | cons d rest ih =>
    cases separates : isSeparator d with
    | true =>
      have later : c ∈ rest := by
        rcases List.mem_cons.mp mem with rfl | later
        · rw [inside] at separates
          cases separates
        · exact later
      obtain ⟨part, among, mem⟩ := ih later
      rw [splitAtChar_cons_of_separator rest separates]
      exact ⟨part, List.mem_cons_of_mem _ among, mem⟩
    | false =>
      have some_part : splitAtChar isSeparator rest ≠ [] := splitAtChar_ne_nil rest
      obtain ⟨part, more, split⟩ := List.exists_cons_of_ne_nil some_part
      rw [splitAtChar_cons_of_not_separator separates split]
      rcases List.mem_cons.mp mem with rfl | later
      · exact ⟨_, List.mem_cons_self, List.mem_cons_self⟩
      · obtain ⟨part', among, mem⟩ := ih later
        rw [split] at among
        rcases List.mem_cons.mp among with rfl | among
        · exact ⟨_, List.mem_cons_self, List.mem_cons_of_mem _ mem⟩
        · exact ⟨part', List.mem_cons_of_mem _ among, mem⟩

theorem mem_joinWith {separator part : List Char} {parts : List (List Char)} {c : Char}
    (among : part ∈ parts) (mem : c ∈ part) : c ∈ joinWith separator parts := by
  induction parts with
  | nil => cases among
  | cons first more ih =>
    cases more with
    | nil =>
      obtain rfl := List.mem_singleton.mp among
      simpa [joinWith] using mem
    | cons second more =>
      have rest : joinWith separator (first :: second :: more) =
          first ++ (separator ++ joinWith separator (second :: more)) := by
        simp [joinWith]
      rw [rest, List.mem_append, List.mem_append]
      rcases List.mem_cons.mp among with rfl | later
      · exact .inl mem
      · exact .inr (.inr (ih later))

/-- What is made of all members is made of each. -/
theorem exists_mem_of_mapM {α β : Type} {f : α → Option β} {xs : List α} {ys : List β} {x : α}
    (mapped : xs.mapM f = some ys) (mem : x ∈ xs) : ∃ y ∈ ys, f x = some y := by
  induction xs generalizing ys with
  | nil => cases mem
  | cons first more ih =>
    rw [List.mapM_cons] at mapped
    obtain ⟨y, made, mapped⟩ := Option.bind_eq_some_iff.mp mapped
    obtain ⟨ys', rest, same⟩ := Option.bind_eq_some_iff.mp mapped
    obtain rfl := Option.some.inj same
    rcases List.mem_cons.mp mem with rfl | later
    · exact ⟨y, List.mem_cons_self, made⟩
    · obtain ⟨y', among, made'⟩ := ih rest later
      exact ⟨y', List.mem_cons_of_mem _ among, made'⟩

/-! ## Octets -/

/-- No octet of ASCII goes on with a character that was opened. -/
theorem low_of_leadOctet {n : Nat} {u : Unfinished} (opened : leadOctet n = .opens u) :
    0x80 ≤ u.low := by
  unfold leadOctet at opened
  repeat' split at opened
  all_goals simp only [LeadOctet.opens.injEq, reduceCtorEq] at opened
  all_goals
    subst opened
    simp

/-- An octet of ASCII is a character by itself and ends whatever was unfinished. -/
theorem lenientChars_concat {b : UInt8} (ascii : b.toNat < 0x80) (octets : List UInt8)
    (state : Option Unfinished) (past : ∀ u, state = some u → 0x80 ≤ u.low) :
    lenientChars state (octets ++ [b]) = lenientChars state octets ++ [Char.ofNat b.toNat] := by
  have lead : leadOctet b.toNat = .character (Char.ofNat b.toNat) := by
    rw [leadOctet, if_pos ascii]
  induction octets generalizing state with
  | nil =>
    cases state with
    | none => simp [lenientChars, lead]
    | some u =>
      have late := past u rfl
      have early : ¬ u.low ≤ b.toNat := by omega
      simp [lenientChars, lead, early]
  | cons first octets ih =>
    have alone := ih none nofun
    -- what the octet says where a character starts
    have fresh : lenientChars none (first :: (octets ++ [b])) =
        lenientChars none (first :: octets) ++ [Char.ofNat b.toNat] := by
      simp only [lenientChars]
      cases opened : leadOctet first.toNat with
      | character c | illFormed => simp [alone]
      | opens u =>
        apply ih
        rintro u' ⟨⟩
        exact low_of_leadOctet opened
    cases state with
    | none => exact fresh
    | some u =>
      rw [List.cons_append, lenientChars, lenientChars]
      dsimp only
      split
      · split
        · simp [alone]
        · apply ih
          intro u' same
          simp [← Option.some.inj same]
      · have again := fresh
        simp only [lenientChars] at again
        exact congrArg (replacement :: ·) again

/-- Without two digits after it, a `%` stands for itself as all other signs do. -/
theorem percentDecode_cons_of_plain {d : Char} {rest : List Char}
    (plain : ∀ a b more, d = '%' → rest = a :: b :: more →
      ∀ x y, hexValue? a = some x → hexValue? b = some y → False) :
    percentDecode (d :: rest) = String.utf8EncodeChar d ++ percentDecode rest := by
  by_cases percent : d = '%'
  · subst percent
    rcases rest with _ | ⟨a, _ | ⟨b, more⟩⟩
    · rfl
    · rfl
    · rw [percentDecode]
      split
      · next x y first second => exact (plain a b more rfl rfl x y first second).elim
      · rfl
  · exact percentDecode_cons percent rest

/-- A sign that is neither `%` nor a digit takes no part in what the octets before it mean. -/
theorem percentDecode_concat {c : Char} (ascii : isAscii c = true) (no_digit : hexValue? c = none)
    (no_percent : c ≠ '%') (text : List Char) :
    percentDecode (text ++ [c]) = percentDecode text ++ [UInt8.ofNat c.toNat] := by
  have octet : String.utf8EncodeChar c = [UInt8.ofNat c.toNat] := by
    have small : c.val.toNat ≤ 127 := Nat.le_of_lt_succ (of_decide_eq_true ascii)
    rw [String.utf8EncodeChar, if_pos small]
    rfl
  induction text using percentDecode.induct with
  | case1 a b rest x y first second ih => simp [percentDecode, first, second, ih]
  | case2 a b rest none ih =>
    have plain : ∀ more a' b' more', '%' = '%' → a :: b :: more = a' :: b' :: more' →
        ∀ x y, hexValue? a' = some x → hexValue? b' = some y → False := by
      rintro more a' b' more' - ⟨⟩
      exact none
    have before := percentDecode_cons_of_plain (plain rest)
    have after := percentDecode_cons_of_plain (plain (rest ++ [c]))
    rw [before, List.append_assoc, ← ih]
    exact after
  | case3 d rest plain ih =>
    have before : percentDecode (d :: rest) = String.utf8EncodeChar d ++ percentDecode rest :=
      percentDecode_cons_of_plain fun a b more percent two => (plain a b more percent two).elim
    rw [before, List.append_assoc, ← ih]
    apply percentDecode_cons_of_plain
    intro a b more percent two x y first second
    rcases rest with _ | ⟨a', _ | ⟨b', more'⟩⟩
    · simp at two
    · -- the sign itself would have to be the second digit
      obtain rfl : c = b := (List.cons.inj (List.cons.inj two).2).1
      rw [no_digit] at second
      cases second
    · exact plain a' b' more' percent rfl
  | case4 => simp [percentDecode_cons no_percent, octet, percentDecode]

/-! ## Names -/

namespace Url

variable {c : Char}

/-- A URL is trimmed of the first characters there are. -/
theorem exists_ofNat_of_isEdge (edge : isEdge c = true) : ∃ n : Fin 0x21, c = Char.ofNat n := by
  have small : c.toNat < 0x21 := Nat.lt_succ_of_le (of_decide_eq_true edge)
  exact ⟨⟨c.toNat, small⟩, c.ofNat_toNat.symm⟩

/-- What is true of all signs that a URL is trimmed of. -/
theorem signs_of_isEdge (edge : isEdge c = true) :
    isAscii c = true ∧ c.toLower = c ∧ c.isDigit = false ∧ hexValue? c = none ∧
      Host.isForbidden c = true ∧ c ∉ ['%', '.', ':', '@', '[', ']', '/', '\\'] := by
  obtain ⟨n, rfl⟩ := exists_ofNat_of_isEdge edge
  revert n
  decide

end Url

namespace Domain

variable {c : Char}

theorem ascii_of_decoded? {label : List Char} {read : DomainLabel}
    (decodes : DomainLabel.decoded? label = some read) : read.ascii = label := by
  unfold DomainLabel.decoded? at decodes
  dsimp only at decodes
  split at decodes
  · obtain ⟨shown, -, decodes⟩ := Option.bind_eq_some_iff.mp decodes
    split at decodes
    · rw [← Option.some.inj decodes]
    · cases decodes
  · cases decodes

/-- A label is taken as it is if it comes encoded or is all of ASCII, and else it is encoded. -/
theorem ascii_of_ofNormal? {label : List Char} {read : DomainLabel}
    (made : DomainLabel.ofNormal? label = some read) :
    read.ascii = label ∨ read.ascii = Punycode.encodeLabel label := by
  have chosen : ∀ read' : DomainLabel,
      (if DomainLabel.isWellFormed read'.shown then some read' else none) = some read →
        read' = read := by
    intro read' well
    split at well
    · exact Option.some.inj well
    · cases well
  unfold DomainLabel.ofNormal? at made
  dsimp only at made
  split at made
  · obtain ⟨read', decodes, made⟩ := Option.bind_eq_some_iff.mp made
    obtain rfl := chosen _ made
    exact .inl (ascii_of_decoded? decodes)
  · split at made
    · obtain rfl := chosen ⟨label, label⟩ made
      exact .inl rfl
    · split at made
      · obtain rfl := chosen ⟨label, Punycode.encodeLabel label⟩ made
        exact .inr rfl
      · cases made

theorem mem_encodeLabel {label : List Char} (ascii : isAscii c = true) (mem : c ∈ label) :
    c ∈ Punycode.encodeLabel label := by
  have among : c ∈ label.filter fun c => c.toNat < 0x80 := List.mem_filter.mpr ⟨mem, ascii⟩
  have some_ascii : (label.filter fun c => c.toNat < 0x80).isEmpty = false := by
    cases same : label.filter fun c => c.toNat < 0x80 with
    | nil => rw [same] at among; cases among
    | cons => rfl
  unfold Punycode.encodeLabel
  split
  · exact mem
  · simp [some_ascii, among]

/-- A label keeps its characters of ASCII when it is written in ASCII. -/
theorem mem_ascii_of_ofNormal? {label : List Char} {read : DomainLabel} (ascii : isAscii c = true)
    (mem : c ∈ label) (made : DomainLabel.ofNormal? label = some read) : c ∈ read.ascii := by
  rcases ascii_of_ofNormal? made with same | same
  · rw [same]
    exact mem
  · rw [same]
    exact mem_encodeLabel ascii mem

/-- A blank behind a name is behind its normal form. -/
theorem normal?_concat {name normal : List Char} (edge : Url.isEdge c = true)
    (made : normal? (name ++ [c]) = some normal) : c ∈ normal := by
  obtain ⟨ascii, lower, -⟩ := Url.signs_of_isEdge edge
  have letters : nameLetters? c = some [c] := by simp [nameLetters?, ascii, lower]
  obtain ⟨all, mapped, same⟩ := Option.bind_eq_some_iff.mp made
  obtain rfl := Option.some.inj same
  rw [List.mapM_append] at mapped
  obtain ⟨before, -, mapped⟩ := Option.bind_eq_some_iff.mp mapped
  obtain ⟨last, single, mapped⟩ := Option.bind_eq_some_iff.mp mapped
  obtain rfl := Option.some.inj mapped
  obtain rfl : [[c]] = last := by
    rw [List.mapM_cons, letters] at single
    exact Option.some.inj single
  rw [List.flatten_append, List.flatten_singleton, normalForm_concat ascii]
  exact List.mem_append_right _ List.mem_cons_self

/-- A blank behind a name is still there in ASCII. -/
theorem mem_toAscii? {name written : List Char} (edge : Url.isEdge c = true)
    (made : toAscii? (name ++ [c]) = some written) : c ∈ written := by
  obtain ⟨ascii, lower, -, -, -, signs⟩ := Url.signs_of_isEdge edge
  unfold toAscii? at made
  split at made
  · obtain rfl := Option.some.inj made
    rw [List.map_append, List.map_singleton, lower]
    exact List.mem_append_right _ List.mem_cons_self
  · obtain ⟨normal, normalized, made⟩ := Option.bind_eq_some_iff.mp made
    obtain ⟨labels, read, made⟩ := Option.bind_eq_some_iff.mp made
    have no_point : decide (c = '.') = false := by
      apply decide_eq_false
      rintro rfl
      simp at signs
    obtain ⟨part, among, mem⟩ :=
      exists_mem_splitAtChar (· = '.') (normal?_concat edge normalized) no_point
    obtain ⟨label, among', made'⟩ := exists_mem_of_mapM read among
    split at made
    · obtain rfl := Option.some.inj made
      exact mem_joinWith (List.mem_map_of_mem among') (mem_ascii_of_ofNormal? ascii mem made')
    · cases made

end Domain

/-- **No host ends with a blank.** -/
theorem Host.parse_concat_of_isEdge {c : Char} (edge : Url.isEdge c = true) (text : List Char) :
    ∃ fault, Host.parse (text ++ [c]) = .error fault := by
  obtain ⟨ascii, -, -, no_digit, forbidden, signs⟩ := Url.signs_of_isEdge edge
  have no_percent : c ≠ '%' := by
    rintro rfl
    simp at signs
  have small : c.toNat < 0x80 := of_decide_eq_true ascii
  have octet : (UInt8.ofNat c.toNat).toNat = c.toNat := by
    rw [UInt8.toNat_ofNat']
    omega
  have decoded : lenientChars none (percentDecode (text ++ [c])) =
      lenientChars none (percentDecode text) ++ [c] := by
    rw [percentDecode_concat ascii no_digit no_percent,
      lenientChars_concat (by rw [octet]; exact small) _ none nofun, octet, Char.ofNat_toNat]
  unfold Host.parse
  split
  · next empty => simp at empty
  · next rest bracketed =>
    have unclosed : ¬ rest.getLast? = some ']' := by
      intro closed
      have last : ('[' :: rest).getLast? = some c := by rw [← bracketed, List.getLast?_concat]
      rw [List.getLast?_cons, closed] at last
      obtain rfl : ']' = c := by simpa using last
      simp at signs
    rw [if_neg unclosed]
    exact ⟨_, rfl⟩
  · rw [decoded]
    split
    · exact ⟨_, rfl⟩
    · next name made =>
      have among := Domain.mem_toAscii? edge made
      rw [if_pos (List.any_eq_true.mpr ⟨c, among, forbidden⟩)]
      exact ⟨_, rfl⟩

end CatalogClient

/-!
# Parts of a text

Cutting a text at separators and putting parts together again. `splitAtChar_append` and
`cut_append` say where the cuts are made.
-/

namespace CatalogClient

/-- Splits at every character that is a separator. -/
def splitAtChar (isSeparator : Char → Bool) (text : List Char) : List (List Char) :=
  text.foldr (fun c parts =>
    if isSeparator c then [] :: parts
    else match parts with
      | [] => [[c]]
      | part :: more => (c :: part) :: more) [[]]

section Split
variable {isSeparator : Char → Bool}

theorem splitAtChar_ne_nil (text : List Char) : splitAtChar isSeparator text ≠ [] := by
  cases text with
  | nil => exact List.cons_ne_nil _ _
  | cons c rest =>
    unfold splitAtChar
    rw [List.foldr_cons]
    split
    · exact List.cons_ne_nil _ _
    · split <;> exact List.cons_ne_nil _ _

theorem splitAtChar_cons_of_separator {c : Char} (rest : List Char) (h : isSeparator c = true) :
    splitAtChar isSeparator (c :: rest) = [] :: splitAtChar isSeparator rest := by
  simp [splitAtChar, h]

theorem splitAtChar_cons_of_not_separator {c : Char} {rest part : List Char}
    {more : List (List Char)} (h : isSeparator c = false)
    (split : splitAtChar isSeparator rest = part :: more) :
    splitAtChar isSeparator (c :: rest) = (c :: part) :: more := by
  have step : splitAtChar isSeparator (c :: rest) =
      match splitAtChar isSeparator rest with
      | [] => [[c]]
      | part :: more => (c :: part) :: more := by
    unfold splitAtChar
    rw [List.foldr_cons, if_neg (by simp [h])]
  rw [step, split]

/-- A separator parts what stands before it from what stands after it. -/
theorem splitAtChar_append {c : Char} (before after : List Char) (h : isSeparator c = true) :
    splitAtChar isSeparator (before ++ c :: after) =
      splitAtChar isSeparator before ++ splitAtChar isSeparator after := by
  induction before with
  | nil => exact splitAtChar_cons_of_separator after h
  | cons d before ih =>
    rw [List.cons_append]
    cases hd : isSeparator d with
    | true =>
      rw [splitAtChar_cons_of_separator _ hd, splitAtChar_cons_of_separator _ hd, ih,
        List.cons_append]
    | false =>
      have some_part : splitAtChar isSeparator before ≠ [] := splitAtChar_ne_nil before
      obtain ⟨part, more, split⟩ := List.exists_cons_of_ne_nil some_part
      rw [split, List.cons_append] at ih
      rw [splitAtChar_cons_of_not_separator hd ih, splitAtChar_cons_of_not_separator hd split,
        List.cons_append]

/-- A text without separators is one part. -/
theorem splitAtChar_of_none {part : List Char} (h : ∀ c ∈ part, isSeparator c = false) :
    splitAtChar isSeparator part = [part] := by
  induction part with
  | nil => rfl
  | cons c rest ih =>
    exact splitAtChar_cons_of_not_separator (h c List.mem_cons_self)
      (ih fun d hd => h d (List.mem_cons_of_mem _ hd))

/-- Parts that were put together come apart again, unless there was none. -/
theorem splitAtChar_intercalate {c : Char} {parts : List (List Char)} (h : isSeparator c = true)
    (none_inside : ∀ part ∈ parts, ∀ d ∈ part, isSeparator d = false) (some_part : parts ≠ []) :
    splitAtChar isSeparator ([c].intercalate parts) = parts := by
  induction parts with
  | nil => exact absurd rfl some_part
  | cons part more ih =>
    have inside := none_inside part List.mem_cons_self
    cases more with
    | nil => rw [List.intercalate_singleton, splitAtChar_of_none inside]
    | cons next more =>
      rw [List.intercalate_cons_cons, List.append_assoc, List.singleton_append,
        splitAtChar_append _ _ h, splitAtChar_of_none inside, List.singleton_append,
        ih (fun p mem => none_inside p (List.mem_cons_of_mem _ mem)) (List.cons_ne_nil _ _)]

end Split

/-! ## Runs at the start -/

section Runs
variable {p : Char → Bool} {c : Char}

theorem dropWhile_append_cons_of_neg (before after : List Char) (h : p c = false) :
    (before ++ c :: after).dropWhile p = before.dropWhile p ++ c :: after := by
  induction before with
  | nil => simp [h]
  | cons d before ih =>
    simp only [List.cons_append, List.dropWhile_cons]
    split
    · exact ih
    · rfl

theorem takeWhile_append_cons_of_neg (before after : List Char) (h : p c = false) :
    (before ++ c :: after).takeWhile p = before.takeWhile p := by
  induction before with
  | nil => simp [h]
  | cons d before ih => simp only [List.cons_append, List.takeWhile_cons, ih]

theorem mem_dropWhile_of_neg {text : List Char} (h : p c = false) :
    c ∈ text.dropWhile p ↔ c ∈ text := by
  constructor
  · exact fun mem => (List.dropWhile_sublist p).subset mem
  · intro mem
    rw [← List.takeWhile_append_dropWhile (p := p) (l := text)] at mem
    refine (List.mem_append.mp mem).resolve_left fun early => ?_
    rw [List.all_eq_true.mp List.all_takeWhile c early] at h
    cases h

end Runs

/-- Puts parts together with a separator between them. -/
def joinWith (separator : List Char) (parts : List (List Char)) : List Char :=
  (parts.intersperse separator).flatten

/-- Cuts a text at the first `mark`: what stands before it, and after it if it is there. -/
def cut (mark : Char) (text : List Char) : List Char × Option (List Char) :=
  match text.dropWhile (· != mark) with
  | [] => (text, none)
  | _ :: rest => (text.takeWhile (· != mark), some rest)

theorem cut_append {mark : Char} {before : List Char} (after : List Char) (h : mark ∉ before) :
    cut mark (before ++ mark :: after) = (before, some after) := by
  have passes : ∀ c ∈ before, (c != mark) = true := fun c mem => by
    rw [bne_iff_ne]
    exact fun same => h (same ▸ mem)
  simp [cut, List.dropWhile_append_of_pos passes, List.takeWhile_append_of_pos passes]

theorem cut_of_not_mem {mark : Char} {text : List Char} (h : mark ∉ text) :
    cut mark text = (text, none) := by
  have passes : ∀ c ∈ text, (c != mark) = true := fun c mem => by
    rw [bne_iff_ne]
    exact fun same => h (same ▸ mem)
  have nothing : text.dropWhile (· != mark) = [] := by
    rw [← List.append_nil text, List.dropWhile_append_of_pos passes]
    rfl
  simp [cut, nothing]

/-- A text without the mark has no part in where the cut is made. -/
theorem cut_append_of_not_mem {mark : Char} {before : List Char} (after : List Char)
    (h : mark ∉ before) :
    cut mark (before ++ after) = (before ++ (cut mark after).1, (cut mark after).2) := by
  by_cases mem : mark ∈ after
  · obtain ⟨a, b, rfl, first⟩ := List.eq_append_cons_of_mem mem
    have absent : mark ∉ before ++ a := by simp [h, first]
    rw [← List.append_assoc, cut_append b absent, cut_append b first]
  · have absent : mark ∉ before ++ after := by simp [h, mem]
    rw [cut_of_not_mem absent, cut_of_not_mem mem]

theorem cut_fst_sublist (mark : Char) (text : List Char) :
    (cut mark text).1.Sublist text := by
  unfold cut
  split
  · exact .refl text
  · exact List.takeWhile_sublist _

theorem cut_fst_eq_self_iff {mark : Char} {text : List Char} :
    (cut mark text).1 = text ↔ mark ∉ text := by
  constructor
  · intro same mem
    obtain ⟨before, after, rfl, first⟩ := List.eq_append_cons_of_mem mem
    rw [cut_append after first] at same
    simp at same
  · intro absent
    rw [cut_of_not_mem absent]

/-- Cuts a text at the last `mark`: what stands before it if it is there, and after it. -/
def cutLast (mark : Char) (text : List Char) : Option (List Char) × List Char :=
  let (after, before) := cut mark text.reverse
  (before.map List.reverse, after.reverse)

end CatalogClient

import CatalogClient.Json.Fields
import Mathlib.Data.List.Nodup
import Mathlib.Data.List.Perm.Basic

/-!
# Fields in any order

Fields with keys of their own can be put in order without losing any (`perm_ofList`), so whoever goes
through them one by one gets to the same end in any order, as long as no step minds which of two fields
with different keys comes first (`foldlM_ofList`).
-/

namespace CatalogClient

/-- Steps that can trade places lead to the same end in any order. -/
theorem foldlM_of_perm {σ β : Type} {step : σ → β → Option σ} {xs ys : List β} (perm : xs.Perm ys)
    (trade : ∀ x ∈ xs, ∀ y ∈ xs, ∀ state,
      (step state x).bind (step · y) = (step state y).bind (step · x)) (state : σ) :
    xs.foldlM step state = ys.foldlM step state := by
  induction perm generalizing state with
  | nil => rfl
  | cons x _ ih =>
    rw [List.foldlM_cons, List.foldlM_cons]
    refine congrArg _ (funext fun state => ih ?_ state)
    exact fun a ha b hb => trade a (List.mem_cons_of_mem _ ha) b (List.mem_cons_of_mem _ hb)
  | swap x y xs =>
    have traded := trade y List.mem_cons_self x (List.mem_cons_of_mem _ List.mem_cons_self) state
    have twice : ∀ a b, (a :: b :: xs).foldlM step state =
        ((step state a).bind (step · b)).bind fun state => xs.foldlM step state := by
      intro a b
      rw [List.foldlM_cons, Option.bind_assoc]
      rfl
    rw [twice, twice, traded]
  | trans perm _ ih ih' =>
    refine (ih trade state).trans (ih' ?_ state)
    exact fun a ha b hb => trade a (perm.mem_iff.mpr ha) b (perm.mem_iff.mpr hb)

namespace Fields

variable {α σ : Type} {key key' : String} {value value' : α} {fields : List (String × α)}

theorem insert_comm_of_lt (before : key < key') (fields : Fields α) :
    insert key value (insert key' value' fields) =
      insert key' value' (insert key value fields) := by
  have apart : key ≠ key' := fun same => String.lt_irrefl key (same ▸ before)
  have not_after : ¬ key' < key := fun after => String.lt_irrefl _ (String.lt_trans before after)
  induction fields with
  | nil => simp [insert, apart, apart.symm, before, not_after]
  | cons field fields ih =>
    obtain ⟨k, v⟩ := field
    by_cases here' : key' = k
    · subst here'
      simp [insert, apart, apart.symm, before, not_after]
    by_cases front' : key' < k
    · -- both go before the first field
      have front := String.lt_trans before front'
      have apart_k : key ≠ k := fun same => String.lt_irrefl k (same ▸ front)
      simp [insert, apart, apart.symm, before, not_after, here', front', front, apart_k]
    by_cases here : key = k
    · subst here
      simp [insert, here', front']
    by_cases front : key < k
    · simp [insert, apart.symm, not_after, here', front', here, front]
    · simp [insert, here', front', here, front, ih]

/-- Two fields with different keys can be put in place in either order. -/
theorem insert_comm (apart : key ≠ key') (fields : Fields α) :
    insert key value (insert key' value' fields) =
      insert key' value' (insert key value fields) := by
  rcases Std.lt_trichotomy key key' with before | same | after
  · exact insert_comm_of_lt before fields
  · exact absurd same apart
  · exact (insert_comm_of_lt after fields).symm

/-- A field with a key of its own is put in, and all others stay. -/
theorem perm_insert (own : key ∉ fields.map Prod.fst) :
    (insert key value fields).Perm ((key, value) :: fields) := by
  induction fields with
  | nil => exact .refl _
  | cons field fields ih =>
    obtain ⟨k, v⟩ := field
    obtain ⟨apart, own⟩ := not_or.mp (mt List.mem_cons.mpr own)
    rw [insert, if_neg apart]
    split
    · exact .refl _
    · exact ((ih own).cons _).trans (.swap _ _ _)

theorem perm_ofList (distinct : (fields.map Prod.fst).Nodup) : (ofList fields).Perm fields := by
  suffices ∀ sorted : Fields α, ((sorted ++ fields).map Prod.fst).Nodup →
      (fields.foldl (fun sorted field => insert field.1 field.2 sorted) sorted).Perm
        (sorted ++ fields) from this [] distinct
  clear distinct
  induction fields with
  | nil =>
    intro sorted _
    rw [List.append_nil]
    exact .refl _
  | cons field fields ih =>
    intro sorted distinct
    -- the field goes from the front of the rest to its place among the sorted ones
    have moved : (sorted ++ field :: fields).Perm (field :: (sorted ++ fields)) := List.perm_middle
    have own : field.1 ∉ sorted.map Prod.fst := by
      have apart := (List.nodup_cons.mp ((moved.map Prod.fst).nodup_iff.mp distinct)).1
      exact fun mem => apart (by rw [List.map_append]; exact List.mem_append_left _ mem)
    have put : (insert field.1 field.2 sorted ++ fields).Perm (sorted ++ field :: fields) :=
      ((perm_insert own).append_right fields).trans moved.symm
    exact (ih _ ((put.map Prod.fst).nodup_iff.mpr distinct)).trans put

/-- Fields in order have keys of their own. -/
theorem distinct_ofList (fields : List (String × α)) : ((ofList fields).map Prod.fst).Nodup := by
  refine List.pairwise_map.mpr ((ordered_ofList fields).imp ?_)
  intro a b before same
  exact String.lt_irrefl b.1 (same ▸ before)

/-- Steps that do not mind the order of different keys go through fields in order as they go through
them as written. -/
theorem foldlM_ofList {step : σ → String → α → Option σ}
    (distinct : (fields.map Prod.fst).Nodup)
    (trade : ∀ state key value key' value', key ≠ key' →
      (step state key value).bind (step · key' value') =
        (step state key' value').bind (step · key value)) (state : σ) :
    (ofList fields).foldlM (fun state field => step state field.1 field.2) state =
      fields.foldlM (fun state field => step state field.1 field.2) state := by
  refine (foldlM_of_perm (perm_ofList distinct).symm ?_ state).symm
  intro x hx y hy state
  by_cases same : x.1 = y.1
  · rw [List.inj_on_of_nodup_map distinct hx hy same]
  · exact trade state _ _ _ _ same

end Fields

end CatalogClient

/-!
# Fields of an object

Fields are kept in the order of their keys, each key once; `insert` puts a field in its place and
takes the place of an earlier one with the same key. `ordered_insert` says that the order is kept,
`insert_of_all_lt` that a key past all others goes to the end.
-/

namespace CatalogClient

/-- Values under keys. -/
abbrev Fields (α : Type) := List (String × α)

namespace Fields

variable {α : Type}

/-- Puts a field in its place, for the earlier value of the same key. -/
def insert (key : String) (value : α) : Fields α → Fields α
  | [] => [(key, value)]
  | (k, v) :: rest =>
    if key = k then (key, value) :: rest
    else if key < k then (key, value) :: (k, v) :: rest
    else (k, v) :: insert key value rest

/-- Fields in the order in which they were written; the last one of a key stays. -/
def ofList (fields : List (String × α)) : Fields α :=
  fields.foldl (fun sorted field => insert field.1 field.2 sorted) []

def get? (key : String) : Fields α → Option α
  | [] => none
  | (k, v) :: rest => if key = k then some v else get? key rest

/-- Every key comes before all later ones. -/
def Ordered (fields : Fields α) : Prop := fields.Pairwise fun a b => a.1 < b.1

theorem mem_insert {key : String} {value : α} {fields : Fields α} {f : String × α}
    (h : f ∈ insert key value fields) : f = (key, value) ∨ f ∈ fields := by
  induction fields with
  | nil => exact .inl (by simpa [insert] using h)
  | cons head rest ih =>
    obtain ⟨k, v⟩ := head
    unfold insert at h
    split at h
    · rcases List.mem_cons.mp h with h | h
      · exact .inl h
      · exact .inr (List.mem_cons_of_mem _ h)
    · split at h
      · rcases List.mem_cons.mp h with h | h
        · exact .inl h
        · exact .inr h
      · rcases List.mem_cons.mp h with h | h
        · exact .inr (h ▸ List.mem_cons_self)
        · exact (ih h).imp id (List.mem_cons_of_mem _)

theorem ordered_insert {key : String} {value : α} {fields : Fields α} (h : Ordered fields) :
    Ordered (insert key value fields) := by
  induction fields with
  | nil => simp [insert, Ordered]
  | cons head rest ih =>
    obtain ⟨k, v⟩ := head
    have ⟨hhead, hrest⟩ := List.pairwise_cons.mp h
    unfold insert
    split
    · rename_i heq
      subst heq
      exact List.pairwise_cons.mpr ⟨hhead, hrest⟩
    · split
      · rename_i hlt
        refine List.pairwise_cons.mpr ⟨fun f hf => ?_, h⟩
        rcases List.mem_cons.mp hf with rfl | hf
        · exact hlt
        · exact String.lt_trans hlt (hhead f hf)
      · rename_i hne hnlt
        refine List.pairwise_cons.mpr ⟨fun f hf => ?_, ih hrest⟩
        rcases mem_insert hf with rfl | hf
        · exact (Std.lt_trichotomy k key).resolve_right
            (fun h => h.elim (fun e => hne e.symm) hnlt)
        · exact hhead f hf

/-- A key past all others goes to the end. -/
theorem insert_of_all_lt {key : String} {value : α} {fields : Fields α}
    (h : ∀ f ∈ fields, f.1 < key) : insert key value fields = fields ++ [(key, value)] := by
  induction fields with
  | nil => rfl
  | cons head rest ih =>
    obtain ⟨k, v⟩ := head
    have hk : k < key := h (k, v) List.mem_cons_self
    have hne : key ≠ k := fun e => String.lt_irrefl k (e ▸ hk)
    have hnlt : ¬key < k := fun hlt => String.lt_irrefl _ (String.lt_trans hlt hk)
    simp [insert, hne, hnlt, ih fun f hf => h f (List.mem_cons_of_mem _ hf)]

theorem ordered_ofList (fields : List (String × α)) : Ordered (ofList fields) := by
  suffices ∀ sorted : Fields α, Ordered sorted →
      Ordered (fields.foldl (fun sorted field => insert field.1 field.2 sorted) sorted) from
    this [] List.Pairwise.nil
  induction fields with
  | nil => exact fun _ h => h
  | cons f rest ih => exact fun sorted h => ih _ (ordered_insert h)

end Fields

end CatalogClient

import CatalogClient.Proofs.Refusal

/-!
# Headers on the wire

A request goes out with what it accepts, the client's own headers as they were configured, and its
content type. Header names are compared without regard to case, so some of these may share a name. None
is lost or replaced for that, and equal names keep their order whatever order the transport chooses
(`IsReordering`). A single header that is not valid keeps the whole request from being sent.
-/

namespace CatalogClient

/-! ## Reordering -/

/-- The same headers, each as often, and those of one name in the same order. -/
structure Header.IsReordering (xs ys : List (String × String)) : Prop where
  perm : xs.Perm ys
  order : ∀ name, xs.filter (fun h => h.1 = name) = ys.filter (fun h => h.1 = name)

namespace Header

variable {xs ys : List (String × String)}

theorem IsReordering.filter (same : IsReordering xs ys) (p : String × String → Bool) :
    IsReordering (xs.filter p) (ys.filter p) where
  perm := same.perm.filter p
  order := by
    intro name
    rw [List.filter_comm, same.order, List.filter_comm]

end Header

/-! ## What goes out -/

namespace Client

variable {client : Client} {request : Request}

end Client

end CatalogClient

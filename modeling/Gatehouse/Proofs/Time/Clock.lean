import Gatehouse.Time.Instant

/-! # Clocks that do not go back

Calls are made at what a clock reads then. If it does not go back from one call to the next, it does
not between any two.
-/

namespace Gatehouse

theorem Instant.reading_le {α : Type} (reading : α → Instant) {calls : List α} {i j : Nat} {a b : α}
    (clock : calls.Pairwise fun a b => reading a ≤ reading b) (order : i < j)
    (first : calls[i]? = some a) (second : calls[j]? = some b) : reading a ≤ reading b := by
  obtain ⟨hi, rfl⟩ := List.getElem?_eq_some_iff.1 first
  obtain ⟨hj, rfl⟩ := List.getElem?_eq_some_iff.1 second
  exact List.pairwise_iff_getElem.1 clock i j hi hj order

end Gatehouse

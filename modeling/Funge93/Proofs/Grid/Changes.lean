import Mathlib.Data.Finset.Prod
import Funge93.Proofs.Grid.Stores

/-!
# Where a grid changed

Two grids of one size differ at a position if they hold different values there, or if only one of
them is blank there: a stored -1 is a change of a blank position. This module bounds the number of
positions that stores change by the number of stores (`card_changes_store`).
-/

namespace Funge93.Grid

/-- The positions where two grids differ, in what they hold or in whether they are blank. -/
def changes (g g' : Grid) : Finset (Nat × Nat) :=
  (Finset.range g.width ×ˢ Finset.range g.height).filter fun p => g.cell p.1 p.2 ≠ g'.cell p.1 p.2

variable {g g' : Grid} {col row : Nat}

theorem mem_changes : (col, row) ∈ g.changes g' ↔
    (col < g.width ∧ row < g.height) ∧ g.cell col row ≠ g'.cell col row := by
  simp [changes]

theorem changes_self (g : Grid) : g.changes g = ∅ := by
  simp [changes]

/-- A store changes the position that it hits, and no other. -/
theorem changes_store_subset (hw : g'.width = g.width) (x y : Int) (v : Cell) :
    g.changes (g'.store x y v) ⊆
      insert ((x % g'.width).toNat, (y % g'.height).toNat) (g.changes g') := by
  rintro ⟨col, row⟩ hp
  obtain ⟨hinside, hdiffers⟩ := mem_changes.mp hp
  rw [Finset.mem_insert, mem_changes]
  rw [cell_store g' x y v (hw ▸ hinside.1)] at hdiffers
  split at hdiffers
  · next hit =>
    obtain ⟨rfl, rfl⟩ := hit
    exact .inl rfl
  · exact .inr ⟨hinside, hdiffers⟩

theorem card_changes_store (hw : g'.width = g.width) (x y : Int) (v : Cell) :
    (g.changes (g'.store x y v)).card ≤ (g.changes g').card + 1 :=
  (Finset.card_le_card (changes_store_subset hw x y v)).trans (Finset.card_insert_le _ _)

end Funge93.Grid

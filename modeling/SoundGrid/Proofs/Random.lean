import Mathlib.Data.List.Basic
import SoundGrid.Random

/-!
# Random permutations

A shuffle returns its items in another order.  What it draws depends on their
number alone, so two lists of one length are put into corresponding orders and
leave the source in the same state.
-/

namespace SoundGrid.Random

variable {Source Item : Type} [RandomSource Source]

theorem perm_swapIfInBounds (items : Array Item) (first second : Nat) :
    (items.swapIfInBounds first second).Perm items := by
  rw [Array.swapIfInBounds_def]
  by_cases firstInside : first < items.size
  · rw [dif_pos firstInside]
    by_cases secondInside : second < items.size
    · rw [dif_pos secondInside]
      exact Array.swap_perm firstInside secondInside
    · rw [dif_neg secondInside]
  · rw [dif_neg firstInside]

theorem perm_shuffleFrom (items : Array Item) (last : Nat) (source : Source) :
    (shuffleFrom items last source).1.Perm items := by
  induction last generalizing items source with
  | zero => exact Array.Perm.refl items
  | succ last ih => exact (ih _ _).trans (perm_swapIfInBounds items _ _)

/-- A shuffle only changes the order. -/
theorem perm_shuffle (items : Array Item) (source : Source) :
    (shuffle items source).1.Perm items :=
  perm_shuffleFrom items _ source

theorem source_shuffleFrom (items others : Array Item) (last : Nat)
    (source : Source) :
    (shuffleFrom items last source).2 = (shuffleFrom others last source).2 := by
  induction last generalizing items others source with
  | zero => rfl
  | succ last ih => exact ih _ _ _

/-- What is drawn depends on the number of items alone. -/
theorem source_shuffle {items others : Array Item}
    (sizes : items.size = others.size) (source : Source) :
    (shuffle items source).2 = (shuffle others source).2 := by
  rw [shuffle, shuffle, sizes]
  exact source_shuffleFrom items others _ source

end SoundGrid.Random

import Mathlib.Data.Fin.Tuple.Basic
import Mathlib.Data.Fintype.BigOperators
import Mathlib.Data.Nat.Factorial.BigOperators
import SoundGrid.Proofs.Random

/-!
# Shuffles as functions of their draws

A shuffle draws one index for every position but the first, from the last
position downwards, and each one at or before its position.  All else that it
does is a function of these indices.

On distinct items this function has every order for a value, and only once.  The
item that an order has at the last position was at one place before, so the
first index has to be that place; after the exchange the rest of the order is
left to the other indices.
-/

namespace SoundGrid.Random

variable {Source Item : Type}

/--
An index for every position from a last one down to the second, at or before it.
-/
abbrev Draws (last : Nat) : Type :=
  (place : Fin last) → Fin (place + 2)

/-- There are as many draws as orders. -/
theorem card_draws (last : Nat) :
    Fintype.card (Draws last) = (last + 1).factorial := by
  rw [Fintype.card_pi, ← Finset.prod_range_add_one_eq_factorial,
    Finset.prod_range_succ']
  simp only [Fintype.card_fin, zero_add, mul_one]
  exact Fin.prod_univ_eq_prod_range (fun place => place + 2) last

theorem chosen_le {last : Nat} (draws : Draws (last + 1)) :
    (draws (Fin.last last)).val ≤ last + 1 :=
  Nat.le_of_lt_succ (draws (Fin.last last)).isLt

/--
Exchanges the entries as the draws say, from position `last` down to the second.
-/
def exchangeFrom (items : Array Item) : (last : Nat) → Draws last → Array Item
  | 0, _ => items
  | last + 1, draws =>
      exchangeFrom (items.swapIfInBounds (last + 1) (draws (Fin.last last)))
        last (Fin.init draws)

section Drawing

variable [RandomSource Source]

/-- The draws of a source for the positions from `last` down to the second. -/
def drawsFrom : (last : Nat) → Source → Draws last × Source
  | 0, source => (fun place => place.elim0, source)
  | last + 1, source =>
      let chosen : Fin (last + 2) := ⟨(RandomSource.below (last + 2) source).1,
        RandomSource.below_lt (last + 2) source (Nat.succ_pos _)⟩
      let (draws, rest) :=
        drawsFrom last (RandomSource.below (last + 2) source).2
      (Fin.snoc draws chosen, rest)

/-- A shuffle does nothing with its source but draw. -/
theorem shuffleFrom_eq (items : Array Item) (last : Nat) (source : Source) :
    shuffleFrom items last source =
      (exchangeFrom items last (drawsFrom last source).1,
        (drawsFrom last source).2) := by
  induction last generalizing items source with
  | zero => rfl
  | succ last ih =>
      rw [shuffleFrom, drawsFrom, exchangeFrom]
      simp only [Fin.snoc_last, Fin.init_snoc]
      exact ih _ _

end Drawing

/-! ## Exchanges -/

section Exchanges

variable {items order : Array Item} {first second last place : Nat}

theorem getElem?_swapIfInBounds_left (firstInside : first < items.size)
    (secondInside : second < items.size) :
    (items.swapIfInBounds first second)[first]? = items[second]? := by
  rw [Array.swapIfInBounds_def, dif_pos firstInside, dif_pos secondInside,
    Array.getElem?_swap, if_pos rfl, Array.getElem?_eq_getElem secondInside]
  split
  · next same => simp only [same]
  · rfl

theorem getElem?_swapIfInBounds_of_ne (notFirst : place ≠ first)
    (notSecond : place ≠ second) :
    (items.swapIfInBounds first second)[place]? = items[place]? := by
  rw [Array.swapIfInBounds_def]
  split
  · split
    · rw [Array.getElem?_swap, if_neg notSecond.symm, if_neg notFirst.symm]
    · rfl
  · rfl

theorem perm_exchangeFrom (items : Array Item) (last : Nat)
    (draws : Draws last) : (exchangeFrom items last draws).Perm items := by
  induction last generalizing items with
  | zero => exact Array.Perm.refl items
  | succ last ih => exact (ih _ _).trans (perm_swapIfInBounds items _ _)

/-- Positions behind the last one are left alone. -/
theorem getElem?_exchangeFrom (behind : last < place) (draws : Draws last) :
    (exchangeFrom items last draws)[place]? = items[place]? := by
  induction last generalizing items with
  | zero => rfl
  | succ last ih =>
      have notChosen : place ≠ (draws (Fin.last last)).val :=
        Nat.ne_of_gt (Nat.lt_of_le_of_lt (chosen_le draws) behind)
      rw [exchangeFrom, ih (by omega),
        getElem?_swapIfInBounds_of_ne (by omega) notChosen]

/-- So the first index tells which item is exchanged for the last one. -/
theorem getElem?_exchangeFrom_succ (inside : last + 1 < items.size)
    (draws : Draws (last + 1)) :
    (exchangeFrom items (last + 1) draws)[last + 1]? =
      items[(draws (Fin.last last)).val]? := by
  have chosenInside : (draws (Fin.last last)).val < items.size :=
    Nat.lt_of_le_of_lt (chosen_le draws) inside
  rw [exchangeFrom, getElem?_exchangeFrom (Nat.lt_succ_self last),
    getElem?_swapIfInBounds_left inside chosenInside]

/-! ## Orders -/

/--
The order has the same items, and they are in place already behind the last
position.
-/
structure SettledBehind (items order : Array Item) (last : Nat) : Prop where
  distinct : items.toList.Nodup
  reordered : order.Perm items
  settled : ∀ place, last < place → order[place]? = items[place]?

theorem nodup_of_perm (reordered : order.Perm items)
    (distinct : items.toList.Nodup) :
    order.toList.Nodup :=
  (Array.perm_iff_toList_perm.mp reordered).nodup_iff.mpr distinct

theorem getElem?_inj (distinct : items.toList.Nodup)
    (inside : first < items.size)
    (same : items[first]? = items[second]?) : first = second := by
  rw [← Array.getElem?_toList, ← Array.getElem?_toList] at same
  exact (List.getElem?_inj inside distinct).mp same

/-- What an order has at the last position is found at or before it. -/
theorem SettledBehind.exists_chosen (settled : SettledBehind items order last)
    (inside : last < items.size) :
    ∃ chosen, chosen ≤ last ∧ items[chosen]? = order[last]? := by
  have orderInside : last < order.size := settled.reordered.size_eq ▸ inside
  have member : order[last] ∈ items :=
    settled.reordered.mem_iff.mp (Array.getElem_mem orderInside)
  rcases Array.mem_iff_getElem?.mp member with ⟨chosen, found⟩
  rw [← Array.getElem?_eq_getElem orderInside] at found
  refine ⟨chosen, ?_, found⟩
  by_contra behind
  have same : order[last]? = order[chosen]? := by
    rw [settled.settled chosen (not_le.mp behind), found]
  have orderDistinct := nodup_of_perm settled.reordered settled.distinct
  exact behind (getElem?_inj orderDistinct orderInside same).ge

/-- An exchange with that place settles the last position. -/
theorem SettledBehind.swap {chosen : Nat}
    (settled : SettledBehind items order (last + 1))
    (inside : last + 1 < items.size) (before : chosen ≤ last + 1)
    (found : items[chosen]? = order[last + 1]?) :
    SettledBehind (items.swapIfInBounds (last + 1) chosen) order last where
  distinct := nodup_of_perm (perm_swapIfInBounds items _ _) settled.distinct
  reordered := settled.reordered.trans (perm_swapIfInBounds items _ _).symm
  settled place behind := by
    by_cases isLast : place = last + 1
    · rw [isLast, getElem?_swapIfInBounds_left inside (by omega), found]
    · rw [getElem?_swapIfInBounds_of_ne isLast (by omega),
        settled.settled place (by omega)]

/--
An order whose items are all in place but the first has them all in place.
-/
theorem SettledBehind.eq_of_zero
    (settled : SettledBehind items order 0) : order = items := by
  apply Array.ext_getElem?
  intro place
  by_cases first : place = 0
  · subst first
    by_cases inside : 0 < items.size
    · rcases settled.exists_chosen inside with ⟨chosen, start, found⟩
      rw [← found, Nat.le_zero.mp start]
    · have orderEmpty : order.size ≤ 0 := by
        rw [settled.reordered.size_eq]
        omega
      rw [Array.getElem?_eq_none orderEmpty, Array.getElem?_eq_none (by omega)]
  · exact settled.settled place (by omega)

/-- Exactly one vector of draws leads to an order. -/
theorem SettledBehind.existsUnique_draws
    (settled : SettledBehind items order last)
    (inside : last ≤ items.size - 1) :
    ∃! draws : Draws last, exchangeFrom items last draws = order := by
  induction last generalizing items with
  | zero =>
      refine ⟨fun place => place.elim0, settled.eq_of_zero.symm,
        fun draws _ => ?_⟩
      funext place
      exact place.elim0
  | succ last ih =>
      have inside : last + 1 < items.size := by omega
      rcases settled.exists_chosen inside with ⟨chosen, before, found⟩
      have next := settled.swap inside before found
      have nextInside :
          last ≤ (items.swapIfInBounds (last + 1) chosen).size - 1 := by
        rw [(perm_swapIfInBounds items _ _).size_eq]
        omega
      rcases ih next nextInside with ⟨others, reached, unique⟩
      have bound : chosen < last + 2 := by omega
      refine ⟨Fin.snoc others ⟨chosen, bound⟩, ?_, ?_⟩
      · change exchangeFrom items (last + 1) _ = order
        rw [exchangeFrom, Fin.snoc_last, Fin.init_snoc]
        exact reached
      · intro draws leads
        -- The other exchanges leave the last position alone, so its item tells
        -- the first index.
        have same : items[(draws (Fin.last last)).val]? = items[chosen]? := by
          rw [found, ← leads, getElem?_exchangeFrom_succ inside]
        have chosenInside : chosen < items.size := by omega
        have own : (draws (Fin.last last)).val = chosen :=
          (getElem?_inj settled.distinct chosenInside same.symm).symm
        rw [exchangeFrom, own] at leads
        have rest := unique (Fin.init draws) leads
        rw [← Fin.snoc_init_self draws, rest]
        congr 1
        exact Fin.ext own

theorem existsUnique_exchangeFrom (distinct : items.toList.Nodup)
    (reordered : order.Perm items) :
    ∃! draws : Draws (items.size - 1),
      exchangeFrom items (items.size - 1) draws = order := by
  have settled : SettledBehind items order (items.size - 1) := by
    refine ⟨distinct, reordered, fun place behind => ?_⟩
    have orderSize := reordered.size_eq
    rw [Array.getElem?_eq_none (by omega), Array.getElem?_eq_none (by omega)]
  exact settled.existsUnique_draws (Nat.le_refl _)

end Exchanges

end SoundGrid.Random

import Mathlib
import SoundGrid.Loudness

/-!
# Sums in any order

Sums are made in an order that keeps rounding errors small: from left to right,
in eight columns, or by halves, depending on how much there is to be added.
Which order it is seldom matters. `IsTotal` says of a number that it comes of
adding up some numbers in some order and in some brackets, and that is all that
most facts about sums need.
-/

namespace SoundGrid.Loudness

variable {Real : Type} {add : Real → Real → Real} {zero : Real}

/--
A number that comes of adding up some numbers, in whatever order and brackets.
-/
inductive IsTotal (add : Real → Real → Real) (zero : Real) :
    Multiset Real → Real → Prop where
  | zero : IsTotal add zero 0 zero
  | single (value : Real) : IsTotal add zero {value} value
  | add {values others : Multiset Real} {total other : Real}
      (first : IsTotal add zero values total)
      (second : IsTotal add zero others other) :
      IsTotal add zero (values + others) (add total other)

/-- What zero has and sums keep, totals have. -/
theorem IsTotal.closed {property : Real → Prop} {values : Multiset Real}
    {total : Real} (isTotal : IsTotal add zero values total)
    (each : ∀ value ∈ values, property value) (nothing : property zero)
    (sums : ∀ first second, property first → property second →
      property (add first second)) : property total := by
  induction isTotal with
  | zero => exact nothing
  | single value => exact each value (Multiset.mem_singleton_self value)
  | add _ _ firstIh secondIh =>
      refine sums _ _ (firstIh fun value member => ?_)
        (secondIh fun value member => ?_)
      · exact each value (Multiset.mem_add.mpr (Or.inl member))
      · exact each value (Multiset.mem_add.mpr (Or.inr member))

/-- Where order and brackets do not matter there is one total. -/
theorem IsTotal.eq_sum {Real : Type} [AddCommMonoid Real]
    {values : Multiset Real} {total : Real}
    (isTotal : IsTotal (· + ·) 0 values total) : total = values.sum := by
  induction isTotal with
  | zero => rfl
  | single value => exact (Multiset.sum_singleton value).symm
  | add _ _ firstIh secondIh => rw [Multiset.sum_add, firstIh, secondIh]

/-! ## Columns -/

/--
Numbers that are totals themselves, and what each of them was added up from.
-/
def AreTotals (add : Real → Real → Real) (zero : Real) :
    List (Multiset Real) → List Real → Prop :=
  List.Forall₂ (IsTotal add zero)

theorem areTotals_singles (values : List Real) :
    AreTotals add zero (values.map fun value => {value}) values := by
  induction values with
  | nil => exact .nil
  | cons value rest ih => exact .cons (.single value) ih

theorem sum_singles (values : List Real) :
    (values.map fun value => ({value} : Multiset Real)).sum = values := by
  induction values with
  | nil => rfl
  | cons value rest ih =>
      rw [List.map_cons, List.sum_cons, ih]
      exact Multiset.singleton_add value rest

/-- From left to right. -/
theorem AreTotals.sumFrom {columns : List (Multiset Real)} {totals : List Real}
    (areTotals : AreTotals add zero columns totals) {values : Multiset Real}
    {start : Real} (isTotal : IsTotal add zero values start) :
    IsTotal add zero (values + columns.sum) (sumFrom add start totals) := by
  induction areTotals generalizing values start with
  | nil => rwa [List.sum_nil, add_zero]
  | cons first _ ih =>
      rw [List.sum_cons, ← add_assoc]
      exact ih (isTotal.add first)

theorem AreTotals.plainSum {columns : List (Multiset Real)} {totals : List Real}
    (areTotals : AreTotals add zero columns totals) :
    IsTotal add zero columns.sum (plainSum add zero totals) := by
  cases areTotals with
  | nil => exact .zero
  | cons first rest =>
      rw [List.sum_cons]
      exact AreTotals.sumFrom rest first

/-- Eight totals in pairs. -/
theorem AreTotals.joinEight {columns : List (Multiset Real)}
    {totals : List Real} (areTotals : AreTotals add zero columns totals) :
    IsTotal add zero columns.sum (joinEight add zero totals) := by
  unfold Loudness.joinEight
  split
  · rcases areTotals with
      _ | ⟨a, _ | ⟨b, _ | ⟨c, _ | ⟨d, _ | ⟨e, _ | ⟨f, _ | ⟨g, _ | ⟨h, ⟨⟩⟩⟩⟩⟩⟩⟩⟩⟩
    have joined := ((a.add b).add (c.add d)).add ((e.add f).add (g.add h))
    simpa only [List.sum_cons, List.sum_nil, add_zero, add_assoc] using joined
  · exact areTotals.plainSum

/-- One row more. -/
theorem AreTotals.addEight {columns : List (Multiset Real)}
    {totals values : List Real} (areTotals : AreTotals add zero columns totals)
    (length : values.length = totals.length) :
    ∃ longer, AreTotals add zero longer (addEight add totals values) ∧
      longer.sum = columns.sum + values := by
  induction areTotals generalizing values with
  | nil =>
      cases List.length_eq_zero_iff.mp length
      exact ⟨[], .nil, rfl⟩
  | @cons column _ columns _ first _ ih =>
      cases values with
      | nil => cases length
      | cons value values =>
          rcases ih (Nat.succ.inj length) with ⟨longer, others, sum⟩
          refine ⟨_ :: longer, .cons (first.add (.single value)) others, ?_⟩
          have split :
              (↑(value :: values) : Multiset Real) = {value} + values :=
            (Multiset.singleton_add value values).symm
          rw [List.sum_cons, List.sum_cons, sum, split]
          exact add_add_add_comm column {value} columns.sum values

/-- So many rows more; what is left over is not added. -/
theorem AreTotals.eightTotals {rows : Nat} {columns : List (Multiset Real)}
    {totals values : List Real} (areTotals : AreTotals add zero columns totals)
    (eight : totals.length = 8) (enough : rows * 8 ≤ values.length) :
    ∃ longer, AreTotals add zero longer (eightTotals add totals rows values).1 ∧
      longer.sum + (eightTotals add totals rows values).2 =
        columns.sum + values := by
  induction rows generalizing columns totals values with
  | zero => exact ⟨columns, areTotals, rfl⟩
  | succ rows ih =>
      have row : (values.take 8).length = totals.length := by
        rw [List.length_take, eight]
        omega
      rcases areTotals.addEight row with ⟨taller, added, sum⟩
      have stillEight :
          (Loudness.addEight add totals (values.take 8)).length = 8 := by
        rw [Loudness.addEight, List.length_zipWith, row, eight, Nat.min_self]
      have stillEnough : rows * 8 ≤ (values.drop 8).length := by
        rw [List.length_drop]
        omega
      rcases ih added stillEight stillEnough with ⟨longer, totalled, sums⟩
      refine ⟨longer, totalled, sums.trans ?_⟩
      rw [sum, add_assoc, Multiset.coe_add, List.take_append_drop]

/-! ## Sums -/

theorem isTotal_sumFrom {values : Multiset Real} {start : Real}
    (isTotal : IsTotal add zero values start) (rest : List Real) :
    IsTotal add zero (values + rest) (sumFrom add start rest) := by
  rw [← sum_singles rest]
  exact (areTotals_singles rest).sumFrom isTotal

theorem isTotal_plainSum (values : List Real) :
    IsTotal add zero values (plainSum add zero values) := by
  rw [← sum_singles values]
  exact (areTotals_singles values).plainSum

theorem isTotal_blockSum {values : List Real} (enough : 8 ≤ values.length) :
    IsTotal add zero values (blockSum add zero values) := by
  have eight : (values.take 8).length = 8 := by
    rw [List.length_take]
    omega
  have rows : (values.length / 8 - 1) * 8 ≤ (values.drop 8).length := by
    rw [List.length_drop]
    omega
  rcases (areTotals_singles (values.take 8)).eightTotals eight rows with
    ⟨columns, totalled, sum⟩
  rw [sum_singles, Multiset.coe_add, List.take_append_drop] at sum
  rw [← sum, blockSum]
  exact isTotal_sumFrom totalled.joinEight _

/-- What is computed is a total, however long the list is. -/
theorem isTotal_pairwiseSum (values : List Real) :
    IsTotal add zero values (pairwiseSum add zero values) := by
  induction values using pairwiseSum.induct with
  | case1 values short =>
      rw [pairwiseSum, if_pos short]
      exact isTotal_plainSum values
  | case2 values notShort block =>
      rw [pairwiseSum, if_neg notShort, if_pos block]
      exact isTotal_blockSum (Nat.le_of_not_lt notShort)
  | case3 values notShort long firstIh secondIh =>
      rw [pairwiseSum, if_neg notShort, if_neg long]
      have halves : (values : Multiset Real) =
          values.take (half values.length) +
            values.drop (half values.length) := by
        rw [Multiset.coe_add, List.take_append_drop]
      rw [halves]
      exact firstIh.add secondIh

end SoundGrid.Loudness

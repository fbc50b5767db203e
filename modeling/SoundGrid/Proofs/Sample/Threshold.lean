import SoundGrid.Proofs.Number.Narrowing
import SoundGrid.Sample

/-!
# Samples and thresholds

A sample is compared with thresholds, which are doubles, in its own format.  If
it has no order with numbers, every threshold refuses it in the same way.  If
it has one, it never lies below a threshold and above another one that is not
smaller, although a threshold may have to be rounded to be compared.
-/

namespace SoundGrid

variable {Real Value : Type}

/-- How a value compares with thresholds. -/
inductive Arithmetic.IsPlaced [LE Real] [Arithmetic Real Value]
    (value : Value) : Prop where
  | refused (fault : Fault)
    (below : ∀ given, less value (setting given) = .error fault)
    (above : ∀ given, less (setting given) value = .error fault)
  | between (isBelow isAbove : Real → Bool)
      (below : ∀ given, less value (setting given) = .ok (isBelow given))
      (above : ∀ given, less (setting given) value = .ok (isAbove given))
      (apart : ∀ low high, low ≤ high → isBelow low = true →
        isAbove high = false)

namespace Number

/-- Nothing is below the lower of two ranks and above the upper one. -/
theorem compareRanks_apart {rank low high : Option EReal}
    (ordered : ∃ lower upper, low = some lower ∧ high = some upper ∧
      lower ≤ upper) (below : (compareRanks rank low == some .lt) = true) :
    (compareRanks high rank == some .lt) = false := by
  rcases ordered with ⟨lower, upper, rfl, rfl, ordered⟩
  cases rank with
  | none => rfl
  | some rank =>
      have belowLower : rank < lower :=
        compare_lt_iff_lt.mp (Option.some.inj (eq_of_beq below))
      have notAbove : ¬ upper < rank := not_lt.mpr (belowLower.le.trans ordered)
      apply beq_false_of_ne
      intro above
      exact notAbove (compare_lt_iff_lt.mp (Option.some.inj above))

end Number

namespace Sample

open Arithmetic (IsPlaced)

theorem isPlaced_of_number {sample : Sample} (number : Number)
    (below : ∀ threshold, less sample (ofDouble threshold) =
      .ok (number.compare? (.double threshold) == some .lt))
    (above : ∀ threshold, less (ofDouble threshold) sample =
      .ok ((Number.double threshold).compare? number == some .lt)) :
    IsPlaced sample := by
  refine .between _ _ below above fun low high ordered isBelow => ?_
  rw [Number.compare?_eq] at isBelow ⊢
  exact Number.compareRanks_apart (Number.Double.le_iff.mp ordered) isBelow

/-- Every sample is placed among thresholds, or is refused by all of them. -/
theorem isPlaced (sample : Sample) : IsPlaced sample := by
  cases sample with
  | plain given =>
      cases given with
      | bool truth =>
          exact isPlaced_of_number (.int truth.toInt) (fun _ => rfl)
            (fun _ => rfl)
      | int value =>
          exact isPlaced_of_number (.int value) (fun _ => rfl) (fun _ => rfl)
      | double value =>
          exact isPlaced_of_number (.double value) (fun _ => rfl) (fun _ => rfl)
      | undefined mark =>
          exact isPlaced_of_number (.double Number.Double.undefined)
            (fun _ => rfl) (fun _ => rfl)
      | null | text value | list items | record fields =>
          exact .refused (.misuse .operands) (fun _ => rfl) (fun _ => rfl)
  | byte value =>
      exact isPlaced_of_number (.int value.toNat) (fun _ => rfl) (fun _ => rfl)
  | wide value =>
      exact isPlaced_of_number (.double value) (fun _ => rfl) (fun _ => rfl)
  | single value =>
      refine .between
        (fun threshold =>
          value.toModel.compare (Number.Single.ofDouble threshold).toModel ==
            some .lt)
        (fun threshold =>
          (Number.Single.ofDouble threshold).toModel.compare value.toModel ==
            some .lt)
        (fun _ => rfl) (fun _ => rfl) fun low high ordered isBelow => ?_
      rw [Number.Single.compare_eq] at isBelow ⊢
      exact Number.compareRanks_apart
        (Number.Single.ofDouble_mono ordered) isBelow

end Sample

end SoundGrid

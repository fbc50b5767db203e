import Mathlib.Data.Nat.ModEq
import SoundGrid.Proofs.Grid.Hearing
import SoundGrid.Proofs.Grid.Lockstep

/-!
# Signals several times over

A grid brings every index into the signal, so it hears no difference between a
signal and several copies of it one after another.  What differs is how far the
ripple is said to have come, for that is kept below the length of the signal of
the last frame; but it differs by a multiple of the length of one copy.  This is
what a run preserves, with other numbers of copies in each frame.  Only the
level that draws an index from the whole signal has to be left out.
-/

namespace SoundGrid

/-! ## Copies of a signal -/

/-- A signal so many times over. -/
def repeated {Value : Type} (signal : Array Value) : Nat → Array Value
  | 0 => #[]
  | copies + 1 => signal ++ repeated signal copies

@[simp]
theorem size_repeated {Value : Type} (signal : Array Value) (copies : Nat) :
    (repeated signal copies).size = copies * signal.size := by
  induction copies with
  | zero => simp [repeated]
  | succ copies ih =>
      rw [repeated, Array.size_append, ih, Nat.succ_mul, Nat.add_comm]

theorem getElem?_repeated {Value : Type} {signal : Array Value}
    {copies position : Nat} (inside : position < copies * signal.size) :
    (repeated signal copies)[position]? = signal[position % signal.size]? := by
  induction copies generalizing position with
  | zero => simp at inside
  | succ copies ih =>
      rw [repeated, Array.getElem?_append]
      by_cases first : position < signal.size
      · rw [if_pos first, Nat.mod_eq_of_lt first]
      · rw [Nat.succ_mul] at inside
        rw [if_neg first, ih (by omega),
          Nat.mod_eq_sub_mod (Nat.le_of_not_lt first)]

variable {Real Value Source : Type}

namespace Grid

/--
Copies of a signal bring the same samples as one, to shifts that differ by whole
copies.
-/
theorem heardAt_repeated {signal : Array Value} (nonempty : 0 < signal.size)
    {copies : Nat} (copied : 0 < copies) {shift other : Nat}
    (congruent : other ≡ shift [MOD signal.size]) (index : Int) :
    heardAt (repeated signal copies) other index =
      heardAt signal shift index := by
  let length := copies * signal.size
  have positive : 0 < length := Nat.mul_pos copied nonempty
  obtain ⟨place, placed⟩ :
      ∃ place : Nat, (index + other) % (length : Int) = place :=
    Int.eq_ofNat_of_zero_le (Int.emod_nonneg _ (by omega))
  have inside : place < length := by
    have below := Int.emod_lt_of_pos (index + other) (b := length) (by omega)
    omega
  have reduced :
      (index + shift) % (signal.size : Int) = (place % signal.size : Nat) := by
    have divides :
        (signal.size : Int) ∣ length := ⟨copies, by simp [length, Int.mul_comm]⟩
    have remainders :
        (other : Int) % signal.size = (shift : Int) % signal.size := by
      exact_mod_cast congruent
    rw [Int.natCast_emod, ← placed, Int.emod_emod_of_dvd _ divides,
      ← Int.add_emod_emod, ← remainders, Int.add_emod_emod]
  have short : place % signal.size < signal.size := Nat.mod_lt place nonempty
  have inCopies : place < (repeated signal copies).size := by
    rw [size_repeated]
    exact inside
  have same :
      (repeated signal copies)[place] = signal[place % signal.size] := by
    have entries :
        (repeated signal copies)[place]? = signal[place % signal.size]? :=
      getElem?_repeated inside
    rw [Array.getElem?_eq_getElem inCopies,
      Array.getElem?_eq_getElem short] at entries
    exact Option.some.inj entries
  rw [heardAt, heardAt, size_repeated, reduced]
  change pick _ ((index + other) % (length : Int)) = _
  rw [placed, pick_natCast inCopies, pick_natCast short, same]

/-! ## One frame -/

/-- The grid with another offset of the ripple. -/
def withOffset (grid : Grid Real Value Source) (offset : Nat) :
    Grid Real Value Source :=
  { grid with offset }

/--
Two grids that agree in everything but whole lengths that the ripple has come.
-/
inductive DifferInOffset (length : Nat) (first : Grid Real Value Source) :
    Grid Real Value Source → Prop where
  | intro (offset : Nat) (congruent : offset ≡ first.offset [MOD length]) :
      DifferInOffset length first (first.withOffset offset)

section Frames

variable [Arithmetic Real Value] [RandomSource Source]
  {grid : Grid Real Value Source} {signal : Array Value} {copies offset : Nat}
  (standard : grid.rules.Perm Rule.Standard.rules)
  (level : grid.level ≠ .entropy) (nonempty : 0 < signal.size)
  (copied : 0 < copies) (congruent : offset ≡ grid.offset [MOD signal.size])

include standard level nonempty copied congruent

theorem mapCell_repeated (cells : Array (Cell Value)) (cell : Cell Value) :
    mapCell (grid.withOffset offset)
        ((grid.withOffset offset).frame (repeated signal copies)) cells cell =
      mapCell grid (grid.frame signal) cells cell := by
  have shownNonempty : 0 < (repeated signal copies).size := by
    rw [size_repeated]
    exact Nat.mul_pos copied nonempty
  have alike : HearAlike grid (grid.withOffset offset) signal
      (repeated signal copies) cell cell :=
    ⟨rfl, rfl, heardAt_repeated nonempty copied rfl cell.index,
      heardAt_repeated nonempty copied congruent cell.index⟩
  have maps (neighbours : Int) : (grid.withOffset offset).level.map cell
      ((grid.withOffset offset).frame (repeated signal copies)) neighbours =
        grid.level.map cell (grid.frame signal) neighbours :=
    alike.map_eq nonempty shownNonempty rfl rfl standard
      (fun same => absurd same level) (fun _ => rfl)
  rw [mapCell, mapCell]
  simp only [maps]
  rfl

theorem sweep_repeated :
    (grid.withOffset offset).sweep (repeated signal copies) =
      grid.sweep signal :=
  sweepLast_congr
    (mapCell_repeated standard level nonempty copied congruent) _ _ _

end Frames

/--
After a frame with copies of a signal the ripple still differs by whole lengths
of one.
-/
theorem DifferInOffset.advance [Arithmetic Real Value] [RandomSource Source]
    {first second : Grid Real Value Source} {signal : Array Value}
    (differ : DifferInOffset signal.size first second)
    (standard : first.rules.Perm Rule.Standard.rules)
    (level : first.level ≠ .entropy) {copies : Nat} (copied : 0 < copies)
    (now : Number) :
    (second.advance (repeated signal copies) now).1 =
        (first.advance signal now).1 ∧
      DifferInOffset signal.size (first.advance signal now).2
        (second.advance (repeated signal copies) now).2 := by
  rcases differ with ⟨offset, congruent⟩
  rcases Nat.eq_zero_or_pos signal.size with empty | nonempty
  · have emptyCopies : (repeated signal copies).size = 0 := by
      rw [size_repeated, empty, Nat.mul_zero]
    rw [Grid.advance, Grid.advance,
      if_pos (Array.isEmpty_iff_size_eq_zero.mpr empty),
      if_pos (Array.isEmpty_iff_size_eq_zero.mpr emptyCopies)]
    exact ⟨rfl, .intro offset congruent⟩
  · have notEmpty : ¬ signal.isEmpty = true := by
      rw [Array.isEmpty_iff_size_eq_zero]
      omega
    have notEmptyCopies : ¬ (repeated signal copies).isEmpty = true := by
      rw [Array.isEmpty_iff_size_eq_zero, size_repeated]
      exact (Nat.mul_pos copied nonempty).ne'
    rw [Grid.advance, Grid.advance, if_neg notEmpty, if_neg notEmptyCopies,
      sweep_repeated standard level nonempty copied congruent]
    rcases first.sweep signal with ⟨refused, cells, source⟩
    cases refused with
    | some fault => exact ⟨rfl, .intro offset congruent⟩
    | none =>
        refine ⟨rfl, .intro _ ?_⟩
        change (offset + first.settings.rules.rippleSpeed) %
          (repeated signal copies).size ≡
          (first.offset + first.settings.rules.rippleSpeed) %
            signal.size [MOD signal.size]
        calc
          (offset + first.settings.rules.rippleSpeed) %
            (repeated signal copies).size ≡
              offset + first.settings.rules.rippleSpeed [MOD signal.size] := by
            rw [size_repeated]
            exact Nat.mod_mul_left_mod _ copies signal.size
          _ ≡ first.offset + first.settings.rules.rippleSpeed
              [MOD signal.size] :=
            congruent.add_right _
          _ ≡ (first.offset + first.settings.rules.rippleSpeed) % signal.size
              [MOD signal.size] := (Nat.mod_modEq _ _).symm

/-! ## Other operations -/

section Operations

variable {grid : Grid Float Value Source} {offset : Nat}
  [Arithmetic Float Value]

theorem resize_withOffset (rows columns : Datum) :
    (grid.withOffset offset).resize rows columns =
      ((grid.resize rows columns).1,
        (grid.resize rows columns).2.withOffset offset) := by
  rw [resize, resize]
  cases checkDimensions rows columns with
  | error fault => rfl
  | ok _ =>
      cases extent rows with
      | error fault => rfl
      | ok newRows =>
          cases extent columns with
          | error fault => rfl
          | ok newColumns => rfl

variable [RandomSource Source]

theorem perform_withOffset {operation : Operation Value}
    (control : operation.IsControl) :
    (grid.withOffset offset).perform operation =
      ((grid.perform operation).1,
        (grid.perform operation).2.withOffset offset) := by
  change ((grid.withOffset offset).withControls grid).perform operation = _
  rw [perform_withControls control]
  rcases differInControls_perform grid control with
    ⟨level, settings, rules, source, left⟩
  rw [left]
  rfl

/-- An operation that is no frame does the same to both grids. -/
theorem DifferInOffset.perform {length : Nat}
    {first second : Grid Float Value Source}
    (differ : DifferInOffset length first second) {operation : Operation Value}
    (noFrame : ∀ signal now, operation ≠ .advance signal now) :
    (second.perform operation).1 = (first.perform operation).1 ∧
      DifferInOffset length (first.perform operation).2
        (second.perform operation).2 := by
  rcases differ with ⟨offset, congruent⟩
  have controlled (control : operation.IsControl) :
      ((first.withOffset offset).perform operation).1 =
          (first.perform operation).1 ∧
        DifferInOffset length (first.perform operation).2
          ((first.withOffset offset).perform operation).2 := by
    rw [perform_withOffset control]
    rcases differInControls_perform first control with
      ⟨level, settings, rules, source, left⟩
    refine ⟨rfl, .intro offset ?_⟩
    rw [left]
    exact congruent
  cases operation with
  | advance signal now => exact absurd rfl (noFrame signal now)
  | reset => exact ⟨rfl, .intro 0 rfl⟩
  | resize rows columns =>
      rw [Grid.perform, Grid.perform, resize_withOffset]
      refine ⟨rfl, .intro offset ?_⟩
      rcases first.exists_resize_eq rows columns with
        ⟨newRows, newColumns, cells, left⟩
      rw [left]
      exact congruent
  | setLevel | setParameter | assign | shuffleRules | draw =>
      exact controlled trivial

end Operations

/-! ## Runs -/

/--
The operations of two runs, one by one: a frame of a fixed length in the first
is one with copies of its signal in the second, and everything else is the same.
-/
inductive Operation.Repeats (length : Nat) :
    Operation Value → Operation Value → Prop where
  | frame (signal : Array Value) (now : Number) (copies : Nat)
    (size : signal.size = length)
    (copied : 0 < copies) :
      Repeats length (.advance signal now)
        (.advance (repeated signal copies) now)
  | other (operation : Operation Value)
    (noFrame : ∀ signal now, operation ≠ .advance signal now)
    (avoids : operation.Avoids .entropy) : Repeats length operation operation

variable {Source : Type} [RandomSource Source]
  {first second : Grid Float Sample Source}

/--
A grid sees only the periodic extension of its signals.  Two grids that are the
same but for whole lengths that the ripple has come stay so through every run in
which one of them gets copies of the signals of the other, and they give the
same answers.
-/
theorem repetition_unobservable {length : Nat}
    (differ : DifferInOffset length first second)
    (standard : first.rules.Perm Rule.Standard.rules)
    (level : first.level ≠ .entropy)
    {operations others : List (Operation Sample)}
    (pairs : List.Forall₂ (Operation.Repeats length) operations others) :
    second.answers others = first.answers operations ∧
      ∀ count, DifferInOffset length (first.run (operations.take count))
        (second.run (others.take count)) := by
  let Related (first second : Grid Float Sample Source) : Prop :=
    DifferInOffset length first second ∧ first.rules.Perm Rule.Standard.rules ∧
      first.level ≠ .entropy
  have steps (first second : Grid Float Sample Source)
      (operation other : Operation Sample) (related : Related first second)
      (pair : Operation.Repeats length operation other) :
      (second.perform other).1 = (first.perform operation).1 ∧
        Related (first.perform operation).2 (second.perform other).2 := by
    rcases related with ⟨differ, standard, level⟩
    have stillStandard := (perm_rules_perform first operation).trans standard
    cases pair with
    | frame signal now copies size copied =>
        subst size
        rcases differ.advance standard level copied now with ⟨answer, next⟩
        exact ⟨answer, next, stillStandard, level_perform_ne level trivial⟩
    | other _ noFrame avoids =>
        rcases differ.perform noFrame with ⟨answer, next⟩
        exact ⟨answer, next, stillStandard, level_perform_ne level avoids⟩
  rcases lockstep steps ⟨differ, standard, level⟩ (.of_pairs pairs first) with
    ⟨sameAnswers, related⟩
  exact ⟨sameAnswers, fun count => (related count).1⟩

/--
Two grids of four cells, of which one has heard two lengths of three samples
more: frames by the rules with other speeds, and one by the live neighbours.
-/
theorem repetition_unobservable_square :
    ∃ (first second : Grid Float Sample Random.Twister)
      (operations others : List (Operation Sample)),
      DifferInOffset 3 first second ∧ first.rules.Perm Rule.Standard.rules ∧
        first.level ≠ .entropy ∧
        List.Forall₂ (Operation.Repeats 3) operations others ∧
        second.offset ≠ first.offset ∧ others ≠ operations ∧
        second.answers others = first.answers operations ∧
        ∀ count, DifferInOffset 3 (first.run (operations.take count))
          (second.run (others.take count)) := by
  let first : Grid Float Sample Random.Twister :=
    { square with level := .rules, offset := 1 }
  let signal : Array Sample := #[.ofDouble 0.5, .single 0.9, .ofDouble 0.75]
  let another : Array Sample := #[.ofInt 0, .ofDouble 0.25, .single 0.9]
  let faster : Operation Sample :=
    .setParameter (.text "ripple_speed") (.int 4) .null
  let operations : List (Operation Sample) :=
    [.advance signal (.int 0), faster, .advance another (.int 1),
      .setLevel (.int 6), .advance signal (.int 2)]
  let others : List (Operation Sample) :=
    [.advance (repeated signal 2) (.int 0), faster,
      .advance (repeated another 1) (.int 1), .setLevel (.int 6),
      .advance (repeated signal 3) (.int 2)]
  have congruent : 7 ≡ 1 [MOD 3] := rfl
  have differ : DifferInOffset 3 first (first.withOffset 7) :=
    .intro 7 congruent
  have standard : first.rules.Perm Rule.Standard.rules := List.Perm.refl _
  have level : first.level ≠ .entropy := by decide
  have neighborhood : Level.ofDatum (.int 6) = .ok .neighborhood := rfl
  have pairs : List.Forall₂ (Operation.Repeats 3) operations others := by
    refine .cons (.frame signal _ 2 rfl (by decide))
      (.cons (.other _ (by simp [faster]) trivial)
        (.cons (.frame another _ 1 rfl (by decide))
          (.cons (.other _ (by simp) ?_)
            (.cons (.frame signal _ 3 rfl (by decide)) .nil))))
    simp [Operation.Avoids, neighborhood]
  have different : others ≠ operations := by
    intro same
    injection same with firstSame
    injection firstSame with signalsSame
    have sizes := congrArg Array.size signalsSame
    revert sizes
    decide
  exact ⟨first, first.withOffset 7, operations, others,
    differ, standard, level, pairs,
    by decide, different, repetition_unobservable differ standard level pairs⟩

end Grid

end SoundGrid

import SoundGrid.Proofs.Grid.Lockstep
import SoundGrid.Proofs.Rule.Order
import SoundGrid.Random.Twister

/-!
# Grids that differ in the order of their rules

Two grids that are the same but for the order of the standard rules stay so
through every run, and they give the same answers.  The thresholds must be
nested whenever a frame is mapped by the rules.  They may be changed in
between, also to values that are not nested, and the rules may be shuffled: the
shuffle draws the same from both sources.
-/

namespace SoundGrid.Grid

variable {Source : Type} [RandomSource Source]
  {first second : Grid Float Sample Source}

/-- Two grids that agree in everything but the order of their rules. -/
inductive DifferInOrder (first : Grid Float Sample Source) :
    Grid Float Sample Source → Prop where
  | intro (others : List (Rule Float Sample Source))
    (reordered : others.Perm first.rules) :
      DifferInOrder first (first.withRules others)

/--
The thresholds around the flip window are nested whenever rules map a frame.
-/
def NestedFor (grid : Grid Float Sample Source) : Operation Sample → Prop
  | .advance .. =>
      grid.level = .rules →
        grid.settings.rules.quietThreshold ≤ grid.settings.rules.flipMin ∧
          grid.settings.rules.flipMax ≤ grid.settings.rules.loudThreshold
  | _ => True

/-- The thresholds are nested for each operation of a run. -/
def StaysNested (grid : Grid Float Sample Source)
    (operations : List (Operation Sample)) : Prop :=
  grid.Throughout NestedFor operations

theorem nested_of_windowOpen {settings : Settings Float}
    (valid : settings.windowOpen = true)
    (quietWindow : settings.rules.quietThreshold ≤ settings.rules.flipMin)
    (windowLoud : settings.rules.flipMax ≤ settings.rules.loudThreshold) :
    settings.rules.Nested := by
  have notEmpty : ¬ settings.rules.flipMax < settings.rules.flipMin := by
    intro empty
    rw [Settings.windowOpen, decide_eq_true empty] at valid
    cases valid
  rcases Number.Double.le_iff.mp quietWindow with
    ⟨quiet, low, quietRank, lowRank, quietLow⟩
  rcases Number.Double.le_iff.mp windowLoud with
    ⟨high, loud, highRank, loudRank, highLoud⟩
  have lowHigh : low ≤ high := by
    by_contra crossed
    exact notEmpty (Number.Double.lt_iff.mpr
      ⟨high, low, highRank, lowRank, not_le.mp crossed⟩)
  have quietLoud :
      settings.rules.quietThreshold ≤ settings.rules.loudThreshold :=
    Number.Double.le_iff.mpr
      ⟨quiet, loud, quietRank, loudRank,
        (quietLow.trans lowHigh).trans highLoud⟩
  exact ⟨quietWindow, windowLoud, quietLoud⟩

/--
An operation answers the same, and the grids differ in the order of their rules
alone, as long as a frame cannot tell the two orders.
-/
theorem DifferInOrder.perform_of_advance (differ : DifferInOrder first second)
    {operation : Operation Sample}
    (advances : ∀ signal now, operation = .advance signal now →
      ∀ others : List (Rule Float Sample Source), others.Perm first.rules →
        (first.withRules others).advance signal now =
          ((first.advance signal now).1,
            (first.advance signal now).2.withRules others)) :
    (second.perform operation).1 = (first.perform operation).1 ∧
      DifferInOrder (first.perform operation).2
        (second.perform operation).2 := by
  cases differ with
  | intro others reordered =>
      have ignored (ignores : operation.IgnoresRules) :
          ((first.withRules others).perform operation).1 =
              (first.perform operation).1 ∧
            DifferInOrder (first.perform operation).2
              ((first.withRules others).perform operation).2 := by
        have kept := perm_rules_perform first operation
        rw [perform_withRules ignores]
        exact ⟨rfl, .intro others (reordered.trans kept.symm)⟩
      cases operation with
      | advance signal now =>
          change ((first.withRules others).advance signal now).1 = _ ∧
            DifferInOrder (first.advance signal now).2
              ((first.withRules others).advance signal now).2
          rw [advances signal now rfl others reordered]
          refine ⟨rfl, .intro others ?_⟩
          rw [(controls_advance first signal now).1]
          exact reordered
      | shuffleRules =>
          change _ ∧ DifferInOrder first.shuffleRules
            (first.withRules others).shuffleRules
          rw [shuffleRules_withRules reordered.length_eq]
          refine ⟨rfl, .intro _ ?_⟩
          have firstShuffled := Rule.perm_shuffle first.rules first.source
          exact ((Rule.perm_shuffle others first.source).trans reordered).trans
            firstShuffled.symm
      | setLevel | setParameter | assign | draw | resize | reset =>
          exact ignored trivial

/--
A frame cannot tell the order of the standard rules where the thresholds are
nested.
-/
theorem DifferInOrder.perform (differ : DifferInOrder first second)
    (standard : first.rules.Perm Rule.Standard.rules)
    (valid : first.settings.windowOpen = true) {operation : Operation Sample}
    (nested : first.NestedFor operation) :
    (second.perform operation).1 = (first.perform operation).1 ∧
      DifferInOrder (first.perform operation).2
        (second.perform operation).2 := by
  refine differ.perform_of_advance ?_
  rintro signal now rfl others reordered
  have same : first.FindSame others := by
    intro level reading settings
    rcases nested level with ⟨quietWindow, windowLoud⟩
    have apart := nested_of_windowOpen valid quietWindow windowLoud
    rw [← settings] at apart
    exact Rule.Standard.firstMatch_eq apart Sample.isPlaced
      (reordered.trans standard) standard
  exact advance_withRules same signal now

/--
With the standard rules and thresholds that stay nested the order of the rules
cannot be observed: after each operation of a run the grids still agree in
everything else, and they have given the same answers.
-/
theorem order_unobservable (differ : DifferInOrder first second)
    (standard : first.rules.Perm Rule.Standard.rules)
    (valid : first.settings.windowOpen = true)
    {operations : List (Operation Sample)}
    (nested : first.StaysNested operations) :
    second.answers operations = first.answers operations ∧
      ∀ count, DifferInOrder (first.run (operations.take count))
        (second.run (operations.take count)) := by
  let Related (first second : Grid Float Sample Source) : Prop :=
    DifferInOrder first second ∧ first.rules.Perm Rule.Standard.rules ∧
      first.settings.windowOpen = true
  have step (first second : Grid Float Sample Source)
      (operation : Operation Sample) (related : Related first second)
      (now : first.NestedFor operation) :
      (second.perform operation).1 = (first.perform operation).1 ∧
        Related (first.perform operation).2 (second.perform operation).2 := by
    rcases related with ⟨differ, standard, valid⟩
    rcases differ.perform standard valid now with ⟨answer, next⟩
    have stillStandard := (perm_rules_perform first operation).trans standard
    exact ⟨answer, next, stillStandard, windowOpen_perform valid operation⟩
  rcases lockstep_of_throughout step ⟨differ, standard, valid⟩ nested with
    ⟨sameAnswers, related⟩
  exact ⟨sameAnswers, fun count => (related count).1⟩

/--
Three cells in a row: a frame, a higher threshold for quiet samples, a shuffle
of the rules, and another frame.
-/
theorem order_unobservable_row :
    ∃ (first second : Grid Float Sample Random.Twister)
      (operations : List (Operation Sample)),
      DifferInOrder first second ∧ first.rules ≠ second.rules ∧
        first.rules.Perm Rule.Standard.rules ∧
        first.settings.windowOpen = true ∧
        first.StaysNested operations ∧
        second.answers operations = first.answers operations ∧
        ∀ count, DifferInOrder (first.run (operations.take count))
          (second.run (operations.take count)) := by
  let start : Grid Float Sample Random.Twister :=
    (empty .rules .standard Rule.Standard.rules .orthogonal
      (Random.Twister.ofSeed 0)).layOut 1 3
  let others : List (Rule Float Sample Random.Twister) :=
    [Rule.Standard.midFlip, Rule.Standard.loud, Rule.Standard.quiet]
  let signal : Array Sample :=
    #[.ofDouble 0.5, .single 0.9, .ofDouble 0.005, .ofInt 1]
  let key : Datum := .text (.ofString "rules")
  let name : Datum := .text (.ofString "quiet_threshold")
  let edited : Settings Float :=
    { Settings.standard with rules.quietThreshold := 0.25 }
  let operations : List (Operation Sample) :=
    [.advance signal (.int 0), .assign key name (.double 0.25), .shuffleRules,
      .advance signal (.int 1)]
  have reordered : others.Perm start.rules :=
    ((List.Perm.swap ..).trans ((List.Perm.swap ..).cons _))
  have differ : DifferInOrder start (start.withRules others) :=
    .intro others reordered
  have standard : start.rules.Perm Rule.Standard.rules := List.Perm.refl _
  have valid : start.settings.windowOpen = true := by decide +kernel
  have written :
      Settings.standard.write key name (.double 0.25) = .ok edited := rfl
  have later (grid : Grid Float Sample Random.Twister)
      (unchanged : grid.settings = Settings.standard) :
      grid.StaysNested
        [.assign key name (.double 0.25), .shuffleRules,
          .advance signal (.int 1)] := by
    have assigned : grid.assign key name (.double 0.25) =
        .ok { grid with settings := edited } := by
      rw [assign, unchanged, written]
      rfl
    have settings : ((grid.perform (.assign key name (.double 0.25))).2.perform
        .shuffleRules).2.settings = edited := by
      change (grid.attempt (grid.assign key name (.double 0.25))).2.settings =
        edited
      rw [assigned]
      rfl
    refine ⟨trivial, trivial, fun _ => ?_, trivial⟩
    rw [settings]
    exact ⟨by decide +kernel, by decide +kernel⟩
  have nested : start.StaysNested operations :=
    ⟨fun _ => ⟨by decide +kernel, by decide +kernel⟩,
      later _ (controls_advance start signal (.int 0)).2⟩
  have different : start.rules ≠ others := by
    intro equal
    have names := congrArg (List.map Rule.name) equal
    revert names
    decide
  exact ⟨start, start.withRules others, operations, differ, different, standard,
    valid, nested, order_unobservable differ standard valid nested⟩

end SoundGrid.Grid

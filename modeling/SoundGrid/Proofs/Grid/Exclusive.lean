import SoundGrid.Proofs.Grid.RuleOrder
import SoundGrid.Proofs.Rule.Exclusive

/-!
# Grids whose rules exclude each other

Rules of which at most one holds wherever they are searched have no order that
a grid could show.  A cell is mapped alike by every order of them, so the sweep
of a frame counts the same neighbours for the next cell, and whole runs agree.
Where two rules hold at once, their order is the choice between their actions.
-/

namespace SoundGrid.Grid

open Rule (Exclusive)

variable {Source : Type} [RandomSource Source]
  {first second grid : Grid Float Sample Source}

/-- The rules exclude each other wherever a frame has them searched. -/
def ExclusiveFor (grid : Grid Float Sample Source) : Operation Sample → Prop
  | .advance signal _ =>
      grid.level = .rules → ∀ reading, grid.Asks signal reading →
        Exclusive reading grid.rules
  | _ => True

/--
Rules that exclude each other everywhere do so all through a run, shuffled or
not.
-/
theorem throughout_exclusiveFor
    (exclusive : ∀ reading, Exclusive reading grid.rules)
    (operations : List (Operation Sample)) :
    grid.Throughout ExclusiveFor operations := by
  induction operations generalizing grid with
  | nil => trivial
  | cons operation rest ih =>
      constructor
      · cases operation with
        | advance signal now => exact fun _ reading _ => exclusive reading
        | setLevel | setParameter | assign | shuffleRules | draw | resize
          | reset => trivial
      · exact ih fun reading =>
          (exclusive reading).perm (perm_rules_perform grid operation)

theorem DifferInOrder.perform_of_exclusive (differ : DifferInOrder first second)
    {operation : Operation Sample} (exclusive : first.ExclusiveFor operation) :
    (second.perform operation).1 = (first.perform operation).1 ∧
      DifferInOrder (first.perform operation).2
        (second.perform operation).2 := by
  refine differ.perform_of_advance fun signal now advances others reordered =>
    ?_
  subst advances
  have same (level : first.level = .rules) (reading : Reading Float Sample)
      (asks : first.Asks signal reading) :
      Rule.firstMatch reading others = Rule.firstMatch reading first.rules :=
    (exclusive level reading asks).firstMatch_eq reordered
  exact advance_withRules_of_asked same now

/--
The order of rules that exclude each other changes neither a step nor a run.
Of two rules that both hold it decides whose action is applied.
-/
theorem order_decides_overlaps_only :
    (∀ (frame : Frame Float Sample Source) (cell : Cell Sample)
      (neighbours : Int) (rules others : List (Rule Float Sample Source)),
      others.Perm rules →
      (∀ reading, frame.reading cell neighbours = .ok reading →
        Exclusive reading rules) →
      Rule.stepIn frame others cell neighbours =
        Rule.stepIn frame rules cell neighbours) ∧
    (∀ (frame : Frame Float Sample Source) (cell : Cell Sample)
      (neighbours : Int) (reading : Reading Float Sample)
      (first second : Rule Float Sample Source) (source rest : Source),
      frame.reading cell neighbours = .ok reading →
      first.condition reading source = .ok true rest →
      second.condition reading source = .ok true rest →
      Rule.stepIn frame [first, second] cell neighbours source =
          first.action.apply cell frame.settings.rules rest ∧
        Rule.stepIn frame [second, first] cell neighbours source =
          second.action.apply cell frame.settings.rules rest ∧
        ((first.action.apply cell frame.settings.rules : Chance Source _) rest ≠
            second.action.apply cell frame.settings.rules rest →
          Rule.stepIn frame [first, second] cell neighbours source ≠
            Rule.stepIn frame [second, first] cell neighbours source)) ∧
    ∀ (first second : Grid Float Sample Source)
      (operations : List (Operation Sample)),
      DifferInOrder first second → first.Throughout ExclusiveFor operations →
      second.answers operations = first.answers operations ∧
        ∀ count, DifferInOrder (first.run (operations.take count))
          (second.run (operations.take count)) := by
  refine ⟨?steps, ?overlap, ?runs⟩
  case steps =>
    intro frame cell neighbours rules others reordered exclusive
    exact Rule.stepIn_eq_of_exclusive reordered exclusive
  case overlap =>
    intro frame cell neighbours reading first second source rest read firstHolds
      secondHolds
    rw [Rule.stepIn_cons_of_holds read firstHolds,
      Rule.stepIn_cons_of_holds read secondHolds]
    exact ⟨rfl, rfl, id⟩
  case runs =>
    intro first second operations differ exclusive
    exact lockstep_of_throughout
      (fun _ _ _ related holds =>
        DifferInOrder.perform_of_exclusive related holds)
      differ exclusive

/--
Three cells in a row, with a rule that never holds, one for cells without live
neighbours, and one for all others: frames with a shuffle between them.  A rule
that always holds overlaps with the second one.
-/
theorem order_decides_overlaps_only_row :
    ∃ (first second : Grid Float Sample Random.Twister) (signal : Array Sample)
      (cell : Cell Sample) (lone constant : Rule Float Sample Random.Twister)
      (operations : List (Operation Sample)),
      DifferInOrder first second ∧ first.rules ≠ second.rules ∧
      first.level = .rules ∧
        first.Throughout ExclusiveFor operations ∧
        Rule.stepIn (first.frame signal) second.rules cell 1 =
          Rule.stepIn (first.frame signal) first.rules cell 1 ∧
        Rule.stepIn (first.frame signal) [lone, constant] cell 0 first.source ≠
          Rule.stepIn (first.frame signal) [constant, lone] cell 0
            first.source ∧
        second.answers operations = first.answers operations ∧
        ∀ count, DifferInOrder (first.run (operations.take count))
          (second.run (operations.take count)) := by
  let alone : Formula := .compare .below .neighbours (.constant (.int 1))
  let lone : Rule Float Sample Random.Twister := alone.toRule "" .on
  let other : Rule Float Sample Random.Twister :=
    (Formula.not alone).toRule "" .decay
  let never : Rule Float Sample Random.Twister :=
    (Formula.constant .null).toRule "" .scatter
  let constant : Rule Float Sample Random.Twister :=
    (Formula.constant (.int 1)).toRule "" .off
  let start : Grid Float Sample Random.Twister :=
    (empty .rules .standard [never, lone, other] .orthogonal
      (Random.Twister.ofSeed 0)).layOut 1 3
  let others : List (Rule Float Sample Random.Twister) := [other, lone, never]
  let signal : Array Sample := #[.ofDouble 0.5, .single 0.9]
  let cell : Cell Sample := Cell.fresh (.ofDouble 0) 1 3
  let operations : List (Operation Sample) :=
    [.advance signal (.int 0), .shuffleRules, .advance signal (.int 1)]
  have reordered : others.Perm start.rules :=
    List.reverse_perm [never, lone, other]
  have differ : DifferInOrder start (start.withRules others) :=
    .intro others reordered
  have exclusive (reading : Reading Float Sample) :
      Exclusive reading start.rules := by
    have answered :
        alone.eval reading = .ok (compare reading.neighbours 1 == .lt) := rfl
    have pair := Rule.exclusive_not answered start.source "" "" .on .decay
    exact pair.cons_of_passes rfl start.source
  have different : start.rules ≠ others := by
    intro equal
    have actions := congrArg (List.map Rule.action) equal
    revert actions
    decide
  have throughout := throughout_exclusiveFor exclusive operations
  have agree :=
    order_decides_overlaps_only.1 (start.frame signal) cell 1 start.rules others
    reordered fun reading _ => exclusive reading
  have read : (start.frame signal).reading cell 0 =
      .ok ⟨cell, .view ⟨signal, 1, .single 0.9⟩, 0, Settings.standard.rules⟩ :=
    rfl
  have overlap :=
    order_decides_overlaps_only.2.1 (start.frame signal) cell 0 _ lone constant
    start.source start.source read rfl rfl
  have runs := order_decides_overlaps_only.2.2 start
    (start.withRules others) operations differ throughout
  refine ⟨start, start.withRules others, signal, cell, lone, constant,
    operations, differ, different, rfl, throughout, agree, overlap.2.2 ?_, runs⟩
  intro same
  have states := congrArg (fun
    | EStateM.Result.ok result _ => result.2
    | EStateM.Result.error _ _ => false) same
  cases states

end SoundGrid.Grid

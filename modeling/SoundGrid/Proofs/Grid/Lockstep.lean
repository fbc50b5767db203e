import SoundGrid.Proofs.Grid.OtherRules

/-!
# Two grids in lockstep

Two grids are compared over a run by a relation that every operation keeps.
What such comparisons share is gathered here.  A control reads and writes
nothing but the level, the settings, the rules and the source of a grid, so it
does the same to two grids that agree in these.  A level that no operation asks
for is never reached from another one.
-/

namespace SoundGrid.Grid

/-! ## Controls -/

section Controls

variable {Value Source : Type}

/--
The grid with the level, the settings, the rules and the source of another.
-/
def withControls (grid other : Grid Float Value Source) :
    Grid Float Value Source :=
  { grid with
    level := other.level
    settings := other.settings
    rules := other.rules
    source := other.source }

variable {grid other : Grid Float Value Source}

theorem attempt_withControls (result : Except Fault (Grid Float Value Source)) :
    (grid.withControls other).attempt (result.map grid.withControls) =
      ((other.attempt result).1,
        grid.withControls (other.attempt result).2) := by
  cases result with
  | ok next => rfl
  | error fault => rfl

theorem setLevel_withControls (level : Datum) :
    (grid.withControls other).setLevel level =
      (other.setLevel level).map grid.withControls := by
  rw [setLevel, setLevel]
  cases Level.ofDatum level with
  | ok level => rfl
  | error fault => rfl

theorem assign_withControls (key name given : Datum) :
    (grid.withControls other).assign key name given =
      (other.assign key name given).map grid.withControls := by
  rw [assign, assign]
  change (other.settings.write key name given).map _ = _
  cases other.settings.write key name given with
  | ok settings => rfl
  | error fault => rfl

theorem setParameter_withControls (name given level : Datum) :
    (grid.withControls other).setParameter name given level =
      (other.setParameter name given level).map grid.withControls := by
  have found :
      (grid.withControls other).levelOr level = other.levelOr level := by
    cases level <;> rfl
  rw [setParameter, setParameter, found]
  cases other.levelOr level with
  | ok level => exact assign_withControls _ name given
  | error fault => rfl

variable [Arithmetic Float Value] [RandomSource Source]

/--
What a control does depends on nothing else, and nothing else depends on it.
-/
theorem perform_withControls {operation : Operation Value}
    (control : operation.IsControl) :
    (grid.withControls other).perform operation =
      ((other.perform operation).1,
        grid.withControls (other.perform operation).2) := by
  cases operation with
  | advance => exact control.elim
  | resize => exact control.elim
  | reset => exact control.elim
  | setLevel level =>
      rw [perform, perform, setLevel_withControls, attempt_withControls]
  | setParameter name given level =>
      rw [perform, perform, setParameter_withControls, attempt_withControls]
  | assign key name given =>
      rw [perform, perform, assign_withControls, attempt_withControls]
  | shuffleRules => rfl
  | draw => rfl

end Controls

/-! ## Sweeps -/

section Sweeps

variable {Real Value Source : Type} [Arithmetic Real Value]
  [RandomSource Source] {first second : Grid Real Value Source}
  {frame shown : Frame Real Value Source}

/--
Cells that are mapped alike, up to a change that leaves values alone, are swept
alike up to that change.
-/
theorem sweepLast_map {change : Cell Value → Cell Value}
    (keeps : ∀ cell, (change cell).keepValue = change cell.keepValue)
    {size : Nat}
    (maps : ∀ (cells : Array (Cell Value)) (cell : Cell Value),
      cells.size = size →
      mapCell second shown (cells.map change) (change cell) =
        change <$> mapCell first frame cells cell)
    (remaining : Nat) {cells : Array (Cell Value)} (full : cells.size = size)
    (source : Source) :
    sweepLast second shown remaining (cells.map change) source =
      ((sweepLast first frame remaining cells source).1,
        (sweepLast first frame remaining cells source).2.1.map change,
        (sweepLast first frame remaining cells source).2.2) := by
  induction remaining generalizing cells source with
  | zero => rfl
  | succ remaining ih =>
      rw [sweepLast, sweepLast, Array.size_map, Array.getElem?_map]
      cases cells[cells.size - (remaining + 1)]? with
      | none => rfl
      | some cell =>
          have changed (computation : Chance Source (Cell Value)) :
              (change <$> computation) source =
                EStateM.map change computation source := rfl
          simp only [Option.map_some, keeps, ← Array.map_setIfInBounds]
          rw [maps _ _ (by rw [Array.size_setIfInBounds, full]), changed,
            EStateM.map]
          cases mapCell first frame _ cell.keepValue source with
          | error fault rest => rfl
          | ok mapped rest =>
              simp only [← Array.map_setIfInBounds]
              exact ih (by simpa using full) rest

end Sweeps

/-! ## Levels that are never reached -/

section Levels

variable {Value Source : Type}

/-- An operation that does not ask for a level. -/
def Operation.Avoids (level : Level) : Operation Value → Prop
  | .setLevel given => Level.ofDatum given ≠ .ok level
  | _ => True

theorem level_assign {grid next : Grid Float Value Source}
    {key name given : Datum}
    (assigned : grid.assign key name given = .ok next) :
    next.level = grid.level := by
  rcases map_eq_ok_iff.mp assigned with ⟨settings, -, rfl⟩
  rfl

theorem level_attempt {grid : Grid Float Value Source}
    {result : Except Fault (Grid Float Value Source)}
    (kept : ∀ next, result = .ok next → next.level = grid.level) :
    (grid.attempt result).2.level = grid.level := by
  rcases grid.attempt_cases result with
    ⟨next, returned, outcome⟩ | ⟨fault, -, outcome⟩
  · rw [outcome]
    exact kept next returned
  · rw [outcome]

variable [Arithmetic Float Value]

/-- A change of shape changes nothing but the shape and the cells. -/
theorem exists_resize_eq (grid : Grid Float Value Source)
    (rows columns : Datum) :
    ∃ newRows newColumns cells, (grid.resize rows columns).2 =
      { grid with rows := newRows, columns := newColumns, cells } := by
  rcases grid.resize_cases rows columns with
    ⟨fault, outcome⟩ | ⟨newRows, fault, -, -, -, outcome⟩ |
    ⟨newRows, newColumns, -, -, outcome⟩
  · exact ⟨grid.rows, grid.columns, grid.cells, by rw [outcome]⟩
  · exact ⟨newRows, grid.columns, grid.cells, by rw [outcome]⟩
  · exact ⟨newRows, newColumns, _, by rw [outcome]; rfl⟩

variable [RandomSource Source]

/-- A frame changes nothing but the cells, the ripple and the source. -/
theorem exists_advance_eq (grid : Grid Float Value Source)
    (signal : Array Value) (now : Number) :
    ∃ cells offset source, (grid.advance signal now).2 =
      { grid with cells, offset, source } := by
  rcases advance_cases grid signal now with
    ⟨-, outcome⟩ | ⟨cells, source, -, outcome⟩ |
    ⟨position, cell, cells, fault, rest, -, outcome⟩
  · exact ⟨grid.cells, grid.offset, grid.source, by rw [outcome]⟩
  · exact ⟨_, _, source, by rw [outcome]; rfl⟩
  · exact ⟨_, grid.offset, rest, by rw [outcome]⟩

/-- Only a request for a level leads to it. -/
theorem level_perform_ne {grid : Grid Float Value Source} {level : Level}
    (elsewhere : grid.level ≠ level) {operation : Operation Value}
    (avoids : operation.Avoids level) :
    (grid.perform operation).2.level ≠ level := by
  have kept (same : (grid.perform operation).2.level = grid.level) :
      (grid.perform operation).2.level ≠ level := same ▸ elsewhere
  cases operation with
  | setLevel given =>
      rw [perform, setLevel]
      cases asked : Level.ofDatum given with
      | error fault => exact elsewhere
      | ok reached =>
          exact fun same => avoids (asked.trans (congrArg Except.ok same))
  | advance signal now =>
      rcases grid.exists_advance_eq signal now with
        ⟨cells, offset, source, left⟩
      refine kept ?_
      rw [perform, left]
  | resize rows columns =>
      rcases grid.exists_resize_eq rows columns with
        ⟨newRows, newColumns, cells, left⟩
      refine kept ?_
      rw [perform, left]
  | assign key name given =>
      exact kept (level_attempt fun next assigned => level_assign assigned)
  | setParameter name given level =>
      refine kept (level_attempt fun next assigned => ?_)
      rcases bind_eq_ok_iff.mp assigned with ⟨level, -, assigned⟩
      exact level_assign assigned
  | shuffleRules | draw | reset => exact kept rfl

end Levels

/-! ## Runs -/

variable {Source : Type} [RandomSource Source]

/-- The answers to the operations of a run. -/
def answers (grid : Grid Float Sample Source) :
    List (Operation Sample) → List (Except Fault Unit)
  | [] => []
  | operation :: rest =>
      (grid.perform operation).1 :: answers (grid.perform operation).2 rest

/--
Two runs in step: something holds of each operation of the first one, the grid
that it finds, and the operation in its place in the second one.
-/
inductive InStep
    (holds : Grid Float Sample Source → Operation Sample →
      Operation Sample → Prop) :
    Grid Float Sample Source → List (Operation Sample) →
    List (Operation Sample) → Prop
  | nil (grid : Grid Float Sample Source) : InStep holds grid [] []
  | cons {grid : Grid Float Sample Source} {operation other : Operation Sample}
      {operations others : List (Operation Sample)}
      (now : holds grid operation other)
      (later : InStep holds (grid.perform operation).2 operations others) :
      InStep holds grid (operation :: operations) (other :: others)

/-- Runs of paired operations are in step from every grid on. -/
theorem InStep.of_pairs {paired : Operation Sample → Operation Sample → Prop}
    {operations others : List (Operation Sample)}
    (pairs : List.Forall₂ paired operations others)
    (grid : Grid Float Sample Source) :
    InStep (fun _ => paired) grid operations others := by
  induction pairs generalizing grid with
  | nil => exact .nil grid
  | cons pair _ ih => exact .cons pair (ih _)

/--
Something that holds of each operation of a run and the grid that it finds.
-/
def Throughout (holds : Grid Float Sample Source → Operation Sample → Prop)
    (grid : Grid Float Sample Source) : List (Operation Sample) → Prop
  | [] => True
  | operation :: rest =>
      holds grid operation ∧ Throughout holds (grid.perform operation).2 rest

/-- A run all through which something holds is in step with itself. -/
theorem InStep.of_throughout
    {holds : Grid Float Sample Source → Operation Sample → Prop}
    {grid : Grid Float Sample Source} {operations : List (Operation Sample)}
    (throughout : grid.Throughout holds operations) :
    InStep (fun grid operation other =>
      other = operation ∧ holds grid operation) grid
      operations operations := by
  induction operations generalizing grid with
  | nil => exact .nil grid
  | cons operation rest ih => exact .cons ⟨rfl, throughout.1⟩ (ih throughout.2)

/--
A relation that operations in step keep is kept by whole runs in step, and if
such operations give the same answers then so do the runs.
-/
theorem lockstep
    {relation : Grid Float Sample Source → Grid Float Sample Source → Prop}
    {holds : Grid Float Sample Source → Operation Sample →
      Operation Sample → Prop}
    (step : ∀ first second operation other, relation first second →
      holds first operation other →
        (second.perform other).1 = (first.perform operation).1 ∧
          relation (first.perform operation).2 (second.perform other).2)
    {first second : Grid Float Sample Source} (related : relation first second)
    {operations others : List (Operation Sample)}
    (inStep : InStep holds first operations others) :
    second.answers others = first.answers operations ∧
      ∀ count, relation (first.run (operations.take count))
        (second.run (others.take count)) := by
  induction inStep generalizing second with
  | nil grid =>
      refine ⟨rfl, fun count => ?_⟩
      rw [List.take_nil]
      exact related
  | @cons grid operation other operations others now _ ih =>
      rcases step grid second operation other related now with ⟨answer, next⟩
      rcases ih next with ⟨answersRest, relatedRest⟩
      constructor
      · rw [answers, answers, answer, answersRest]
      · intro count
        cases count with
        | zero => exact related
        | succ count => exact relatedRest count

/--
A relation that an operation keeps wherever a condition holds is kept by whole
runs all through which it holds, and such runs give the same answers.
-/
theorem lockstep_of_throughout
    {relation : Grid Float Sample Source → Grid Float Sample Source → Prop}
    {holds : Grid Float Sample Source → Operation Sample → Prop}
    (step : ∀ first second operation, relation first second →
      holds first operation →
      (second.perform operation).1 = (first.perform operation).1 ∧
        relation (first.perform operation).2 (second.perform operation).2)
    {first second : Grid Float Sample Source} (related : relation first second)
    {operations : List (Operation Sample)}
    (throughout : first.Throughout holds operations) :
    second.answers operations = first.answers operations ∧
      ∀ count, relation (first.run (operations.take count))
        (second.run (operations.take count)) := by
  refine lockstep ?_ related (InStep.of_throughout throughout)
  rintro first second operation _ related ⟨rfl, now⟩
  exact step first second _ related now

end SoundGrid.Grid

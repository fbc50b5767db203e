import SoundGrid.Grid.Advance
import SoundGrid.Grid.Control
import SoundGrid.Proofs.Fault

/-!
# Runs of a grid

Everything that changes a grid after its construction, gathered in one type,
so that a run of a grid is a list of operations.  Each operation answers with
nothing or with a fault, and it leaves a grid in both cases.

`Reachable` is what a construction and any run make when all dimensions that
they are given are integers.  Other operations may be given anything.
-/

namespace SoundGrid.Grid

/-- What can be done with a grid. -/
inductive Operation (Value : Type) where
  | advance (signal : Array Value) (now : Number)
  | setLevel (level : Datum)
  | setParameter (name given level : Datum)
  | assign (key name given : Datum)
  | shuffleRules
  | draw
  | resize (rows columns : Datum)
  | reset

variable {Real Value Source : Type}

/-- The outcome of what makes a new grid or leaves the old one as it is. -/
def attempt (grid : Grid Real Value Source) :
    Except Fault (Grid Real Value Source) →
      Outcome (Grid Real Value Source) Unit
  | .ok next => (.ok (), next)
  | .error fault => (.error fault, grid)

theorem attempt_cases (grid : Grid Real Value Source)
    (result : Except Fault (Grid Real Value Source)) :
    (∃ next, result = .ok next ∧ grid.attempt result = (.ok (), next)) ∨
      ∃ fault, result = .error fault ∧
        grid.attempt result = (.error fault, grid) := by
  cases result with
  | ok next => exact Or.inl ⟨next, rfl, rfl⟩
  | error fault => exact Or.inr ⟨fault, rfl, rfl⟩

/-- Two grids that agree in their shape and their cells. -/
def SameCells (first second : Grid Real Value Source) : Prop :=
  first.rows = second.rows ∧ first.columns = second.columns ∧
    first.cells = second.cells

/--
Grids that differ in nothing but the level, the settings, the rules and the
source.
-/
def DifferInControls (grid next : Grid Real Value Source) : Prop :=
  ∃ level settings rules source,
    next = { grid with level, settings, rules, source }

theorem DifferInControls.sameCells {grid next : Grid Real Value Source}
    (differ : DifferInControls grid next) : SameCells next grid := by
  rcases differ with ⟨level, settings, rules, source, rfl⟩
  exact ⟨rfl, rfl, rfl⟩

theorem differInControls_attempt {grid : Grid Real Value Source}
    {result : Except Fault (Grid Real Value Source)}
    (made : ∀ next, result = .ok next → DifferInControls grid next) :
    DifferInControls grid (grid.attempt result).2 := by
  rcases grid.attempt_cases result with
    ⟨next, returned, outcome⟩ | ⟨fault, -, outcome⟩
  · rw [outcome]
    exact made next returned
  · rw [outcome]
    exact ⟨_, _, _, _, rfl⟩

theorem differInControls_of_assign {grid next : Grid Float Value Source}
    {key name given : Datum}
    (assigned : grid.assign key name given = .ok next) :
    DifferInControls grid next := by
  rcases map_eq_ok_iff.mp assigned with ⟨settings, -, rfl⟩
  exact ⟨_, _, _, _, rfl⟩

variable [Arithmetic Float Value] [RandomSource Source]

/-- Carries out an operation. -/
def perform (grid : Grid Float Value Source) :
    Operation Value → Outcome (Grid Float Value Source) Unit
  | .advance signal now => grid.advance signal now
  | .setLevel level => grid.attempt (grid.setLevel level)
  | .setParameter name given level =>
      grid.attempt (grid.setParameter name given level)
  | .assign key name given => grid.attempt (grid.assign key name given)
  | .shuffleRules => (.ok (), grid.shuffleRules)
  | .draw => (.ok (), grid.draw.2)
  | .resize rows columns => grid.resize rows columns
  | .reset => (.ok (), grid.reset)

/-- The grid that a run leaves, whatever was refused on the way. -/
def run (grid : Grid Float Value Source) :
    List (Operation Value) → Grid Float Value Source
  | [] => grid
  | operation :: rest => run (grid.perform operation).2 rest

theorem run_append (grid : Grid Float Value Source)
    (first second : List (Operation Value)) :
    grid.run (first ++ second) = (grid.run first).run second := by
  induction first generalizing grid with
  | nil => rfl
  | cons operation rest ih => exact ih (grid.perform operation).2

/-- A number that is an integer, or a truth value that counts as one. -/
def IsInteger (given : Datum) : Prop :=
  ∃ value : Int, given.number? = some (.int value)

/-- An operation whose dimensions, if it has any, are integers. -/
def Operation.IsIntegral : Operation Value → Prop
  | .resize rows columns => IsInteger rows ∧ IsInteger columns
  | _ => True

/-- The grids that a construction and a run make out of integer dimensions. -/
inductive Reachable : Grid Float Value Source → Prop where
  | make {rows columns level connectivity : Datum} {settings : Settings Float}
      {rules : List (Rule Float Value Source)} {source : Source}
      {grid : Grid Float Value Source}
      (rowsInteger : IsInteger rows) (columnsInteger : IsInteger columns)
      (made : Grid.make rows columns level connectivity settings rules source =
        .ok grid) :
      Reachable grid
  | perform {grid : Grid Float Value Source} (before : Reachable grid)
      (operation : Operation Value) (integral : operation.IsIntegral) :
      Reachable (grid.perform operation).2

/-! ## What the operations leave alone -/

/-- An operation that neither advances the grid nor gives it new cells. -/
def Operation.IsControl : Operation Value → Prop
  | .advance .. | .resize .. | .reset => False
  | _ => True

/-- Controls change nothing else. -/
theorem differInControls_perform (grid : Grid Float Value Source)
    {operation : Operation Value} (control : operation.IsControl) :
    DifferInControls grid (grid.perform operation).2 := by
  cases operation with
  | advance signal now => exact control.elim
  | resize rows columns => exact control.elim
  | reset => exact control.elim
  | shuffleRules => exact ⟨_, _, _, _, rfl⟩
  | draw => exact ⟨_, _, _, _, rfl⟩
  | setLevel level =>
      apply differInControls_attempt
      intro next changed
      rcases map_eq_ok_iff.mp changed with ⟨level, -, rfl⟩
      exact ⟨_, _, _, _, rfl⟩
  | assign key name given =>
      exact differInControls_attempt fun next assigned =>
        differInControls_of_assign assigned
  | setParameter name given level =>
      apply differInControls_attempt
      intro next assigned
      rcases bind_eq_ok_iff.mp assigned with ⟨level, -, assigned⟩
      exact differInControls_of_assign assigned

/-- So they keep the cells and the shape of a grid. -/
theorem sameCells_perform (grid : Grid Float Value Source)
    {operation : Operation Value} (control : operation.IsControl) :
    SameCells (grid.perform operation).2 grid :=
  (differInControls_perform grid control).sameCells

end SoundGrid.Grid

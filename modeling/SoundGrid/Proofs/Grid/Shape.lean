import SoundGrid.Proofs.Grid.Hearing
import SoundGrid.Proofs.Grid.Lockstep

/-!
# Grids that differ in their shape

The same cells can be laid out in other rows and columns, and other places can
count as neighbours.  A frame does not show this as long as no level is active
that maps by live neighbours: what it makes of the grid in the new shape is what
it makes of the old one, laid out in the new shape.  At the level of the rules
the neighbours are counted all the same, with different results.  The count
never fails, because there is a cell for each place, and the standard rules do
not look at it.
-/

namespace SoundGrid

variable {Real Value Source : Type}

/-! ## Cells at other places -/

namespace Cell

/-- The cell with the place of its index among so many columns. -/
def moveTo (columns : Nat) (cell : Cell Value) : Cell Value :=
  { cell with
    row := cell.index.fdiv columns
    column := cell.index.fmod columns }

@[simp]
theorem moveTo_fresh (zero : Value) (index : Int) (columns others : Nat) :
    (fresh zero index columns).moveTo others = fresh zero index others := rfl

@[simp]
theorem moveTo_keepValue (columns : Nat) (cell : Cell Value) :
    (cell.moveTo columns).keepValue = cell.keepValue.moveTo columns := rfl

@[simp]
theorem moveTo_put (columns : Nat) (cell : Cell Value) (value : Value)
    (state : Bool) :
    (cell.moveTo columns).put value state =
      (cell.put value state).moveTo columns := rfl

@[simp]
theorem moveTo_settle (columns : Nat) (now : Number) (cell : Cell Value) :
    (cell.moveTo columns).settle now = (cell.settle now).moveTo columns := rfl

/-- Two cells that agree in everything but their places. -/
structure SameContent (first second : Cell Value) : Prop where
  index : second.index = first.index
  value : second.value = first.value
  state : second.state = first.state
  previousValue : second.previousValue = first.previousValue
  previousState : second.previousState = first.previousState
  lastOff : second.lastOff = first.lastOff

theorem sameContent_moveTo (columns : Nat) (cell : Cell Value) :
    SameContent cell (cell.moveTo columns) :=
  ⟨rfl, rfl, rfl, rfl, rfl, rfl⟩

end Cell

namespace Grid

/-- New cells of one shape are those of any other with as many places. -/
theorem newCells_moveTo (zero : Value)
    {rows columns otherRows otherColumns : Nat}
    (sameSize : rows * columns = otherRows * otherColumns) :
    newCells zero rows columns =
      (newCells zero otherRows otherColumns).map (Cell.moveTo columns) := by
  rw [newCells, newCells, sameSize, Array.map_map]
  rfl

/-! ## One frame -/

/-- The grid with its cells laid out in another shape. -/
def reshaped (grid : Grid Real Value Source) (rows columns : Nat)
    (connectivity : Connectivity) : Grid Real Value Source :=
  { grid with
    rows, columns, connectivity
    cells := grid.cells.map (Cell.moveTo columns) }

section Frames

/--
Where there is a cell for each place, neighbours are counted without fault.
-/
theorem exists_seenNeighbours (grid : Grid Real Value Source)
    {cells : Array (Cell Value)} (full : cells.size = grid.rows * grid.columns)
    (cell : Cell Value) :
    ∃ neighbours, seenNeighbours grid.level grid.connectivity grid.rows
      grid.columns cells cell =
      .ok neighbours := by
  rw [seenNeighbours]
  split
  · exact ⟨_, Neighbours.live_eq_card full grid.connectivity cell⟩
  · exact ⟨0, rfl⟩

variable [Arithmetic Real Value] [RandomSource Source]
  {grid : Grid Real Value Source} {rows columns : Nat}
  (connectivity : Connectivity) (standard : grid.rules.Perm Rule.Standard.rules)
  (level : grid.level ≠ .neighborhood)
  (sameSize : rows * columns = grid.rows * grid.columns)

include standard level sameSize

/-- A cell is mapped to the same cell at its other place. -/
theorem mapCell_reshaped {signal : Array Value} (nonempty : 0 < signal.size)
    {cells : Array (Cell Value)} (full : cells.size = grid.rows * grid.columns)
    (cell : Cell Value) :
    mapCell (grid.reshaped rows columns connectivity)
        ((grid.reshaped rows columns connectivity).frame signal)
        (cells.map (Cell.moveTo columns)) (cell.moveTo columns) =
      Cell.moveTo columns <$> mapCell grid (grid.frame signal) cells cell := by
  have fullReshaped :
      (cells.map (Cell.moveTo columns)).size = rows * columns := by
    rw [Array.size_map, full, sameSize]
  rcases grid.exists_seenNeighbours full cell with ⟨neighbours, counted⟩
  rcases (grid.reshaped rows columns connectivity).exists_seenNeighbours
    fullReshaped (cell.moveTo columns) with ⟨others, countedOthers⟩
  have alike : HearAlike grid (grid.reshaped rows columns connectivity) signal
      signal cell (cell.moveTo columns) := ⟨rfl, rfl, rfl, rfl⟩
  have maps :
      (grid.reshaped rows columns connectivity).level.map (cell.moveTo columns)
      ((grid.reshaped rows columns connectivity).frame signal) others =
        grid.level.map cell (grid.frame signal) neighbours :=
    alike.map_eq nonempty nonempty rfl rfl standard (fun _ => rfl) fun same =>
      absurd same level
  have lifted (count : Nat) :
      (Chance.lift (.ok count) : Chance Source Nat) = pure count := rfl
  rw [mapCell, mapCell, counted, countedOthers]
  simp only [lifted, pure_bind, map_bind, map_pure, maps, Cell.moveTo_put]

/--
A frame makes of the grid in another shape what it makes of the grid, in that
shape.
-/
theorem advance_reshaped (full : grid.cells.size = grid.rows * grid.columns)
    (signal : Array Value) (now : Number) :
    (grid.reshaped rows columns connectivity).advance signal now =
      ((grid.advance signal now).1,
        (grid.advance signal now).2.reshaped rows columns connectivity) := by
  by_cases empty : signal.isEmpty = true
  · rw [advance, advance, if_pos empty, if_pos empty]
  · have nonempty : 0 < signal.size := by
      have notZero : signal.size ≠ 0 := by simpa using empty
      omega
    have sweeps : (grid.reshaped rows columns connectivity).sweep signal =
        ((grid.sweep signal).1,
          (grid.sweep signal).2.1.map (Cell.moveTo columns),
          (grid.sweep signal).2.2) := by
      have sizes : (grid.reshaped rows columns connectivity).cells.size =
          grid.cells.size :=
        Array.size_map
      rw [sweep, sizes]
      exact sweepLast_map (Cell.moveTo_keepValue columns)
        (fun cells cell enough =>
          mapCell_reshaped connectivity standard level sameSize nonempty
            enough cell)
        grid.cells.size full grid.source
    have settles (cells : Array (Cell Value)) :
        (cells.map (Cell.moveTo columns)).map (Cell.settle now) =
          (cells.map (Cell.settle now)).map (Cell.moveTo columns) := by
      rw [Array.map_map, Array.map_map]
      rfl
    rw [advance, advance, if_neg empty, if_neg empty, sweeps]
    rcases grid.sweep signal with ⟨refused, cells, source⟩
    cases refused with
    | some fault => rfl
    | none =>
        dsimp only
        rw [settles]
        rfl

end Frames

/-! ## Other operations -/

section Operations

variable {grid : Grid Float Value Source} {rows columns : Nat}
  {connectivity : Connectivity} [Arithmetic Float Value]

theorem reset_reshaped (sameSize : rows * columns = grid.rows * grid.columns) :
    (grid.reshaped rows columns connectivity).reset =
      grid.reset.reshaped rows columns connectivity := by
  exact congrArg (fun cells =>
    { grid with rows, columns, connectivity, offset := 0, cells })
    (newCells_moveTo _ sameSize)

variable [RandomSource Source]

theorem perform_reshaped {operation : Operation Value}
    (control : operation.IsControl) :
    (grid.reshaped rows columns connectivity).perform operation =
      ((grid.perform operation).1,
        (grid.perform operation).2.reshaped rows columns connectivity) := by
  change ((grid.reshaped rows columns connectivity).withControls grid).perform
    operation = _
  rw [perform_withControls control]
  rcases differInControls_perform grid control with
    ⟨level, settings, rules, source, left⟩
  rw [left]
  rfl

/-- An operation that asks for no other shape. -/
def Operation.KeepsShape : Operation Value → Prop
  | .resize .. => False
  | _ => True

theorem shape_perform (grid : Grid Float Value Source)
    {operation : Operation Value} (keepsShape : operation.KeepsShape) :
    (grid.perform operation).2.rows = grid.rows ∧
      (grid.perform operation).2.columns = grid.columns := by
  have control (kept : operation.IsControl) :=
    (differInControls_perform grid kept).sameCells
  cases operation with
  | resize => exact keepsShape.elim
  | reset => exact ⟨rfl, rfl⟩
  | advance signal now =>
      rcases grid.exists_advance_eq signal now with
        ⟨cells, offset, source, left⟩
      rw [perform, left]
      exact ⟨rfl, rfl⟩
  | setLevel | setParameter | assign | shuffleRules | draw =>
      exact ⟨(control trivial).1, (control trivial).2.1⟩

end Operations

/-! ## Runs -/

/--
Grids that agree in all but their places: cell by cell by index, and in their
controls.
-/
structure AgreeByIndex (first second : Grid Real Value Source) : Prop where
  size : second.cells.size = first.cells.size
  cells :
    ∀ (index : Nat) (cell other : Cell Value), first.cells[index]? = some cell →
    second.cells[index]? = some other → Cell.SameContent cell other
  level : second.level = first.level
  settings : second.settings = first.settings
  rules : second.rules = first.rules
  offset : second.offset = first.offset
  source : second.source = first.source

theorem agreeByIndex_reshaped (grid : Grid Real Value Source)
    (rows columns : Nat) (connectivity : Connectivity) :
    AgreeByIndex grid (grid.reshaped rows columns connectivity) where
  size := Array.size_map
  cells index cell other found foundOther := by
    simp only [reshaped, Array.getElem?_map, found, Option.map_some,
      Option.some.injEq] at foundOther
    rw [← foundOther]
    exact Cell.sameContent_moveTo columns cell
  level := rfl
  settings := rfl
  rules := rfl
  offset := rfl
  source := rfl

section Runs

variable [Arithmetic Float Value] [RandomSource Source]

/--
Two shapes of one grid that has the standard rules and does not map by
neighbours.
-/
structure Twins (first second : Grid Float Value Source) : Prop where
  laidOut : first.LaidOut
  standard : first.rules.Perm Rule.Standard.rules
  level : first.level ≠ .neighborhood
  reshaped :
    ∃ rows columns connectivity, rows * columns = first.rows * first.columns ∧
    second = first.reshaped rows columns connectivity

variable {first second : Grid Float Value Source}

/--
Every operation answers the same to both, and they remain two shapes of one
grid.
-/
theorem Twins.perform (twins : Twins first second) {operation : Operation Value}
    (keepsShape : operation.KeepsShape)
    (avoids : operation.Avoids .neighborhood) :
    (second.perform operation).1 = (first.perform operation).1 ∧
      Twins (first.perform operation).2 (second.perform operation).2 := by
  rcases twins with
    ⟨laidOut, standard, level, rows, columns, connectivity, sameSize, rfl⟩
  have performs : (first.reshaped rows columns connectivity).perform operation =
      ((first.perform operation).1,
        (first.perform operation).2.reshaped rows columns connectivity) := by
    cases operation with
    | resize => exact keepsShape.elim
    | reset => exact congrArg (Prod.mk (Except.ok ())) (reset_reshaped sameSize)
    | advance signal now =>
        exact advance_reshaped connectivity standard level sameSize laidOut.size
          signal now
    | setLevel | setParameter | assign | shuffleRules | draw =>
        exact perform_reshaped trivial
  have integral : operation.IsIntegral := by
    cases operation with
    | resize => exact keepsShape.elim
    | _ => trivial
  rcases shape_perform first keepsShape with ⟨sameRows, sameColumns⟩
  rw [performs]
  refine ⟨rfl, laidOut.perform integral, ?_, level_perform_ne level avoids,
    rows, columns, connectivity, ?_, rfl⟩
  · exact (perm_rules_perform first operation).trans standard
  · rw [sameRows, sameColumns, sameSize]

/-- Two new grids with equally many cells are two shapes of one grid. -/
theorem twins_of_make {rows columns level connectivity : Datum}
    {otherRows otherColumns otherLevel otherConnectivity : Datum}
    {settings : Settings Float}
    {rules : List (Rule Float Value Source)} {source : Source}
    (made : make rows columns level connectivity settings rules source =
      .ok first)
    (otherMade : make otherRows otherColumns otherLevel otherConnectivity
      settings rules source = .ok second)
    (standard : rules.Perm Rule.Standard.rules)
    (sameSize : second.rows * second.columns = first.rows * first.columns)
    (sameLevel : second.level = first.level)
    (levelled : first.level ≠ .neighborhood) : Twins first second := by
  rcases resize_of_make made with ⟨chosen, neighbourhood, done⟩
  rcases resize_of_make otherMade with
    ⟨otherChosen, otherNeighbourhood, otherDone⟩
  rcases layOut_of_resize done with ⟨newRows, newColumns, rfl⟩
  rcases layOut_of_resize otherDone with ⟨otherNewRows, otherNewColumns, rfl⟩
  refine ⟨laidOut_layOut _ _ _, standard, levelled, otherNewRows,
    otherNewColumns, otherNeighbourhood, sameSize, ?_⟩
  change otherChosen = chosen at sameLevel
  change otherNewRows * otherNewColumns = newRows * newColumns at sameSize
  rw [layOut, newCells_moveTo _ sameSize, sameLevel]
  rfl

end Runs

section Sounds

variable {Source : Type} [RandomSource Source]
  {first second : Grid Float Sample Source}

/--
The shape of a grid cannot be observed where live neighbours are not mapped: two
new grids with equally many cells, the standard rules, the same settings and
equal sources give the same answers to a run, and after each of its operations
they agree by index.
-/
theorem shape_unobservable {rows columns level connectivity : Datum}
    {otherRows otherColumns otherLevel otherConnectivity : Datum}
    {settings : Settings Float}
    {rules : List (Rule Float Sample Source)} {source : Source}
    (made : make rows columns level connectivity settings rules source =
      .ok first)
    (otherMade : make otherRows otherColumns otherLevel otherConnectivity
      settings rules source = .ok second)
    (standard : rules.Perm Rule.Standard.rules)
    (sameSize : second.rows * second.columns = first.rows * first.columns)
    (sameLevel : second.level = first.level)
    (levelled : first.level ≠ .neighborhood)
    {operations : List (Operation Sample)}
    (allowed : ∀ operation ∈ operations,
      operation.KeepsShape ∧ operation.Avoids .neighborhood) :
    second.answers operations = first.answers operations ∧
      ∀ count, AgreeByIndex (first.run (operations.take count))
        (second.run (operations.take count)) := by
  have twins :=
    twins_of_make made otherMade standard sameSize sameLevel levelled
  have pairs : List.Forall₂ (fun operation other => other = operation ∧
      operation.KeepsShape ∧ operation.Avoids .neighborhood) operations
      operations :=
    List.forall₂_same.mpr fun operation member =>
      ⟨rfl, allowed operation member⟩
  have steps (first second : Grid Float Sample Source)
      (operation other : Operation Sample)
      (related : Twins first second)
      (pair : other = operation ∧ operation.KeepsShape ∧
        operation.Avoids .neighborhood) :
      (second.perform other).1 = (first.perform operation).1 ∧
        Twins (first.perform operation).2 (second.perform other).2 := by
    rcases pair with ⟨rfl, keepsShape, avoids⟩
    exact related.perform keepsShape avoids
  rcases lockstep steps twins (.of_pairs pairs first) with
    ⟨sameAnswers, related⟩
  refine ⟨sameAnswers, fun count => ?_⟩
  rcases (related count).reshaped with
    ⟨newRows, newColumns, neighbourhood, -, same⟩
  rw [same]
  exact agreeByIndex_reshaped _ newRows newColumns neighbourhood

/--
Four cells in a row and in a square: a frame by the rules, a higher threshold,
a shuffle, a frame that chooses samples at random, and a reset.
-/
theorem shape_unobservable_square :
    ∃ (first second : Grid Float Sample Random.Twister)
      (operations : List (Operation Sample)),
      make (.int 1) (.int 4) (.int 5) (.int 4) Settings.standard
          Rule.Standard.rules (Random.Twister.ofSeed 0) = .ok first ∧
        make (.int 2) (.int 2) (.int 5) (.int 8) Settings.standard
          Rule.Standard.rules (Random.Twister.ofSeed 0) = .ok second ∧
        second.rows ≠ first.rows ∧
        second.rows * second.columns = first.rows * first.columns ∧
        second.level = first.level ∧ first.level ≠ .neighborhood ∧
        (∀ operation ∈ operations, operation.KeepsShape ∧
          operation.Avoids .neighborhood) ∧
        second.answers operations = first.answers operations ∧
        ∀ count, AgreeByIndex (first.run (operations.take count))
          (second.run (operations.take count)) := by
  let row : Grid Float Sample Random.Twister :=
    (empty .rules Settings.standard Rule.Standard.rules .orthogonal
      (Random.Twister.ofSeed 0)).layOut 1 4
  let square : Grid Float Sample Random.Twister :=
    (empty .rules Settings.standard Rule.Standard.rules .diagonal
      (Random.Twister.ofSeed 0)).layOut 2 2
  let signal : Array Sample := #[.ofDouble 0.5, .single 0.9, .ofDouble 0.75]
  let operations : List (Operation Sample) :=
    [.advance signal (.int 0),
      .setParameter (.text "loud_threshold") (.double 0.8) .null,
      .shuffleRules, .advance signal (.int 1), .setLevel (.int 4),
      .advance signal (.int 2), .reset]
  have made : make (.int 1) (.int 4) (.int 5)
      (.int 4) Settings.standard Rule.Standard.rules
      (Random.Twister.ofSeed 0) = .ok row := rfl
  have otherMade : make (.int 2) (.int 2) (.int 5) (.int 8) Settings.standard
      Rule.Standard.rules (Random.Twister.ofSeed 0) = .ok square := rfl
  have entropy : Level.ofDatum (.int 4) = .ok .entropy := rfl
  have allowed : ∀ operation ∈ operations,
      operation.KeepsShape ∧ operation.Avoids .neighborhood := by
    simp [operations, Operation.KeepsShape, Operation.Avoids, entropy]
  have levelled : row.level ≠ .neighborhood := by decide
  exact ⟨row, square, operations, made, otherMade, by decide, rfl, rfl,
    levelled, allowed, shape_unobservable made otherMade
      (List.Perm.refl _) rfl rfl levelled allowed⟩

end Sounds

end Grid

end SoundGrid

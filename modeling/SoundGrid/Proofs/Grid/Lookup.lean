import SoundGrid.Proofs.Grid.Call
import SoundGrid.Proofs.Grid.IndexOrder

/-!
# Finding cells by their places

Every grid that is made out of integer dimensions is a full rectangle: its
cells stand row by row, and every cell knows its own row and column.  So a row
and a column below the bounds belong to one cell, which a look-up returns, and
a look-up with any other integers is refused.
-/

namespace SoundGrid.Number

/-- Integers are compared exactly. -/
theorem isAtMost_int (first second : Int) :
    isAtMost (.int first) (.int second) = decide (first ≤ second) := by
  change (compare first second).isLE = _
  rw [Bool.eq_iff_iff, decide_eq_true_iff, Int.isLE_compare]

theorem isBelow_int (first second : Int) :
    isBelow (.int first) (.int second) = decide (first < second) := by
  change (some (compare first second) == some .lt) = _
  rw [Bool.eq_iff_iff, decide_eq_true_iff, beq_iff_eq, Option.some.injEq,
    Int.compare_eq_lt]

end SoundGrid.Number

namespace SoundGrid.Grid

/-! ## Integer arguments -/

section Integers

variable {Real Value Source : Type}

theorem isWithin_of_int {given : Datum} {value : Int}
    (number : given.number? = some (.int value)) (bound : Nat) :
    isWithin given bound = .ok (decide (0 ≤ value ∧ value < bound)) := by
  simp only [isWithin, number, Number.isAtMost_int, Number.isBelow_int,
    Bool.decide_and]

/-- Whether a grid has a place with a row and a column. -/
def Covers (grid : Grid Real Value Source) (row column : Int) : Prop :=
  (0 ≤ row ∧ row < grid.rows) ∧ 0 ≤ column ∧ column < grid.columns

section Look

variable {grid : Grid Real Value Source} {givenRow givenColumn : Datum}
  {row column : Int} (rowNumber : givenRow.number? = some (.int row))
  (columnNumber : givenColumn.number? = some (.int column))

include rowNumber columnNumber

/-- For a place of the grid a look-up takes the cell at its position. -/
theorem cellAt_of_covers (covered : grid.Covers row column) :
    grid.cellAt givenRow givenColumn =
      pick grid.cells (row * grid.columns + column) := by
  rcases covered with ⟨rowInside, columnInside⟩
  rw [cellAt, isWithin_of_int rowNumber, isWithin_of_int columnNumber,
    rowNumber, columnNumber, decide_eq_true rowInside,
    decide_eq_true columnInside]
  rfl

theorem cellAt_of_not_covers (outside : ¬ grid.Covers row column) :
    grid.cellAt givenRow givenColumn =
      .error (.rejected
        (.cellOutside givenRow givenColumn grid.rows grid.columns)) := by
  rw [cellAt, isWithin_of_int rowNumber, isWithin_of_int columnNumber]
  by_cases rowInside : 0 ≤ row ∧ row < grid.rows
  · have columnOutside : ¬ (0 ≤ column ∧ column < grid.columns) :=
      fun columnInside => outside ⟨rowInside, columnInside⟩
    rw [decide_eq_true rowInside, decide_eq_false columnOutside]
    rfl
  · rw [decide_eq_false rowInside]
    rfl

end Look

theorem isBelowZero_of_int {given : Datum} {value : Int}
    (number : given.number? = some (.int value)) :
    isBelowZero given = .ok (decide (value < 0)) := by
  have low : Number.isBelow (.int value) (.int 0) = decide (value < 0) := by
    change (some (compare value (0 : Int)) == some .lt) = _
    rw [Bool.eq_iff_iff, decide_eq_true_iff, beq_iff_eq, Option.some.injEq,
      Int.compare_eq_lt]
  simp only [isBelowZero, number, low]

theorem extent_of_int {given : Datum} {value : Int}
    (number : given.number? = some (.int value)) :
    extent given = .ok value.toNat := by
  simp [extent, number, Number.whole, Except.map]

/--
Integer dimensions are taken as they are, or refused when one is below zero.
-/
theorem resize_of_int [Arithmetic Real Value] (grid : Grid Real Value Source)
    {givenRows givenColumns : Datum} {rows columns : Int}
    (rowsNumber : givenRows.number? = some (.int rows))
    (columnsNumber : givenColumns.number? = some (.int columns)) :
    grid.resize givenRows givenColumns =
      if rows < 0 ∨ columns < 0 then
        (.error (.rejected (.dimensions givenRows givenColumns)), grid)
      else
        (.ok (), grid.layOut rows.toNat columns.toNat) := by
  rw [resize, checkDimensions, isBelowZero_of_int rowsNumber, isBelowZero_of_int
    columnsNumber, extent_of_int rowsNumber, extent_of_int columnsNumber]
  by_cases rowsBelow : rows < 0
  · rw [if_pos (Or.inl rowsBelow), decide_eq_true rowsBelow]
    rfl
  · by_cases columnsBelow : columns < 0
    · rw [if_pos (Or.inr columnsBelow), decide_eq_false rowsBelow,
        decide_eq_true columnsBelow]
      rfl
    · rw [if_neg (by omega), decide_eq_false rowsBelow,
        decide_eq_false columnsBelow]
      rfl

end Integers

/-! ## One cell for each place -/

section Places

variable {Real Value Source : Type} {grid : Grid Real Value Source}

/-- The only cell of a grid with a row and a column. -/
def IsOnlyCellAt (grid : Grid Real Value Source) (row column : Int)
    (cell : Cell Value) : Prop :=
  cell.row = row ∧ cell.column = column ∧
    ∃ position : Nat, grid.cells[position]? = some cell ∧
      ∀ (other : Nat) (otherCell : Cell Value),
        grid.cells[other]? = some otherCell →
        otherCell.row = row → otherCell.column = column → other = position

theorem LaidOut.covers (laidOut : grid.LaidOut) {position : Nat}
    {cell : Cell Value} (found : grid.cells[position]? = some cell) :
    grid.Covers cell.row cell.column := by
  have inArray : position < grid.rows * grid.columns := by
    rw [← laidOut.size]
    exact (Array.getElem?_eq_some_iff.mp found).1
  have place := laidOut.places position cell found
  rcases Neighbours.position_of_lt inArray with ⟨rowInside, columnInside, -⟩
  rw [Covers, place.row, place.column]
  exact ⟨⟨Int.natCast_nonneg _, Int.ofNat_lt.mpr rowInside⟩,
    Int.natCast_nonneg _, Int.ofNat_lt.mpr columnInside⟩

/-- The position of a cell can be computed from its row and its column. -/
theorem LaidOut.position_eq (laidOut : grid.LaidOut) {position : Nat}
    {cell : Cell Value} (found : grid.cells[position]? = some cell)
    {row column : Nat} (sameRow : cell.row = row)
    (sameColumn : cell.column = column) :
    position = row * grid.columns + column := by
  have inArray : position < grid.rows * grid.columns := by
    rw [← laidOut.size]
    exact (Array.getElem?_eq_some_iff.mp found).1
  have place := laidOut.places position cell found
  have rowEqual : position / grid.columns = row := by
    have := place.row
    omega
  have columnEqual : position % grid.columns = column := by
    have := place.column
    omega
  rcases Neighbours.position_of_lt inArray with ⟨-, -, split⟩
  rw [← split, rowEqual, columnEqual]

/-- Inside the bounds the position of a place holds its only cell. -/
theorem LaidOut.pick_eq_ok (laidOut : grid.LaidOut) {row column : Nat}
    (rowInside : row < grid.rows) (columnInside : column < grid.columns) :
    ∃ cell, pick grid.cells ((row : Int) * grid.columns + column) = .ok cell ∧
      grid.IsOnlyCellAt row column cell := by
  have inArray : row * grid.columns + column < grid.cells.size := by
    rw [laidOut.size]
    exact Neighbours.positionOf_lt rowInside columnInside
  have found : grid.cells[row * grid.columns + column]? =
      some grid.cells[row * grid.columns + column] :=
    Array.getElem?_eq_getElem inArray
  have place := laidOut.places _ _ found
  have leadsBack : placeOf grid.columns (row * grid.columns + column) =
      ((row : Int), (column : Int)) := Neighbours.placeOf_position columnInside
  rw [placeOf, Prod.mk.injEq] at leadsBack
  refine ⟨grid.cells[row * grid.columns + column], ?_, ?_, ?_, _, found, ?_⟩
  · rw [← Int.natCast_mul, ← Int.natCast_add]
    exact pick_natCast inArray
  · exact place.row.trans leadsBack.1
  · exact place.column.trans leadsBack.2
  · intro other otherCell otherFound sameRow sameColumn
    exact laidOut.position_eq otherFound sameRow sameColumn

end Places

/-! ## Reachable grids -/

variable {Value Source : Type} [Arithmetic Float Value] [RandomSource Source]

theorem Reachable.run {grid : Grid Float Value Source}
    (reachable : Reachable grid) {operations : List (Operation Value)}
    (integral : ∀ operation ∈ operations, operation.IsIntegral) :
    Reachable (grid.run operations) := by
  induction operations generalizing grid with
  | nil => exact reachable
  | cons operation rest ih =>
      have first : operation.IsIntegral :=
        integral operation (List.mem_cons_self ..)
      exact ih (reachable.perform operation first)
        fun other later => integral other (List.mem_cons_of_mem _ later)

/--
A grid that is made out of integer dimensions is a rectangle of rows and
columns in which every cell knows its place, and cells are found by that.
Dimensions are taken over exactly when neither is below zero, and to place new
cells nothing is ever divided by zero.
-/
theorem cells_found_of_reachable {grid : Grid Float Value Source}
    (reachable : Reachable grid) :
    grid.LaidOut ∧
      (∀ (position : Nat) (cell : Cell Value),
        grid.cells[position]? = some cell → grid.Covers cell.row cell.column) ∧
      placeCells (Arithmetic.zero : Value) grid.rows grid.columns =
        .ok (newCells Arithmetic.zero grid.rows grid.columns) ∧
      (∀ (givenRows givenColumns : Datum) (rows columns : Int),
        givenRows.number? = some (.int rows) →
        givenColumns.number? = some (.int columns) →
        if rows < 0 ∨ columns < 0 then
          ∃ fault, grid.resize givenRows givenColumns = (.error fault, grid)
        else
          ∃ after, grid.resize givenRows givenColumns = (.ok (), after) ∧
            (after.rows : Int) = rows ∧ (after.columns : Int) = columns) ∧
      ∀ (givenRow givenColumn : Datum) (row column : Int),
        givenRow.number? = some (.int row) →
        givenColumn.number? = some (.int column) →
        (grid.Covers row column →
          ∃ cell, grid.cellAt givenRow givenColumn = .ok cell ∧
            grid.IsOnlyCellAt row column cell) ∧
        (¬ grid.Covers row column →
          ∃ fault, grid.cellAt givenRow givenColumn = .error fault ∧
            fault.category = .index) := by
  have laidOut := reachable.laidOut
  refine ⟨laidOut, fun position cell found => laidOut.covers found,
    placeCells_eq _ _ _, ?_, ?_⟩
  · intro givenRows givenColumns rows columns rowsNumber columnsNumber
    rw [grid.resize_of_int rowsNumber columnsNumber]
    by_cases below : rows < 0 ∨ columns < 0
    · rw [if_pos below, if_pos below]
      exact ⟨_, rfl⟩
    · rw [if_neg below, if_neg below]
      exact ⟨_, rfl, Int.toNat_of_nonneg (by omega),
        Int.toNat_of_nonneg (by omega)⟩
  · intro givenRow givenColumn row column rowNumber columnNumber
    constructor
    · intro covered
      rw [cellAt_of_covers rowNumber columnNumber covered]
      rcases covered with
        ⟨⟨rowNotBelow, rowInside⟩, columnNotBelow, columnInside⟩
      obtain ⟨down, rfl⟩ := Int.eq_ofNat_of_zero_le rowNotBelow
      obtain ⟨right, rfl⟩ := Int.eq_ofNat_of_zero_le columnNotBelow
      exact laidOut.pick_eq_ok (Int.ofNat_lt.mp rowInside)
        (Int.ofNat_lt.mp columnInside)
    · intro outside
      exact ⟨_, cellAt_of_not_covers rowNumber columnNumber outside, rfl⟩

/--
The square is refused a shape with a negative side, is given one with three
columns in the only row, and breaks off a frame.  The last column is found
then, and the old second row is not.
-/
theorem cells_found_of_reachable_square :
    ∃ operations : List (Operation Sample),
      Reachable (square.run operations) ∧
        (square.run operations).Covers 0 2 ∧
        ¬ (square.run operations).Covers 1 0 ∧
        (∃ cell, (square.run operations).cellAt (.int 0) (.int 2) = .ok cell ∧
          (square.run operations).IsOnlyCellAt 0 2 cell) ∧
        ∃ fault, (square.run operations).cellAt (.int 1) (.bool false) =
          .error fault ∧ fault.category = .index := by
  let operations : List (Operation Sample) :=
    [.resize (.int (-1)) (.int 3), .resize (.bool true) (.int 3),
      .advance #[.ofDouble 0.5, .plain (.text "x")] (.int 0)]
  have reachable : Reachable (square.run operations) := by
    apply reachable_square.run
    intro operation listed
    simp only [operations, List.mem_cons, List.not_mem_nil, or_false] at listed
    rcases listed with rfl | rfl | rfl
    · exact ⟨⟨-1, rfl⟩, ⟨3, rfl⟩⟩
    · exact ⟨⟨1, rfl⟩, ⟨3, rfl⟩⟩
    · trivial
  have rows : (square.run operations).rows = 1 := by decide +kernel
  have columns : (square.run operations).columns = 3 := by decide +kernel
  have covered : (square.run operations).Covers 0 2 := by
    rw [Covers, rows, columns]
    omega
  have outside : ¬ (square.run operations).Covers 1 0 := by
    rw [Covers, rows]
    omega
  have looked := (cells_found_of_reachable reachable).2.2.2.2
  exact ⟨operations, reachable, covered, outside,
    (looked (.int 0) (.int 2) 0 2 rfl rfl).1 covered,
    (looked (.int 1) (.bool false) 1 0 rfl rfl).2 outside⟩

end SoundGrid.Grid

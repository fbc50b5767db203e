import SoundGrid.Proofs.Grid.Operation
import SoundGrid.Proofs.Grid.Sweep

/-!
# The layout of a grid

A grid is laid out when it has one cell for each place of its rectangle, row
by row, and every cell knows its own place.  New cells are laid out, a sweep
changes no place, and controls do not touch cells, so every grid that is made
out of integer dimensions is laid out after every run.
-/

namespace SoundGrid

variable {Real Value Source : Type}

/-- A cell that knows its position among rows of so many columns. -/
structure Cell.AtPlace (cell : Cell Value) (position columns : Nat) : Prop where
  index : cell.index = position
  row : cell.row = (position / columns : Nat)
  column : cell.column = (position % columns : Nat)

/-- A new cell knows its position. -/
theorem Cell.atPlace_fresh (zero : Value) (position columns : Nat) :
    (Cell.fresh zero position columns).AtPlace position columns where
  index := rfl
  row := by simp [Cell.fresh, Int.fdiv_eq_ediv]
  column := by simp [Cell.fresh, Int.fmod_eq_emod]

namespace Grid

/-- Every position of the array holds the cell of its place. -/
structure LaidOut (grid : Grid Real Value Source) : Prop where
  size : grid.cells.size = grid.rows * grid.columns
  places :
    ∀ (position : Nat) (cell : Cell Value), grid.cells[position]? = some cell →
    cell.AtPlace position grid.columns

/-- A layout depends on the shape and on the places of the cells only. -/
theorem LaidOut.of_cellwise {old new : Grid Real Value Source}
    {relation : Cell Value → Cell Value → Prop} (laidOut : old.LaidOut)
    (rows : new.rows = old.rows) (columns : new.columns = old.columns)
    (cells : Cellwise relation old.cells new.cells)
    (places : ∀ earlier later, relation earlier later →
      later.index = earlier.index ∧ later.row = earlier.row ∧
      later.column = earlier.column) : new.LaidOut where
  size := by rw [cells.1, rows, columns, laidOut.size]
  places position later found := by
    rcases cells.2 position later found with ⟨earlier, foundEarlier, related⟩
    rcases places earlier later related with ⟨sameIndex, sameRow, sameColumn⟩
    have place := laidOut.places position earlier foundEarlier
    rw [columns]
    exact ⟨sameIndex.trans place.index, sameRow.trans place.row,
      sameColumn.trans place.column⟩

theorem LaidOut.of_sameCells {old new : Grid Real Value Source}
    (laidOut : old.LaidOut) (same : SameCells new old) : new.LaidOut := by
  rcases same with ⟨rows, columns, cells⟩
  refine ⟨by rw [rows, columns, cells, laidOut.size], ?_⟩
  rw [cells, columns]
  exact laidOut.places

variable [Arithmetic Real Value]

/-- New cells are laid out. -/
theorem laidOut_layOut (grid : Grid Real Value Source) (rows columns : Nat) :
    (grid.layOut rows columns).LaidOut where
  size := by simp [layOut, newCells]
  places position cell found := by
    simp only [layOut, newCells, Array.getElem?_map, Array.getElem?_range,
      Option.map_eq_some_iff] at found
    rcases found with ⟨taken, inside, rfl⟩
    split at inside
    · cases inside
      exact Cell.atPlace_fresh _ _ _
    · cases inside

theorem laidOut_reset (grid : Grid Real Value Source) : grid.reset.LaidOut :=
  laidOut_layOut _ _ _

/--
The ways in which a change of shape can end: refused at once, refused when the
rows are already set, or done.
-/
theorem resize_cases (grid : Grid Real Value Source) (rows columns : Datum) :
    (∃ fault, grid.resize rows columns = (.error fault, grid)) ∨
      (∃ newRows fault, checkDimensions rows columns = .ok () ∧
        extent rows = .ok newRows ∧
        extent columns = .error fault ∧
          grid.resize rows columns =
            (.error fault, { grid with rows := newRows })) ∨
      ∃ newRows newColumns, extent rows = .ok newRows ∧
        extent columns = .ok newColumns ∧
        grid.resize rows columns =
          (.ok (), grid.layOut newRows newColumns) := by
  rw [resize]
  cases checked : checkDimensions rows columns with
  | error fault => exact Or.inl ⟨fault, rfl⟩
  | ok done =>
      cases rowsTaken : extent rows with
      | error fault => exact Or.inl ⟨fault, rfl⟩
      | ok newRows =>
          right
          cases columnsTaken : extent columns with
          | error fault => exact Or.inl ⟨newRows, fault, rfl, rfl, rfl, rfl⟩
          | ok newColumns => exact Or.inr ⟨newRows, newColumns, rfl, rfl, rfl⟩

/-- An integer has a whole part. -/
theorem extent_of_isInteger {given : Datum} (integer : IsInteger given) :
    ∃ taken, extent given = .ok taken := by
  rcases integer with ⟨value, number⟩
  exact ⟨value.toNat, by simp [extent, number, Number.whole, Except.map]⟩

/-- Integer dimensions leave the grid as it is or lay it out anew. -/
theorem resize_of_isInteger (grid : Grid Real Value Source) (rows : Datum)
    {columns : Datum} (columnsInteger : IsInteger columns) :
    (∃ fault, grid.resize rows columns = (.error fault, grid)) ∨
      ∃ newRows newColumns,
        grid.resize rows columns =
          (.ok (), grid.layOut newRows newColumns) := by
  rcases grid.resize_cases rows columns with
    unchanged | ⟨newRows, fault, -, -, refused, -⟩ |
    ⟨newRows, newColumns, -, -, taken⟩
  · exact Or.inl unchanged
  · rcases extent_of_isInteger columnsInteger with ⟨columnsTaken, taken⟩
    rw [taken] at refused
    cases refused
  · exact Or.inr ⟨newRows, newColumns, taken⟩

/-- A new grid is one without cells that has been given its shape. -/
theorem resize_of_make {rows columns level connectivity : Datum}
    {settings : Settings Real} {rules : List (Rule Real Value Source)}
    {source : Source} {grid : Grid Real Value Source}
    (made : make rows columns level connectivity settings rules source =
      .ok grid) :
    ∃ chosen neighbourhood,
      (empty chosen settings rules neighbourhood source).resize rows columns =
        (.ok (), grid) := by
  rw [make] at made
  cases connected : Connectivity.ofDatum connectivity with
  | error fault =>
      rw [connected] at made
      cases made
  | ok neighbourhood =>
      cases levelled : Level.ofDatum level with
      | error fault =>
          rw [connected, levelled] at made
          cases made
      | ok chosen =>
          rw [connected, levelled] at made
          refine ⟨chosen, neighbourhood, ?_⟩
          simp only [bind, Except.bind] at made
          split at made
          · next shaped equal =>
            cases made
            exact equal
          · cases made

/-- A change of shape that is done has made new cells. -/
theorem layOut_of_resize {grid after : Grid Real Value Source}
    {rows columns : Datum} (done : grid.resize rows columns = (.ok (), after)) :
    ∃ newRows newColumns, after = grid.layOut newRows newColumns := by
  rcases grid.resize_cases rows columns with
    ⟨fault, refused⟩ | ⟨newRows, fault, -, -, -, refused⟩ |
    ⟨newRows, newColumns, -, -, taken⟩
  · rw [refused] at done
    cases done
  · rw [refused] at done
    cases done
  · rw [taken] at done
    cases done
    exact ⟨newRows, newColumns, rfl⟩

/-- A construction makes new cells in an empty grid with what it is given. -/
theorem exists_empty_of_make {rows columns level connectivity : Datum}
    {settings : Settings Real} {rules : List (Rule Real Value Source)}
    {source : Source} {grid : Grid Real Value Source}
    (made : make rows columns level connectivity settings rules source =
      .ok grid) :
    ∃ chosen neighbourhood newRows newColumns,
      grid = (empty chosen settings rules neighbourhood source).layOut newRows
        newColumns := by
  rcases resize_of_make made with ⟨chosen, neighbourhood, done⟩
  exact ⟨chosen, neighbourhood, layOut_of_resize done⟩

theorem settings_of_make {rows columns level connectivity : Datum}
    {settings : Settings Real} {rules : List (Rule Real Value Source)}
    {source : Source} {grid : Grid Real Value Source}
    (made : make rows columns level connectivity settings rules source =
      .ok grid) : grid.settings = settings := by
  rcases exists_empty_of_make made with
    ⟨chosen, neighbourhood, newRows, newColumns, rfl⟩
  rfl

theorem rules_of_make {rows columns level connectivity : Datum}
    {settings : Settings Real} {rules : List (Rule Real Value Source)}
    {source : Source} {grid : Grid Real Value Source}
    (made : make rows columns level connectivity settings rules source =
      .ok grid) : grid.rules = rules := by
  rcases exists_empty_of_make made with
    ⟨chosen, neighbourhood, newRows, newColumns, rfl⟩
  rfl

theorem layOut_of_make {rows columns level connectivity : Datum}
    {settings : Settings Real} {rules : List (Rule Real Value Source)}
    {source : Source} {grid : Grid Real Value Source}
    (made : make rows columns level connectivity settings rules source =
      .ok grid) :
    ∃ (before : Grid Real Value Source) (newRows newColumns : Nat),
      grid = before.layOut newRows newColumns := by
  rcases exists_empty_of_make made with
    ⟨chosen, neighbourhood, newRows, newColumns, shaped⟩
  exact ⟨_, newRows, newColumns, shaped⟩

variable [RandomSource Source]

/-- A frame keeps the layout, however it ends. -/
theorem LaidOut.advance {grid : Grid Real Value Source} (laidOut : grid.LaidOut)
    (signal : Array Value) (now : Number) :
    (grid.advance signal now).2.LaidOut := by
  have places : ∀ earlier later : Cell Value, SameRecord earlier later →
      later.index = earlier.index ∧ later.row = earlier.row ∧
      later.column = earlier.column :=
    fun earlier later same => ⟨same.index, same.row, same.column⟩
  rcases advance_cases grid signal now with
    ⟨-, outcome⟩ | ⟨cells, source, swept, outcome⟩ |
    ⟨position, cell, cells, fault, rest, stuck, outcome⟩
  · rw [outcome]
    exact laidOut
  · rw [outcome]
    refine laidOut.of_cellwise rfl rfl (swept.sameRecord_finished signal now) ?_
    rintro earlier later ⟨mapped, same, rfl⟩
    exact places earlier mapped same
  · rw [outcome]
    exact laidOut.of_cellwise rfl rfl stuck.sameRecord places

end Grid

namespace Grid

variable [Arithmetic Float Value] [RandomSource Source]

/-- Operations keep the layout as long as dimensions are integers. -/
theorem LaidOut.perform {grid : Grid Float Value Source}
    (laidOut : grid.LaidOut) {operation : Operation Value}
    (integral : operation.IsIntegral) : (grid.perform operation).2.LaidOut := by
  cases operation with
  | advance signal now => exact laidOut.advance signal now
  | resize rows columns =>
      rcases integral with ⟨-, columnsInteger⟩
      rcases grid.resize_of_isInteger rows columnsInteger with
        ⟨fault, refused⟩ | ⟨newRows, newColumns, taken⟩
      · change (grid.resize rows columns).2.LaidOut
        rw [refused]
        exact laidOut
      · change (grid.resize rows columns).2.LaidOut
        rw [taken]
        exact laidOut_layOut _ _ _
  | reset => exact laidOut_reset grid
  | setLevel level =>
      exact laidOut.of_sameCells (sameCells_perform grid trivial)
  | setParameter name given level =>
      exact laidOut.of_sameCells (sameCells_perform grid trivial)
  | assign key name given =>
      exact laidOut.of_sameCells (sameCells_perform grid trivial)
  | shuffleRules => exact laidOut.of_sameCells (sameCells_perform grid trivial)
  | draw => exact laidOut.of_sameCells (sameCells_perform grid trivial)

/-- Every grid that is made out of integer dimensions is laid out. -/
theorem Reachable.laidOut {grid : Grid Float Value Source}
    (reachable : Reachable grid) :
    grid.LaidOut := by
  induction reachable with
  | make rowsInteger columnsInteger made =>
      rcases layOut_of_make made with ⟨before, newRows, newColumns, rfl⟩
      exact laidOut_layOut before newRows newColumns
  | perform before operation integral ih => exact ih.perform integral

end Grid

end SoundGrid

import SoundGrid.Proofs.Grid.Layout
import SoundGrid.Proofs.Sample.Floating

/-!
# What cells store

A property that new cells have, and that a frame keeps for one cell at a time,
is one of all cells of a grid, whatever was refused on the way: the other
operations change no cell or make new ones.

New cells have the value zero, and a frame gives a cell a value in the form in
which cells store values.  So all cells of a grid hold values of this form.
-/

namespace SoundGrid.Grid

variable {Value Source : Type} {property : Cell Value → Prop}
  {cells : Array (Cell Value)}

/-! ## Properties of all cells -/

/-- All cells have a property. -/
def Everywhere (property : Cell Value → Prop)
    (cells : Array (Cell Value)) : Prop :=
  ∀ (position : Nat) (cell : Cell Value), cells[position]? = some cell →
    property cell

theorem everywhere_newCells {zero : Value}
    (fresh : ∀ index columns, property (Cell.fresh zero index columns))
    (rows columns : Nat) :
    Everywhere property (newCells zero rows columns) := by
  intro position cell found
  simp only [newCells, Array.getElem?_map, Option.map_eq_some_iff] at found
  rcases found with ⟨index, -, rfl⟩
  exact fresh index columns

theorem Everywhere.setIfInBounds (everywhere : Everywhere property cells)
    {cell : Cell Value} (own : property cell) (position : Nat) :
    Everywhere property (cells.setIfInBounds position cell) := by
  intro place later found
  by_cases same : position = place
  · subst same
    have inside : position < (cells.setIfInBounds position cell).size :=
      (Array.getElem?_eq_some_iff.mp found).1
    rw [Array.size_setIfInBounds] at inside
    rw [Array.getElem?_setIfInBounds_self_of_lt inside] at found
    cases found
    exact own
  · rw [Array.getElem?_setIfInBounds_ne same] at found
    exact everywhere place later found

theorem Everywhere.map (everywhere : Everywhere property cells)
    {change : Cell Value → Cell Value}
    (kept : ∀ cell, property cell → property (change cell)) :
    Everywhere property (cells.map change) := by
  intro position later found
  simp only [Array.getElem?_map, Option.map_eq_some_iff] at found
  rcases found with ⟨cell, foundCell, rfl⟩
  exact kept cell (everywhere position cell foundCell)

section Frames

variable {Real : Type} [Arithmetic Real Value] [RandomSource Source]

/-- A property that every cell keeps in a frame, whatever it sees and draws. -/
structure FrameKeeps (property : Cell Value → Prop)
    (grid : Grid Real Value Source)
    (frame : Frame Real Value Source) : Prop where
  keepValue (cell : Cell Value) : property cell → property cell.keepValue
  mapped {seen : Array (Cell Value)} {old new : Cell Value}
    {source rest : Source} :
    property old → mapCell grid frame seen old.keepValue source = .ok new rest →
      property new
  settle (now : Number) (cell : Cell Value) :
    property cell → property (cell.settle now)

variable {grid : Grid Real Value Source} {frame : Frame Real Value Source}
  {position : Nat} {source : Source}

theorem Swept.everywhere (keeps : FrameKeeps property grid frame)
    (swept : Swept grid frame position cells source)
    (before : Everywhere property grid.cells) : Everywhere property cells := by
  induction swept with
  | start => exact before
  | next swept found made ih =>
      exact ih.setIfInBounds (keeps.mapped (ih _ _ found) made) _

theorem Everywhere.advance {signal : Array Value}
    (keeps : FrameKeeps property grid (grid.frame signal))
    (before : Everywhere property grid.cells) (now : Number) :
    Everywhere property (grid.advance signal now).2.cells := by
  rcases advance_cases grid signal now with
    ⟨-, outcome⟩ | ⟨cells, source, swept, outcome⟩ |
    ⟨position, cell, cells, fault, rest, ⟨found, source, swept, -⟩, outcome⟩
  · rw [outcome]
    exact before
  · rw [outcome]
    exact (swept.everywhere keeps before).map (keeps.settle now)
  · rw [outcome]
    have mapped := swept.everywhere keeps before
    exact mapped.setIfInBounds
      (keeps.keepValue cell (mapped position cell found)) position

end Frames

section Operations

variable [Arithmetic Float Value] [RandomSource Source]
  {grid : Grid Float Value Source}

theorem Everywhere.control (before : Everywhere property grid.cells)
    {operation : Operation Value} (control : operation.IsControl) :
    Everywhere property (grid.perform operation).2.cells := by
  rw [(sameCells_perform grid control).2.2]
  exact before

theorem Everywhere.perform
    (fresh : ∀ index columns,
      property (Cell.fresh Arithmetic.zero index columns))
    (before : Everywhere property grid.cells) {operation : Operation Value}
    (frames : ∀ signal now, operation = .advance signal now →
      FrameKeeps property grid (grid.frame signal)) :
    Everywhere property (grid.perform operation).2.cells := by
  cases operation with
  | advance signal now => exact before.advance (frames signal now rfl) now
  | resize rows columns =>
      change Everywhere property (grid.resize rows columns).2.cells
      rcases grid.resize_cases rows columns with
        ⟨fault, outcome⟩ | ⟨newRows, fault, -, -, -, outcome⟩ |
        ⟨newRows, newColumns, -, -, outcome⟩
      · rw [outcome]
        exact before
      · rw [outcome]
        exact before
      · rw [outcome]
        exact everywhere_newCells fresh newRows newColumns
  | reset => exact everywhere_newCells fresh _ _
  | setLevel | setParameter | assign | shuffleRules | draw =>
      exact before.control trivial

end Operations

/-! ## Stored values -/

section Storing

variable {sound : Value → Prop}

/-- All cells have values of a kind. -/
def StoresOnly (sound : Value → Prop) (cells : Array (Cell Value)) : Prop :=
  ∀ (position : Nat) (cell : Cell Value), cells[position]? = some cell →
    sound cell.value

variable [RandomSource Source]

/-- Cells that a sweep has mapped store values, and the others keep theirs. -/
theorem frameKeeps_of_stores {Real : Type} [Arithmetic Real Value]
    (stores : Arithmetic.Stores sound) (grid : Grid Real Value Source)
    (frame : Frame Real Value Source) :
    FrameKeeps (fun cell => sound cell.value) grid frame where
  keepValue _ own := own
  mapped _ made := by
    rcases mapCell_eq_ok_iff.mp made with
      ⟨neighbours, value, state, stored, -, -, kept, rfl⟩
    exact stores.stored value stored kept
  settle _ _ own := own

variable [Arithmetic Float Value] {grid : Grid Float Value Source}

/-- Whatever was refused before, all cells store values of the kind. -/
theorem Reachable.storesOnly (stores : Arithmetic.Stores sound)
    (reachable : Reachable grid) : StoresOnly sound grid.cells := by
  have fresh (index columns : Int) :
      sound (Cell.fresh (Arithmetic.zero : Value) index columns).value :=
    stores.zero
  induction reachable with
  | make rowsInteger columnsInteger made =>
      rcases layOut_of_make made with ⟨before, newRows, newColumns, rfl⟩
      exact everywhere_newCells fresh newRows newColumns
  | perform before operation integral ih =>
      exact Everywhere.perform fresh ih fun _ _ _ =>
        frameKeeps_of_stores stores _ _

end Storing

/-- The value that a cell of a running grid has is stored as it is. -/
theorem Reachable.store_value [RandomSource Source]
    {grid : Grid Float Sample Source} (reachable : Reachable grid)
    {position : Nat} {cell : Cell Sample}
    (found : grid.cells[position]? = some cell) :
    Arithmetic.store cell.value = .ok cell.value := by
  rcases reachable.storesOnly Sample.stores_isStored position cell found with
    ⟨double, same⟩
  rw [same]
  rfl

end SoundGrid.Grid

import SoundGrid.Proofs.Grid.Layout
import SoundGrid.Proofs.Grid.Neighbourhood
import SoundGrid.Random.Twister
import SoundGrid.Sample

/-!
# A frame as a recursion by index

A sweep overwrites the cells while later cells still read them.  This module
says what comes out without any array being overwritten: every new cell is the
mapping of its old one, of the source that the cells before it have left, and
of a number of neighbours which counts the new states of the cells before it
and the old states of those behind it.

The layout of the grid carries the argument.  It turns the place that a cell
knows into its position, and it makes every neighbour inside the grid an
element of the array.
-/

namespace SoundGrid.Grid

/-! ## Neighbours within a sweep -/

section Neighbours

variable {Real Value Source : Type}

/--
Whether a cell at another position is on when the cell at a position is mapped.
-/
def isOnInSweep (old new : Array (Cell Value)) (position other : Nat) : Bool :=
  if other < position then Cell.isOnAt new other else Cell.isOnAt old other

/--
The live neighbours of the cell at a position when it is mapped, none where none
are read.
-/
def neighboursInSweep (grid : Grid Real Value Source) (new : Array (Cell Value))
    (position : Nat) : Nat :=
  if grid.level = .rules ∨ grid.level = .neighborhood then
    (Neighbours.among grid.connectivity grid.rows grid.columns
      (placeOf grid.columns position)
        (isOnInSweep grid.cells new position)).card
  else
    0

theorem readsNeighbours_iff (level : Level) :
    level.readsNeighbours = true ↔ level = .rules ∨ level = .neighborhood := by
  cases level <;> decide

/--
States in the array that a cell sees are new before it and old from it on.
-/
theorem Seen.isOnAt_eq {old new seen : Array (Cell Value)} {position : Nat}
    (shown : Seen old new position seen) :
    Cell.isOnAt seen = isOnInSweep old new position := by
  funext other
  unfold isOnInSweep Cell.isOnAt
  rcases Nat.lt_trichotomy other position with before | rfl | behind
  · rw [if_pos before, shown.front other before]
  · rw [if_neg (Nat.lt_irrefl other), shown.own, Option.any_map]
    rfl
  · rw [if_neg (by omega), shown.back other behind]

/--
In a grid that is laid out the count that a mapping is given is that of the
sweep.
-/
theorem LaidOut.seenNeighbours_eq {grid : Grid Real Value Source}
    (laidOut : grid.LaidOut) {new seen : Array (Cell Value)} {position : Nat}
    {old : Cell Value} (shown : Seen grid.cells new position seen)
    (found : grid.cells[position]? = some old) :
    seenNeighbours grid.level grid.connectivity grid.rows grid.columns seen
      old.keepValue = .ok (grid.neighboursInSweep new position) := by
  rw [seenNeighbours, neighboursInSweep]
  by_cases reads : grid.level.readsNeighbours = true
  · have full : seen.size = grid.rows * grid.columns :=
      shown.size.trans laidOut.size
    have place := laidOut.places position old found
    have own : (old.keepValue.row, old.keepValue.column) =
        placeOf grid.columns position :=
      Prod.ext place.row place.column
    rw [if_pos reads, if_pos ((readsNeighbours_iff grid.level).mp reads),
      Neighbours.live_eq_card full, own, shown.isOnAt_eq]
  · rw [if_neg reads, if_neg fun level =>
      reads ((readsNeighbours_iff grid.level).mpr level)]

end Neighbours

/-! ## The recursion -/

variable {Real Value Source : Type} [Arithmetic Real Value]
  [RandomSource Source]

/--
The cell at a position as a frame makes it of the old one.  It is mapped with
the whole signal, the ripple brought into the signal's length, the settings
and rules in force, the neighbours that it has at that moment, and the source
at its turn; what is left of the source is there for the next position.
-/
structure MappedInOrder (grid : Grid Real Value Source) (signal : Array Value)
    (new : Array (Cell Value)) (sources : Nat → Source) (position : Nat)
    (old later : Cell Value) : Prop where
  mapped : ∃ value,
    grid.level.map old.keepValue
        { signal
          length := signal.size
          offset := grid.offset % signal.size
          settings := grid.settings
          rules := grid.rules }
        (grid.neighboursInSweep new position) (sources position) =
      .ok (value, later.state) (sources (position + 1)) ∧
    Arithmetic.store value = .ok later.value
  previousValue : later.previousValue = old.value
  index : later.index = old.index
  row : later.row = old.row
  column : later.column = old.column

/-- Every cell of a whole sweep is mapped in its turn. -/
theorem Swept.mappedInOrder {grid : Grid Real Value Source}
    (laidOut : grid.LaidOut) {signal : Array Value} {position : Nat}
    {cells : Array (Cell Value)} {source : Source}
    (swept : Swept grid (grid.frame signal) position cells source) :
    ∃ sources : Nat → Source, sources 0 = grid.source ∧
      sources position = source ∧
      ∀ place, place < position → ∃ old new,
        grid.cells[place]? = some old ∧ cells[place]? = some new ∧
          MappedInOrder grid signal cells sources place old new := by
  rcases swept.replay with ⟨sources, first, last, replayed⟩
  refine ⟨sources, first, last, ?_⟩
  intro place reached
  rcases replayed place reached with
    ⟨old, new, seen, oldFound, newFound, shown, made⟩
  rcases mapCell_eq_ok_iff.mp made with
    ⟨neighbours, value, state, stored, counted, mapped, kept, rfl⟩
  rw [laidOut.seenNeighbours_eq shown oldFound] at counted
  cases counted
  exact ⟨old, _, oldFound, newFound, ⟨value, mapped, kept⟩, rfl, rfl, rfl, rfl⟩

/--
Settling the cells at the end of a frame changes nothing that the recursion
speaks of.
-/
theorem MappedInOrder.settle {grid : Grid Real Value Source}
    {signal : Array Value} {cells : Array (Cell Value)} {sources : Nat → Source}
    {position : Nat} {old new : Cell Value}
    (inOrder : MappedInOrder grid signal cells sources position old new)
    (now : Number) :
    MappedInOrder grid signal (cells.map (Cell.settle now)) sources position old
      (new.settle now) where
  mapped := by
    have states : Cell.isOnAt (cells.map (Cell.settle now)) =
        Cell.isOnAt cells := by
      funext other
      rw [Cell.isOnAt, Array.getElem?_map, Option.any_map]
      rfl
    have inSweep :
        isOnInSweep grid.cells (cells.map (Cell.settle now)) position =
        isOnInSweep grid.cells cells position := by
      funext other
      rw [isOnInSweep, isOnInSweep, states]
    have same : grid.neighboursInSweep (cells.map (Cell.settle now)) position =
        grid.neighboursInSweep cells position := by
      rw [neighboursInSweep, neighboursInSweep, inSweep]
    rw [same]
    exact inOrder.mapped
  previousValue := inOrder.previousValue
  index := inOrder.index
  row := inOrder.row
  column := inOrder.column

end SoundGrid.Grid

namespace SoundGrid.Grid

variable {Value Source : Type} [Arithmetic Float Value] [RandomSource Source]

/--
A frame that is completed maps the cells as a recursion by index does, which
hands the source on from each position to the next.
-/
theorem advance_mappedInOrder {grid after : Grid Float Value Source}
    (reachable : Reachable grid) {signal : Array Value} {now : Number}
    (completed : grid.advance signal now = (.ok (), after)) :
    after.cells.size = grid.cells.size ∧
      ∃ sources : Nat → Source, sources 0 = grid.source ∧
        sources grid.cells.size = after.source ∧
        ∀ (position : Nat) (old new : Cell Value),
          grid.cells[position]? = some old →
          after.cells[position]? = some new →
            MappedInOrder grid signal after.cells sources position old new := by
  rcases advance_cases grid signal now with
    ⟨-, outcome⟩ | ⟨cells, source, swept, outcome⟩ |
    ⟨position, cell, cells, fault, rest, stuck, outcome⟩
  · rw [outcome] at completed
    cases completed
  · rw [outcome] at completed
    cases completed
    rcases swept.mappedInOrder reachable.laidOut with
      ⟨sources, first, last, inOrder⟩
    refine ⟨by simpa [finished] using swept.size, sources, first, last, ?_⟩
    intro position old new oldFound newFound
    have reached : position < grid.cells.size :=
      (Array.getElem?_eq_some_iff.mp oldFound).1
    rcases inOrder position reached with
      ⟨earlier, later, earlierFound, laterFound, mapped⟩
    rw [oldFound] at earlierFound
    cases earlierFound
    simp only [finished, Array.getElem?_map, laterFound, Option.map_some,
      Option.some.injEq] at newFound
    rw [← newFound]
    exact mapped.settle now
  · rw [outcome] at completed
    cases completed

/-- Two rows of two cells, each of which is next to the three others. -/
def square : Grid Float Sample Random.Twister :=
  (empty .neighborhood Settings.standard Rule.Standard.rules .diagonal
    (Random.Twister.ofSeed 0)).layOut 2 2

theorem make_square :
    make (.int 2) (.int 2) (.int 6) (.int 8) Settings.standard
      Rule.Standard.rules (Random.Twister.ofSeed 0) = .ok square :=
  rfl

theorem reachable_square : Reachable square :=
  .make ⟨2, rfl⟩ ⟨2, rfl⟩ make_square

/-- An outcome that is no fault is a completed one. -/
theorem eq_ok_of_isOk {State : Type} {outcome : Outcome State Unit}
    (done : outcome.1.isOk = true) : outcome = (.ok (), outcome.2) := by
  rcases outcome with ⟨answer, state⟩
  cases answer with
  | ok answer => rfl
  | error fault => cases done

/--
Loud samples turn the cells of the square on one after another, until the last
one finds three neighbours that are on already.
-/
theorem advance_mappedInOrder_square :
    ∃ (after : Grid Float Sample Random.Twister) (signal : Array Sample)
      (now : Number),
      Reachable square ∧ square.advance signal now = (.ok (), after) ∧
        after.cells.map (fun cell => cell.state) = #[true, true, true, false] ∧
        after.cells.size = square.cells.size ∧
          ∃ sources : Nat → Random.Twister, sources 0 = square.source ∧
            sources square.cells.size = after.source ∧
            ∀ (position : Nat) (old new : Cell Sample),
              square.cells[position]? = some old →
              after.cells[position]? = some new →
                MappedInOrder square signal after.cells sources position old
                  new := by
  have done :
      (square.advance #[.ofDouble 0.5, .ofDouble 0.25] (.int 0)).1.isOk =
        true := by
    decide +kernel
  have completed := eq_ok_of_isOk done
  exact ⟨_, _, _, reachable_square, completed, by decide +kernel,
    advance_mappedInOrder reachable_square completed⟩

end SoundGrid.Grid

import Mathlib.Algebra.Order.BigOperators.Group.Finset
import Mathlib.Combinatorics.Enumerative.DoubleCounting
import Mathlib.Data.Fintype.Prod
import Mathlib.Logic.Equiv.Fin.Basic
import SoundGrid.Proofs.Configuration.Refusal
import SoundGrid.Proofs.Grid.IndexOrder

/-!
# Live neighbours by distance

A query for live neighbours walks along a list of distances and looks into an
array.  This module says what it answers without either: it is the number of
cells of the grid that are on and at distance one from the place that is asked
for, whatever that place is.  A cell that an earlier shape of the grid has left
behind may be asked for as well; it counts the cells around its own place, of
which there may be none.

Nothing of this depends on how the states have come about.  A grid is therefore
shown with any pattern of states on its cells.

Being adjacent is symmetric.  Taken over the whole grid, the cells that are on
are seen as often as there are places next to them, since each place that they
can be seen from holds exactly one cell.
-/

namespace SoundGrid

namespace Connectivity

/-- The most neighbours that a place has. -/
def number : Connectivity → Nat
  | orthogonal => 4
  | diagonal => 8

theorem length_steps (connectivity : Connectivity) :
    connectivity.steps.length = connectivity.number := by
  cases connectivity <;> rfl

/-- Two places at distance one in both directions. -/
def TouchesAtCorner (first second : Int × Int) : Prop :=
  (second.1 - first.1).natAbs = 1 ∧ (second.2 - first.2).natAbs = 1

instance (first second : Int × Int) :
    Decidable (TouchesAtCorner first second) :=
  inferInstanceAs (Decidable (_ ∧ _))

theorem Adjacent.ne {connectivity : Connectivity} {first second : Int × Int}
    (adjacent : connectivity.Adjacent first second) : second ≠ first := by
  rintro rfl
  cases connectivity with
  | orthogonal => simp [Adjacent] at adjacent
  | diagonal => simp [Adjacent] at adjacent

theorem adjacent_comm (connectivity : Connectivity) (first second : Int × Int) :
    connectivity.Adjacent first second ↔
      connectivity.Adjacent second first := by
  have rowDistance :
      (second.1 - first.1).natAbs = (first.1 - second.1).natAbs := by omega
  have columnDistance :
      (second.2 - first.2).natAbs = (first.2 - second.2).natAbs := by omega
  cases connectivity with
  | orthogonal => simp only [Adjacent, rowDistance, columnDistance]
  | diagonal => simp only [Adjacent, rowDistance, columnDistance]

/--
Next to each other with the diagonals: by a side or at a corner, and never both.
-/
theorem adjacent_diagonal_iff (first second : Int × Int) :
    diagonal.Adjacent first second ↔
      orthogonal.Adjacent first second ∨ TouchesAtCorner first second := by
  simp only [Adjacent, TouchesAtCorner]
  omega

theorem not_touchesAtCorner_of_adjacent {first second : Int × Int}
    (adjacent : orthogonal.Adjacent first second) :
    ¬ TouchesAtCorner first second := by
  simp only [Adjacent, TouchesAtCorner] at adjacent ⊢
  omega

end Connectivity

namespace Grid

section Places

variable {Real Value Source : Type}

/-- The row and the column that the cell at a position knows. -/
def placeAt (grid : Grid Real Value Source)
    (position : Fin grid.cells.size) : Int × Int :=
  (grid.cells[position].row, grid.cells[position].column)

/-- The positions of the cells that are on. -/
def switchedOn (grid : Grid Real Value Source) : Finset (Fin grid.cells.size) :=
  Finset.univ.filter fun position => grid.cells[position].state = true

/-- The positions of the cells that are on and next to a place. -/
def onNextTo (grid : Grid Real Value Source) (connectivity : Connectivity)
    (place : Int × Int) : Finset (Fin grid.cells.size) :=
  grid.switchedOn.filter fun position =>
    connectivity.Adjacent place (grid.placeAt position)

/-- The positions of the cells that are on and touch a place at a corner. -/
def onAtCornersOf (grid : Grid Real Value Source) (place : Int × Int) :
    Finset (Fin grid.cells.size) :=
  grid.switchedOn.filter fun position =>
    Connectivity.TouchesAtCorner place (grid.placeAt position)

/-- The places inside the grid that are next to a place. -/
def placesNextTo (grid : Grid Real Value Source) (connectivity : Connectivity)
    (place : Int × Int) : Finset (Fin grid.rows × Fin grid.columns) :=
  Finset.univ.filter fun other => connectivity.Adjacent place (other.1, other.2)

/-- The grid with a pattern of states on its cells. -/
def switched (grid : Grid Real Value Source) (pattern : Nat → Bool) :
    Grid Real Value Source :=
  { grid with cells := grid.cells.mapIdx fun position cell =>
      { cell with state := pattern position } }

/-- The connectivity that a query asks for, or else that of the grid. -/
def connectivityOr (grid : Grid Real Value Source) :
    Datum → Except Fault Connectivity
  | .null => .ok grid.connectivity
  | given => Connectivity.ofDatum given

theorem neighbourCount_eq_bind (grid : Grid Real Value Source)
    (cell : Cell Value) (given : Datum) :
    grid.neighbourCount cell given = (do
      let connectivity ← grid.connectivityOr given
      Neighbours.live connectivity grid.rows grid.columns grid.cells cell) := by
  cases given <;> rfl

theorem category_of_connectivityOr {grid : Grid Real Value Source}
    {given : Datum} {fault : Fault}
    (refused : grid.connectivityOr given = .error fault) :
    fault.category = .value := by
  have asked : Connectivity.ofDatum given = .error fault := by
    cases given with
    | null => cases refused
    | _ => exact refused
  exact Connectivity.category_of_numberOf (map_eq_error_iff.mp asked)

/-! ## Counting in a grid that is laid out -/

theorem LaidOut.switched {grid : Grid Real Value Source}
    (laidOut : grid.LaidOut) (pattern : Nat → Bool) :
    (grid.switched pattern).LaidOut where
  size := by
    rw [Grid.switched, Array.size_mapIdx]
    exact laidOut.size
  places position cell found := by
    simp only [Grid.switched, Array.getElem?_mapIdx,
      Option.map_eq_some_iff] at found
    rcases found with ⟨old, oldFound, rfl⟩
    have place := laidOut.places position old oldFound
    exact ⟨place.index, place.row, place.column⟩

variable {grid : Grid Real Value Source}

theorem LaidOut.placeAt_eq (laidOut : grid.LaidOut)
    (position : Fin grid.cells.size) :
    grid.placeAt position = placeOf grid.columns position := by
  have place := laidOut.places position grid.cells[position]
    (Array.getElem?_eq_getElem position.isLt)
  exact Prod.ext place.row place.column

/-- The cells at distance one sit at the adjacent positions. -/
theorem LaidOut.card_among (laidOut : grid.LaidOut)
    (connectivity : Connectivity) (place : Int × Int) (test : Nat → Bool) :
    (Neighbours.among connectivity grid.rows grid.columns place test).card =
      (Finset.univ.filter fun position : Fin grid.cells.size =>
        connectivity.Adjacent place (grid.placeAt position) ∧
          test position = true).card := by
  rw [← Finset.card_map Fin.valEmbedding]
  congr 1
  ext other
  simp only [Neighbours.among, Finset.mem_filter, Finset.mem_range,
    Finset.mem_map, Finset.mem_univ, true_and, Fin.valEmbedding_apply,
    laidOut.placeAt_eq]
  constructor
  · rintro ⟨inArray, adjacent, passed⟩
    exact ⟨⟨other, inArray.trans_eq laidOut.size.symm⟩, ⟨adjacent, passed⟩, rfl⟩
  · rintro ⟨position, ⟨adjacent, passed⟩, rfl⟩
    exact ⟨position.isLt.trans_eq laidOut.size, adjacent, passed⟩

theorem isOnAt_eq_state (position : Fin grid.cells.size) :
    Cell.isOnAt grid.cells position = grid.cells[position].state := by
  simp [Cell.isOnAt]

theorem LaidOut.card_among_isOnAt (laidOut : grid.LaidOut)
    (connectivity : Connectivity) (place : Int × Int) :
    (Neighbours.among connectivity grid.rows grid.columns place
      (Cell.isOnAt grid.cells)).card =
      (grid.onNextTo connectivity place).card := by
  rw [laidOut.card_among]
  congr 1
  ext position
  simp only [onNextTo, switchedOn, isOnAt_eq_state, Finset.mem_filter,
    Finset.mem_univ, true_and]
  exact and_comm

/-- A query is answered with the number of cells that are on at distance one. -/
theorem LaidOut.neighbourCount_eq (laidOut : grid.LaidOut) (cell : Cell Value)
    {given : Datum} {connectivity : Connectivity}
    (asked : grid.connectivityOr given = .ok connectivity) :
    grid.neighbourCount cell given =
      .ok (grid.onNextTo connectivity (cell.row, cell.column)).card := by
  rw [neighbourCount_eq_bind, asked, ← laidOut.card_among_isOnAt]
  exact Neighbours.live_eq_card laidOut.size connectivity cell

/--
A query is refused for the connectivity that it asks for, and for nothing else.
-/
theorem LaidOut.neighbourCount_refused (laidOut : grid.LaidOut)
    {cell : Cell Value} {given : Datum} {fault : Fault}
    (refused : grid.neighbourCount cell given = .error fault) :
    grid.connectivityOr given = .error fault := by
  cases asked : grid.connectivityOr given with
  | error other =>
      rw [neighbourCount_eq_bind, asked] at refused
      cases refused
      rfl
  | ok connectivity =>
      rw [laidOut.neighbourCount_eq cell asked] at refused
      cases refused

theorem LaidOut.card_onNextTo_le (laidOut : grid.LaidOut)
    (connectivity : Connectivity) (place : Int × Int) :
    (grid.onNextTo connectivity place).card ≤ connectivity.number := by
  rw [← laidOut.card_among_isOnAt, ← Neighbours.countP_steps_eq_card,
    ← connectivity.length_steps]
  exact List.countP_le_length

theorem placeAt_ne_of_mem_onNextTo {connectivity : Connectivity}
    {place : Int × Int} {position : Fin grid.cells.size}
    (counted : position ∈ grid.onNextTo connectivity place) :
    grid.placeAt position ≠ place :=
  (Finset.mem_filter.mp counted).2.ne

/-- With the diagonals the cells at the corners are counted in addition. -/
theorem card_onNextTo_diagonal (grid : Grid Real Value Source)
    (place : Int × Int) :
    (grid.onNextTo .diagonal place).card =
      (grid.onNextTo .orthogonal place).card +
        (grid.onAtCornersOf place).card := by
  have split : grid.onNextTo .diagonal place =
      grid.onNextTo .orthogonal place ∪ grid.onAtCornersOf place := by
    simp only [onNextTo, onAtCornersOf, ← Finset.filter_or,
      Connectivity.adjacent_diagonal_iff]
  have apart :
      Disjoint (grid.onNextTo .orthogonal place) (grid.onAtCornersOf place) :=
    Finset.disjoint_filter.mpr fun position _ adjacent =>
      Connectivity.not_touchesAtCorner_of_adjacent adjacent
  rw [split, Finset.card_union_of_disjoint apart]

/-! ## The sum over the grid -/

/-- Positions are places inside the grid, row by row. -/
def LaidOut.positions (laidOut : grid.LaidOut) :
    Fin grid.cells.size ≃ Fin grid.rows × Fin grid.columns :=
  (finCongr laidOut.size).trans finProdFinEquiv.symm

theorem LaidOut.placeAt_eq_positions (laidOut : grid.LaidOut)
    (position : Fin grid.cells.size) :
    grid.placeAt position =
      (((laidOut.positions position).1 : Int),
        ((laidOut.positions position).2 : Int)) := by
  rw [laidOut.placeAt_eq]
  rfl

/-- There is a cell at each place next to a given one. -/
theorem LaidOut.card_placesNextTo (laidOut : grid.LaidOut)
    (connectivity : Connectivity) (place : Int × Int) :
    (grid.placesNextTo connectivity place).card =
      (Finset.univ.filter fun position : Fin grid.cells.size =>
        connectivity.Adjacent place (grid.placeAt position)).card := by
  symm
  refine Finset.card_equiv laidOut.positions ?_
  intro position
  simp only [placesNextTo, Finset.mem_filter, Finset.mem_univ, true_and,
    laidOut.placeAt_eq_positions position]

/--
Each pair of adjacent cells is seen from both sides, so the cells that are on
are counted once for every place next to them.
-/
theorem LaidOut.sum_card_onNextTo (laidOut : grid.LaidOut)
    (connectivity : Connectivity) :
    ∑ position : Fin grid.cells.size,
        (grid.onNextTo connectivity (grid.placeAt position)).card =
      ∑ position ∈ grid.switchedOn,
        (grid.placesNextTo connectivity (grid.placeAt position)).card := by
  calc
    _ = ∑ position ∈ grid.switchedOn,
        (Finset.univ.filter fun other : Fin grid.cells.size =>
          connectivity.Adjacent (grid.placeAt other)
            (grid.placeAt position)).card :=
      Finset.sum_card_bipartiteAbove_eq_sum_card_bipartiteBelow _
    _ = ∑ position ∈ grid.switchedOn,
          (grid.placesNextTo connectivity (grid.placeAt position)).card := by
      refine Finset.sum_congr rfl ?_
      intro position _
      simp only [laidOut.card_placesNextTo,
        connectivity.adjacent_comm (grid.placeAt position)]

/--
How a grid answers every query for live neighbours, told by the places of its
cells.
-/
structure CountsByDistance (grid : Grid Real Value Source) : Prop where
  /--
  A query is refused for the connectivity that it asks for, and for nothing
  else.
  -/
  refused : ∀ (cell : Cell Value) (given : Datum) (fault : Fault),
    grid.neighbourCount cell given = .error fault →
      grid.connectivityOr given = .error fault ∧ fault.category = .value
  /--
  The answer counts the cells that are on and next to the place of the cell.
  -/
  answered :
    ∀ (cell : Cell Value) (given : Datum) (connectivity : Connectivity),
    grid.connectivityOr given = .ok connectivity →
      grid.neighbourCount cell given =
        .ok (grid.onNextTo connectivity (cell.row, cell.column)).card
  /-- Whatever is at the place itself is not among them. -/
  elsewhere : ∀ (connectivity : Connectivity) (place : Int × Int),
    ∀ position ∈ grid.onNextTo connectivity place, grid.placeAt position ≠ place
  bounded : ∀ (cell : Cell Value) (given : Datum) (connectivity : Connectivity)
    (count : Nat),
    grid.connectivityOr given = .ok connectivity →
      grid.neighbourCount cell given = .ok count → count ≤ connectivity.number
  /-- Eight neighbours are the four by a side and those at a corner. -/
  corners : ∀ cell : Cell Value, ∃ sides,
    grid.neighbourCount cell (.int 4) = .ok sides ∧
      grid.neighbourCount cell (.int 8) =
        .ok (sides + (grid.onAtCornersOf (cell.row, cell.column)).card)
  /--
  Over all cells the answers add up to the places next to the cells that are on.
  -/
  total : ∀ (given : Datum) (connectivity : Connectivity),
    grid.connectivityOr given = .ok connectivity →
      ∃ counts : Fin grid.cells.size → Nat,
        (∀ position, grid.neighbourCount grid.cells[position] given =
          .ok (counts position)) ∧
          ∑ position, counts position =
            ∑ position ∈ grid.switchedOn,
              (grid.placesNextTo connectivity (grid.placeAt position)).card

theorem LaidOut.countsByDistance (laidOut : grid.LaidOut) :
    grid.CountsByDistance where
  refused cell given fault refused := by
    have asked := laidOut.neighbourCount_refused refused
    exact ⟨asked, category_of_connectivityOr asked⟩
  answered cell given connectivity asked := laidOut.neighbourCount_eq cell asked
  elsewhere connectivity place position counted :=
    placeAt_ne_of_mem_onNextTo counted
  bounded cell given connectivity count asked answered := by
    rw [laidOut.neighbourCount_eq cell asked] at answered
    cases answered
    exact laidOut.card_onNextTo_le connectivity _
  corners cell := by
    have sides : grid.neighbourCount cell (.int 4) =
        .ok (grid.onNextTo .orthogonal (cell.row, cell.column)).card :=
      laidOut.neighbourCount_eq cell rfl
    have all : grid.neighbourCount cell (.int 8) =
        .ok (grid.onNextTo .diagonal (cell.row, cell.column)).card :=
      laidOut.neighbourCount_eq cell rfl
    rw [card_onNextTo_diagonal] at all
    exact ⟨_, sides, all⟩
  total given connectivity asked :=
    ⟨_, fun position => laidOut.neighbourCount_eq grid.cells[position] asked,
      laidOut.sum_card_onNextTo connectivity⟩

end Places

variable {Value Source : Type} [Arithmetic Float Value] [RandomSource Source]

/--
Every grid that is made out of integer dimensions counts live neighbours by
distance, whatever pattern of states its cells show.
-/
theorem countsByDistance_of_reachable {grid : Grid Float Value Source}
    (reachable : Reachable grid) (pattern : Nat → Bool) :
    (grid.switched pattern).CountsByDistance :=
  (reachable.laidOut.switched pattern).countsByDistance

/--
Three cells of the square are on.  A cell that has been kept from a grid of
three columns lies outside, and it touches the last of them at a corner.
-/
theorem countsByDistance_square :
    ∃ (pattern : Nat → Bool) (kept : Cell Sample),
      Reachable square ∧ (square.switched pattern).CountsByDistance ∧
        kept.row = 2 ∧ kept.column = 2 ∧
          ((square.switched pattern).cells.map fun cell => cell.state) =
            #[true, false, true, true] ∧
          (square.switched pattern).neighbourCount kept .null = .ok 1 ∧
            (square.switched pattern).neighbourCount kept (.int 4) = .ok 0 :=
  ⟨fun position => position != 1, Cell.fresh Arithmetic.zero 8 3,
    reachable_square, countsByDistance_of_reachable reachable_square _, rfl,
    rfl, by decide +kernel, eq_ok_of_toOption (by decide +kernel),
    eq_ok_of_toOption (by decide +kernel)⟩

end Grid

end SoundGrid

import Mathlib.Data.Finset.Card
import Mathlib.Data.List.Nodup
import SoundGrid.Grid.Neighbours
import SoundGrid.Proofs.Signal.View

/-!
# Neighbours as adjacent positions

The neighbours of a place are counted by walking to it from the place along a
list of distances.  Seen from the array, they are the positions whose row and
column are next to those of the place.  Both ways of counting agree whenever
the array has a cell for every place, so that no distance leads out of it.
-/

namespace SoundGrid

/--
Two places next to each other: at distance one along the rows and columns, or,
with the diagonals, in the larger of the two directions.
-/
def Connectivity.Adjacent (connectivity : Connectivity)
    (first second : Int × Int) : Prop :=
  match connectivity with
  | .orthogonal => (second.1 - first.1).natAbs + (second.2 - first.2).natAbs = 1
  | .diagonal => max (second.1 - first.1).natAbs (second.2 - first.2).natAbs = 1

instance (connectivity : Connectivity) (first second : Int × Int) :
    Decidable (connectivity.Adjacent first second) := by
  cases connectivity <;> exact inferInstanceAs (Decidable (_ = 1))

namespace Connectivity

/-- The distances in the list are those that lead to adjacent places. -/
theorem mem_steps_iff (connectivity : Connectivity) (place : Int × Int)
    (down right : Int) :
    (down, right) ∈ connectivity.steps ↔
      connectivity.Adjacent place (place.1 + down, place.2 + right) := by
  have rowDistance : place.1 + down - place.1 = down := by omega
  have columnDistance : place.2 + right - place.2 = right := by omega
  cases connectivity with
  | orthogonal =>
      simp only [steps, sides, Adjacent, List.mem_cons, Prod.mk.injEq,
        List.not_mem_nil, or_false, rowDistance, columnDistance]
      omega
  | diagonal =>
      simp only [steps, sides, corners, Adjacent, List.mem_append,
        List.mem_cons, Prod.mk.injEq, List.not_mem_nil, or_false, rowDistance,
        columnDistance]
      omega

theorem nodup_steps (connectivity : Connectivity) :
    connectivity.steps.Nodup := by
  cases connectivity <;> decide

end Connectivity

/-- Whether an array has a cell at a position that is on. -/
def Cell.isOnAt {Value : Type} (cells : Array (Cell Value))
    (position : Nat) : Bool :=
  cells[position]?.any fun cell => cell.state

/-- The row and the column of a position. -/
def placeOf (columns position : Nat) : Int × Int :=
  ((position / columns : Nat), (position % columns : Nat))

namespace Neighbours

variable {Value : Type}

/-- The positions of a grid that are adjacent to a place and pass a test. -/
def among (connectivity : Connectivity) (rows columns : Nat) (place : Int × Int)
    (test : Nat → Bool) : Finset Nat :=
  (Finset.range (rows * columns)).filter fun other =>
    connectivity.Adjacent place (placeOf columns other) ∧ test other = true

/-! ## Places and positions -/

/-- The position of a place in a grid with so many columns. -/
def positionOf (columns : Nat) (place : Int × Int) : Nat :=
  (place.1 * columns + place.2).toNat

/--
A place inside the grid is a row below the rows and a column below the columns.
-/
theorem inside_iff {rows columns : Nat} {row column : Int} :
    inside rows columns row column = true ↔
      ∃ down right : Nat, row = down ∧ column = right ∧ down < rows ∧
        right < columns := by
  simp only [inside, Bool.and_eq_true, decide_eq_true_eq]
  constructor
  · rintro ⟨⟨⟨rowLow, rowHigh⟩, columnLow⟩, columnHigh⟩
    exact ⟨row.toNat, column.toNat, by omega, by omega, by omega, by omega⟩
  · rintro ⟨down, right, rfl, rfl, rowHigh, columnHigh⟩
    exact ⟨⟨⟨by omega, by omega⟩, by omega⟩, by omega⟩

theorem positionOf_natCast (columns down right : Nat) :
    positionOf columns (down, right) = down * columns + right := by
  change ((down : Int) * columns + right).toNat = _
  rw [← Int.natCast_mul, ← Int.natCast_add, Int.toNat_natCast]

/-- Places inside the grid have positions in the array. -/
theorem positionOf_lt {rows columns down right : Nat} (rowInside : down < rows)
    (columnInside : right < columns) :
    down * columns + right < rows * columns :=
  calc
    down * columns + right < (down + 1) * columns := by
      rw [Nat.succ_mul]
      omega
    _ ≤ rows * columns := Nat.mul_le_mul_right columns rowInside

/-- The position of a place leads back to the place. -/
theorem placeOf_position {columns down right : Nat}
    (columnInside : right < columns) :
    placeOf columns (down * columns + right) =
      ((down : Int), (right : Int)) := by
  have positive : 0 < columns := by omega
  rw [placeOf]
  rw [Nat.mul_comm, Nat.mul_add_div positive, Nat.mul_add_mod,
    Nat.div_eq_of_lt columnInside, Nat.mod_eq_of_lt columnInside, Nat.add_zero]

/--
The place of a position in the array is inside the grid and leads back to it.
-/
theorem position_of_lt {rows columns position : Nat}
    (inArray : position < rows * columns) :
    position / columns < rows ∧ position % columns < columns ∧
      position / columns * columns + position % columns = position := by
  have positive : 0 < columns := by
    rcases Nat.eq_zero_or_pos columns with rfl | positive
    · omega
    · exact positive
  refine ⟨?_, Nat.mod_lt position positive, ?_⟩
  · rw [Nat.div_lt_iff_lt_mul positive]
    exact inArray
  · rw [Nat.mul_comm]
    exact Nat.div_add_mod position columns

/-! ## Counting -/

/-- Whether a distance leads from a place to a cell that is on. -/
def leadsToOn (rows columns : Nat) (cells : Array (Cell Value))
    (place step : Int × Int) : Bool :=
  inside rows columns (place.1 + step.1) (place.2 + step.2) &&
    Cell.isOnAt cells (positionOf columns (place.1 + step.1, place.2 + step.2))

/--
In a full array the walk along the distances finds a cell for every place
inside.
-/
theorem countOn_eq_countP {rows columns : Nat} {cells : Array (Cell Value)}
    (full : cells.size = rows * columns) (place : Int × Int)
    (steps : List (Int × Int)) :
    countOn rows columns cells place.1 place.2 steps =
      .ok (steps.countP (leadsToOn rows columns cells place)) := by
  induction steps with
  | nil => rfl
  | cons step rest ih =>
      rw [countOn, List.countP_cons, ih]
      by_cases within :
        inside rows columns (place.1 + step.1) (place.2 + step.2) = true
      · rcases inside_iff.mp within with
          ⟨down, right, rowEqual, columnEqual, rowInside, columnInside⟩
        have inArray : down * columns + right < cells.size := by
          rw [full]
          exact positionOf_lt rowInside columnInside
        have picked :
            pick cells ((place.1 + step.1) * columns + (place.2 + step.2)) =
            .ok cells[down * columns + right] := by
          rw [rowEqual, columnEqual, ← Int.natCast_mul, ← Int.natCast_add]
          exact pick_natCast inArray
        have on : leadsToOn rows columns cells place step =
            cells[down * columns + right].state := by
          rw [leadsToOn, within, rowEqual, columnEqual, positionOf_natCast]
          simp [Cell.isOnAt, inArray]
        rw [if_pos within, picked, on]
        change Except.ok (if cells[down * columns + right].state = true then _
          else _) = _
        split <;> rfl
      · have off : leadsToOn rows columns cells place step = false := by
          simp [leadsToOn, within]
        rw [if_neg within, off]
        rfl

section Distances

variable {rows columns : Nat} {cells : Array (Cell Value)}
  {place step other : Int × Int}

theorem leadsToOn_iff :
    leadsToOn rows columns cells place step = true ↔
      (∃ down right : Nat, place.1 + step.1 = down ∧
        place.2 + step.2 = right ∧ down < rows ∧ right < columns) ∧
      Cell.isOnAt cells
        (positionOf columns (place.1 + step.1, place.2 + step.2)) = true := by
  rw [leadsToOn, Bool.and_eq_true, inside_iff]

/-- A distance that leads to a cell that is on leads to an adjacent position. -/
theorem mem_among_of_leadsToOn {connectivity : Connectivity}
    (listed : step ∈ connectivity.steps)
    (leads : leadsToOn rows columns cells place step = true) :
    positionOf columns (place.1 + step.1, place.2 + step.2) ∈
      among connectivity rows columns place (Cell.isOnAt cells) := by
  rcases leadsToOn_iff.mp leads with
    ⟨⟨row, column, rowEqual, columnEqual, rowInside, columnInside⟩, on⟩
  have adjacent := (connectivity.mem_steps_iff place step.1 step.2).mp listed
  rw [rowEqual, columnEqual, positionOf_natCast] at on ⊢
  rw [among, Finset.mem_filter, Finset.mem_range,
    placeOf_position columnInside, ← rowEqual, ← columnEqual]
  exact ⟨positionOf_lt rowInside columnInside, adjacent, on⟩

/-- No two distances lead from a place to the same cell. -/
theorem eq_of_leadsToOn (leads : leadsToOn rows columns cells place step = true)
    (otherLeads : leadsToOn rows columns cells place other = true)
    (same : positionOf columns (place.1 + step.1, place.2 + step.2) =
      positionOf columns (place.1 + other.1, place.2 + other.2)) :
    step = other := by
  rcases leadsToOn_iff.mp leads with
    ⟨⟨row, column, rowEqual, columnEqual, -, columnInside⟩, -⟩
  rcases leadsToOn_iff.mp otherLeads with
    ⟨⟨otherRow, otherColumn, otherRowEqual, otherColumnEqual, -,
      otherInside⟩, -⟩
  rw [rowEqual, columnEqual, otherRowEqual, otherColumnEqual,
    positionOf_natCast, positionOf_natCast] at same
  have places := congrArg (placeOf columns) same
  rw [placeOf_position columnInside, placeOf_position otherInside,
    Prod.mk.injEq] at places
  exact Prod.ext (by omega) (by omega)

/-- To each adjacent position of a cell that is on leads a distance. -/
theorem exists_leadsToOn {connectivity : Connectivity} {position : Nat}
    (member : position ∈
      among connectivity rows columns place (Cell.isOnAt cells)) :
    ∃ step ∈ connectivity.steps,
      leadsToOn rows columns cells place step = true ∧
        positionOf columns (place.1 + step.1, place.2 + step.2) =
          position := by
  rw [among, Finset.mem_filter, Finset.mem_range] at member
  rcases member with ⟨inArray, adjacent, on⟩
  rcases position_of_lt inArray with ⟨rowInside, columnInside, samePosition⟩
  have rowReached : place.1 + ((placeOf columns position).1 - place.1) =
      (position / columns : Nat) := by
    rw [placeOf]
    omega
  have columnReached : place.2 + ((placeOf columns position).2 - place.2) =
      (position % columns : Nat) := by
    rw [placeOf]
    omega
  have reached :
      positionOf columns (place.1 + ((placeOf columns position).1 - place.1),
        place.2 + ((placeOf columns position).2 - place.2)) = position := by
    rw [rowReached, columnReached, positionOf_natCast, samePosition]
  refine ⟨((placeOf columns position).1 - place.1,
    (placeOf columns position).2 - place.2), ?_, ?_, reached⟩
  · rw [connectivity.mem_steps_iff place, rowReached, columnReached]
    exact adjacent
  · exact leadsToOn_iff.mpr
      ⟨⟨_, _, rowReached, columnReached, rowInside, columnInside⟩,
        reached.symm ▸ on⟩

end Distances

/--
The distances that lead to cells that are on are as many as the adjacent
positions.
-/
theorem countP_steps_eq_card (connectivity : Connectivity) (rows columns : Nat)
    (cells : Array (Cell Value)) (place : Int × Int) :
    connectivity.steps.countP (leadsToOn rows columns cells place) =
      (among connectivity rows columns place (Cell.isOnAt cells)).card := by
  have distinct :=
    connectivity.nodup_steps.filter (leadsToOn rows columns cells place)
  rw [List.countP_eq_length_filter, ← List.toFinset_card_of_nodup distinct]
  refine Finset.card_bij
    (fun step _ =>
      positionOf columns (place.1 + step.1, place.2 + step.2)) ?_ ?_ ?_
  · intro step member
    rw [List.mem_toFinset, List.mem_filter] at member
    exact mem_among_of_leadsToOn member.1 member.2
  · intro step member other otherMember same
    rw [List.mem_toFinset, List.mem_filter] at member otherMember
    exact eq_of_leadsToOn member.2 otherMember.2 same
  · intro position member
    rcases exists_leadsToOn member with ⟨step, listed, leads, reached⟩
    refine ⟨step, ?_, reached⟩
    rw [List.mem_toFinset, List.mem_filter]
    exact ⟨listed, leads⟩

/--
In a full array a cell has as many live neighbours as there are adjacent
positions that hold a cell which is on.
-/
theorem live_eq_card {rows columns : Nat} {cells : Array (Cell Value)}
    (full : cells.size = rows * columns) (connectivity : Connectivity)
    (cell : Cell Value) :
    live connectivity rows columns cells cell =
      .ok (among connectivity rows columns (cell.row, cell.column)
        (Cell.isOnAt cells)).card := by
  rw [← countP_steps_eq_card]
  exact countOn_eq_countP full (cell.row, cell.column) connectivity.steps

end Neighbours

end SoundGrid

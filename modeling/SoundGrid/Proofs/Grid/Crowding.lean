import Mathlib.Algebra.Group.Int.Even
import SoundGrid.Proofs.Grid.Agreement
import SoundGrid.Proofs.Grid.Interruption
import SoundGrid.Proofs.Grid.LiveNeighbours
import SoundGrid.Proofs.Number.Whole
import SoundGrid.Proofs.Sample.Threshold

/-!
# Crowding

At the level of the neighbourhood a loud sample turns a cell on while few of
its neighbours are on.  In a grid that is off, the neighbours that a cell finds
on are those that the same frame has turned on before it, so a loud frame lets
each cell choose against the cells in front of it.  A cell whose count reaches
the limit holds its state or is turned off; it is off in both cases.

With sides only and a limit of one, a cell comes on when no cell in front of it
is on.  This makes a checkerboard in every shape: a place whose row and column
have an odd sum has a neighbour in front of it, and each neighbour of a place
has a sum of the other parity.
-/

namespace SoundGrid

/--
A count that is below a limit; a limit that is a NaN has nothing below it.
-/
def Number.IsFewer (count : Nat) (limit : Float) : Prop :=
  ∃ rank, Number.Double.rank? limit = some rank ∧ ((count : ℝ) : EReal) < rank

/-- A limit of at most one allows no neighbour. -/
theorem Number.isFewer_iff_eq_zero {count : Nat} {limit : Float}
    (positive : 0.0 < limit) (atMostOne : limit ≤ 1.0) :
    IsFewer count limit ↔ count = 0 := by
  rcases Double.lt_iff.mp positive with ⟨lower, rank, isZero, ranked, above⟩
  rcases Double.le_iff.mp atMostOne with
    ⟨same, upper, rankedAgain, isOne, below⟩
  rw [Double.rank?_zero] at isZero
  rw [Double.rank?_one] at isOne
  rw [ranked] at rankedAgain
  cases isZero
  cases isOne
  cases rankedAgain
  constructor
  · rintro ⟨limitRank, limitRanked, fewer⟩
    rw [ranked] at limitRanked
    cases limitRanked
    have counted : ((count : ℝ) : EReal) < (((1 : ℤ) : ℝ) : EReal) :=
      fewer.trans_le below
    rw [EReal.coe_lt_coe_iff] at counted
    have small : count < 1 := by exact_mod_cast counted
    omega
  · rintro rfl
    refine ⟨rank, ranked, ?_⟩
    simpa using above

/-! ## A loud sample for a cell that is off -/

namespace Mapping

variable {Real Value : Type} [Arithmetic Real Value]

open Arithmetic

/--
A loud sample turns a cell that is off on where its neighbours are below the
limit.
-/
theorem neighborhood_of_loud
    {settings : NeighborhoodSettings Real} {sample : Value}
    (loud : above sample (setting settings.activeThreshold) = .ok true)
    {neighbours : Int} {value : Value} {state : Bool}
    (mapped : neighborhood settings sample false neighbours =
      .ok (value, state)) : less (count neighbours)
      (setting settings.neighbourLimit : Value) = .ok state := by
  simp only [neighborhood, loud] at mapped
  rcases bind_eq_ok_iff.mp mapped with ⟨active, isActive, mapped⟩
  cases isActive
  rcases bind_eq_ok_iff.mp mapped with ⟨few, compared, mapped⟩
  cases few with
  | true =>
      cases mapped
      exact compared
  | false =>
      rcases bind_eq_ok_iff.mp mapped with ⟨inactive, -, mapped⟩
      cases inactive with
      | true =>
          cases mapped
          exact compared
      | false =>
          rcases bind_eq_ok_iff.mp mapped with ⟨many, -, mapped⟩
          -- Above the limit the cell is turned off, at the limit its state is
          -- held.
          have off : state = false := by
            cases many <;> cases mapped <;> rfl
          rw [off]
          exact compared

end Mapping

theorem Sample.less_count (count : Nat) (limit : Float) :
    ∃ fewer, Arithmetic.less (Arithmetic.count count)
      (Arithmetic.setting limit : Sample) =
      .ok fewer ∧ (fewer = true ↔ Number.IsFewer count limit) := by
  refine ⟨Number.compare? (.int count) (.double limit) == some .lt, rfl, ?_⟩
  rw [Number.compare?_eq, Number.IsFewer]
  change (Number.compareRanks (some ((count : ℤ) : ℝ))
    (Number.Double.rank? limit) == _) = true ↔ _
  rw [Int.cast_natCast]
  cases Number.Double.rank? limit with
  | none => simp
  | some rank => simp [compare_lt_iff_lt]

/--
A loud sample has an order with every threshold, so its mapping cannot be
refused.
-/
theorem Mapping.exists_neighborhood_of_loud
    {settings : NeighborhoodSettings Float} {sample : Sample}
    (loud : Arithmetic.above sample
      (Arithmetic.setting settings.activeThreshold) = .ok true)
    (state : Bool) (neighbours : Int) :
    ∃ next, neighborhood settings sample state neighbours =
      .ok (sample, next) := by
  have few : ∃ few, Arithmetic.less (Arithmetic.count neighbours)
      (Arithmetic.setting settings.neighbourLimit : Sample) = .ok few :=
    ⟨_, rfl⟩
  have many : ∃ many, Arithmetic.above (Arithmetic.count neighbours)
      (Arithmetic.setting settings.neighbourLimit : Sample) = .ok many :=
    ⟨_, rfl⟩
  rcases few with ⟨few, isFew⟩
  rcases many with ⟨many, isMany⟩
  have quiet : ∃ quiet, Arithmetic.less sample
      (Arithmetic.setting settings.inactiveThreshold) = .ok quiet := by
    cases sample.isPlaced with
    | refused fault below above =>
        rw [Arithmetic.above,
          show Arithmetic.less _ sample = _ from above _] at loud
        cases loud
    | between isBelow isAbove below above apart => exact ⟨_, below _⟩
  rcases quiet with ⟨quiet, isQuiet⟩
  simp only [neighborhood, loud, isFew, isMany, isQuiet, bind, Except.bind,
    pure, Except.pure]
  cases few <;> cases quiet <;> exact ⟨_, rfl⟩

namespace Level

variable {Real Value Source : Type} [Arithmetic Real Value]
  [RandomSource Source] {frame : Frame Real Value Source} {cell : Cell Value}
  {sample : Value}

/-- A cell is mapped by the sample that it hears. -/
theorem map_neighborhood (heard : frame.sample cell.index = .ok sample)
    (neighbours : Int) (source : Source) :
    neighborhood.map cell frame neighbours source =
      Chance.lift (Mapping.neighborhood frame.settings.neighborhood sample
        cell.state neighbours)
        source := by
  simp only [map, heard]
  rfl

theorem less_of_map_neighborhood (heard : frame.sample cell.index = .ok sample)
    (loud : Arithmetic.above sample
      (Arithmetic.setting frame.settings.neighborhood.activeThreshold) =
        .ok true) (off : cell.state = false) {neighbours : Int} {value : Value}
        {state : Bool} {source rest : Source}
        (mapped : neighborhood.map cell frame neighbours source =
          .ok (value, state) rest) :
    Arithmetic.less (Arithmetic.count neighbours)
      (Arithmetic.setting frame.settings.neighborhood.neighbourLimit : Value) =
        .ok state := by
  rw [map_neighborhood heard, off, Chance.lift_eq_ok_iff] at mapped
  exact Mapping.neighborhood_of_loud loud mapped.1

end Level

/-! ## The checkerboard -/

namespace Neighbours

/-- The positions in front of a position that are next to its place and on. -/
def onInFront (connectivity : Connectivity) (rows columns : Nat)
    (on : Nat → Bool) (position : Nat) : Finset Nat :=
  among connectivity rows columns (placeOf columns position) fun other =>
    decide (other < position) && on other

theorem mem_onInFront {connectivity : Connectivity} {rows columns : Nat}
    {on : Nat → Bool} {position other : Nat}
    (inside : position < rows * columns) :
    other ∈ onInFront connectivity rows columns on position ↔
      connectivity.Adjacent (placeOf columns position) (placeOf columns other) ∧
        other < position ∧ on other = true := by
  rw [onInFront, among, Finset.mem_filter, Finset.mem_range, Bool.and_eq_true,
    decide_eq_true_iff]
  constructor
  · rintro ⟨-, adjacent, before, isOn⟩
    exact ⟨adjacent, before, isOn⟩
  · rintro ⟨adjacent, before, isOn⟩
    exact ⟨before.trans inside, adjacent, before, isOn⟩

/--
Every place but the first has a neighbour in front of it, to the left or above.
-/
theorem exists_adjacent_in_front {rows columns position : Nat}
    (inside : position < rows * columns)
    (notFirst : position / columns + position % columns ≠ 0) :
    ∃ other, other < position ∧
      Connectivity.orthogonal.Adjacent (placeOf columns position)
        (placeOf columns other) := by
  rcases position_of_lt inside with ⟨-, columnInside, whole⟩
  by_cases first : position % columns = 0
  · rw [first, Nat.add_zero] at notFirst
    rcases Nat.exists_eq_succ_of_ne_zero notFirst with ⟨above, row⟩
    refine ⟨above * columns + position % columns, ?_, ?_⟩
    · rw [row, Nat.succ_mul] at whole
      omega
    · rw [placeOf_position columnInside, placeOf, row, Connectivity.Adjacent]
      omega
  · rcases Nat.exists_eq_succ_of_ne_zero first with ⟨left, column⟩
    refine ⟨position / columns * columns + left, by omega, ?_⟩
    rw [placeOf_position (by omega), placeOf, column, Connectivity.Adjacent]
    omega

/-- Neighbours by a side have sums of rows and columns that differ by one. -/
theorem even_iff_not_even_of_adjacent {columns position other : Nat}
    (adjacent : Connectivity.orthogonal.Adjacent (placeOf columns position)
      (placeOf columns other)) :
    Even (other / columns + other % columns) ↔
      ¬ Even (position / columns + position % columns) := by
  simp only [Connectivity.Adjacent, placeOf] at adjacent
  rw [Nat.even_iff, Nat.even_iff]
  omega

/--
Positions that are on when none in front of them is on make a checkerboard.
The induction is on the position: the ones in front are on by parity already.
-/
theorem checkerboard {rows columns : Nat} {on : Nat → Bool}
    (choice : ∀ position, position < rows * columns →
      (on position = true ↔ onInFront .orthogonal rows columns on position = ∅))
    (position : Nat) (inside : position < rows * columns) :
    on position = true ↔ Even (position / columns + position % columns) := by
  induction position using Nat.strong_induction_on with
  | h position ih =>
      rw [choice position inside]
      constructor
      · intro none
        by_contra odd
        have notFirst : position / columns + position % columns ≠ 0 := by
          intro first
          rw [first] at odd
          exact odd (by decide)
        rcases exists_adjacent_in_front inside notFirst with
          ⟨other, before, adjacent⟩
        have isOn : on other = true :=
          (ih other before (before.trans inside)).mpr
            ((even_iff_not_even_of_adjacent adjacent).mpr odd)
        have counted := (mem_onInFront inside).mpr ⟨adjacent, before, isOn⟩
        rw [none] at counted
        exact Finset.notMem_empty other counted
      · intro even
        rw [Finset.eq_empty_iff_forall_notMem]
        intro other counted
        rcases (mem_onInFront inside).mp counted with ⟨adjacent, before, isOn⟩
        have otherEven := (ih other before (before.trans inside)).mp isOn
        exact (even_iff_not_even_of_adjacent adjacent).mp otherEven even

end Neighbours

/-! ## A loud frame -/

namespace Grid

section InFront

variable {Real Value Source : Type}

/-- The cells in front of a cell that are next to it and on. -/
def onInFrontOf (grid : Grid Real Value Source)
    (position : Fin grid.cells.size) : Finset (Fin grid.cells.size) :=
  (grid.onNextTo grid.connectivity (grid.placeAt position)).filter fun other =>
    other < position

theorem LaidOut.card_onInFront {grid : Grid Real Value Source}
    (laidOut : grid.LaidOut) (position : Fin grid.cells.size) :
    (Neighbours.onInFront grid.connectivity grid.rows grid.columns
      (Cell.isOnAt grid.cells) position).card =
      (grid.onInFrontOf position).card := by
  rw [Neighbours.onInFront, laidOut.card_among, ← laidOut.placeAt_eq]
  congr 1
  ext other
  simp only [onInFrontOf, onNextTo, switchedOn, isOnAt_eq_state,
    Finset.mem_filter, Finset.mem_univ, true_and, Bool.and_eq_true,
    decide_eq_true_iff, Fin.val_fin_lt]
  constructor
  · rintro ⟨adjacent, before, on⟩
    exact ⟨⟨on, adjacent⟩, before⟩
  · rintro ⟨⟨on, adjacent⟩, before⟩
    exact ⟨adjacent, before, on⟩

/-- A grid of which no cell is on. -/
def IsOff (grid : Grid Real Value Source) : Prop :=
  ∀ cell ∈ grid.cells, cell.state = false

/-- New cells are off. -/
theorem isOff_layOut [Arithmetic Real Value] (grid : Grid Real Value Source)
    (rows columns : Nat) : (grid.layOut rows columns).IsOff := by
  intro cell member
  rcases Array.mem_map.mp member with ⟨index, -, rfl⟩
  rfl

/--
In a frame that starts with all cells off, the ones in front are all that is on.
-/
theorem IsOff.isOnInSweep {grid : Grid Real Value Source} (off : grid.IsOff)
    (new : Array (Cell Value)) (position : Nat) :
    isOnInSweep grid.cells new position =
      fun other => decide (other < position) && Cell.isOnAt new other := by
  funext other
  rw [Grid.isOnInSweep]
  split
  · next before => simp [before]
  · next behind =>
      have old : Cell.isOnAt grid.cells other = false := by
        rw [Cell.isOnAt]
        cases found : grid.cells[other]? with
        | none => rfl
        | some cell => exact off cell (Array.mem_of_getElem? found)
      simp [behind, old]

end InFront

variable {Source : Type} [RandomSource Source]

/-- A signal whose samples are all above the threshold that turns cells on. -/
def IsLoud (grid : Grid Float Sample Source) (signal : Array Sample) : Prop :=
  ∀ sample ∈ signal, Arithmetic.above sample
    (Arithmetic.setting grid.settings.neighborhood.activeThreshold) = .ok true

variable {grid after : Grid Float Sample Source} {signal : Array Sample}
  {now : Number}

/-- A frame keeps the shape and the neighbourhood. -/
theorem shape_of_advance
    (completed : grid.advance signal now = (.ok (), after)) :
    after.rows = grid.rows ∧ after.columns = grid.columns ∧
      after.connectivity = grid.connectivity := by
  rcases (Completion.mk grid signal now after completed).exists_swept with
    ⟨-, cells, source, -, left⟩
  change after = grid.finished signal now cells source at left
  rw [left]
  exact ⟨rfl, rfl, rfl⟩

theorem laidOut_of_advance (reachable : Reachable grid)
    (completed : grid.advance signal now = (.ok (), after)) :
    after.LaidOut := by
  have laidOut := reachable.laidOut.advance signal now
  rw [completed] at laidOut
  exact laidOut

/--
The neighbours that a cell finds on are those that the frame has turned on
before it.
-/
theorem neighboursInSweep_eq_card (reachable : Reachable grid)
    (level : grid.level = .neighborhood) (off : grid.IsOff)
    (completed : grid.advance signal now = (.ok (), after))
    (position : Fin after.cells.size) :
    grid.neighboursInSweep after.cells position =
      (after.onInFrontOf position).card := by
  rcases shape_of_advance completed with ⟨rows, columns, connectivity⟩
  rw [← (laidOut_of_advance reachable completed).card_onInFront,
    neighboursInSweep, if_pos (Or.inr level), off.isOnInSweep, rows, columns,
    connectivity]
  rfl

/--
In a loud frame a cell comes on when fewer in front of it are on than the limit.
-/
theorem state_iff_isFewer (reachable : Reachable grid)
    (level : grid.level = .neighborhood) (off : grid.IsOff)
    (loud : grid.IsLoud signal)
    (completed : grid.advance signal now = (.ok (), after))
    (position : Fin after.cells.size) :
    after.cells[position].state = true ↔
      Number.IsFewer (after.onInFrontOf position).card
        grid.settings.neighborhood.neighbourLimit := by
  rcases advance_mappedInOrder reachable completed with
    ⟨size, sources, -, -, inOrder⟩
  have inside : position < grid.cells.size := position.isLt.trans_eq size
  have oldFound := Array.getElem?_eq_getElem inside
  have newFound := Array.getElem?_eq_getElem position.isLt
  rcases (inOrder position _ _ oldFound newFound).mapped with ⟨value, mapped, -⟩
  have kept : grid.cells[position].keepValue.index = position :=
    (reachable.laidOut.places position _ oldFound).index
  rcases grid.exists_sample_frame (nonempty_of_advance completed) kept with
    ⟨sample, sampleFound, heard⟩
  have isLoud := loud sample (Array.mem_of_getElem? sampleFound)
  have isOff : grid.cells[position].keepValue.state = false :=
    off grid.cells[position] (Array.getElem_mem inside)
  rw [level, neighboursInSweep_eq_card reachable level off completed] at mapped
  have compared := Level.less_of_map_neighborhood heard isLoud isOff mapped
  rcases Sample.less_count (after.onInFrontOf position).card
    grid.settings.neighborhood.neighbourLimit with ⟨fewer, answered, isFewer⟩
  cases answered.symm.trans compared
  exact isFewer

/-! ## The pattern that a loud frame makes -/

/--
With sides only and a limit of at most one a loud frame makes a checkerboard.
-/
theorem state_iff_even (reachable : Reachable grid)
    (level : grid.level = .neighborhood) (off : grid.IsOff)
    (loud : grid.IsLoud signal)
    (completed : grid.advance signal now = (.ok (), after))
    (sides : grid.connectivity = .orthogonal)
    (positive : 0.0 < grid.settings.neighborhood.neighbourLimit)
    (atMostOne : grid.settings.neighborhood.neighbourLimit ≤ 1.0)
    (position : Fin after.cells.size) :
    after.cells[position].state = true ↔
      Even ((after.placeAt position).1 + (after.placeAt position).2) := by
  have laidOut := laidOut_of_advance reachable completed
  rcases shape_of_advance completed with ⟨-, -, connectivity⟩
  have choice : ∀ place, place < after.rows * after.columns →
      (Cell.isOnAt after.cells place = true ↔
        Neighbours.onInFront .orthogonal after.rows after.columns
          (Cell.isOnAt after.cells) place = ∅) := by
    intro place inside
    have front :=
      laidOut.card_onInFront ⟨place, inside.trans_eq laidOut.size.symm⟩
    rw [connectivity, sides] at front
    rw [isOnAt_eq_state ⟨place, inside.trans_eq laidOut.size.symm⟩,
      state_iff_isFewer reachable level off loud completed,
      Number.isFewer_iff_eq_zero positive atMostOne, ← front,
      Finset.card_eq_zero]
  have board := Neighbours.checkerboard choice position
    (position.isLt.trans_eq laidOut.size)
  rw [← isOnAt_eq_state, board, laidOut.placeAt_eq, placeOf, ← Nat.cast_add,
    Int.even_coe_nat]

/-- Loud samples that can be stored complete the frame. -/
theorem exists_completed (reachable : Reachable grid)
    (level : grid.level = .neighborhood) (loud : grid.IsLoud signal)
    (nonempty : 0 < signal.size)
    (storable : ∀ sample ∈ signal, ∃ stored,
      Arithmetic.store sample = .ok stored)
    (now : Number) :
      ∃ after, grid.advance signal now = (.ok (), after) := by
  rcases advance_cases grid signal now with
    ⟨empty, -⟩ | ⟨cells, source, -, outcome⟩ |
    ⟨position, cell, cells, fault, rest, stuck, -⟩
  · omega
  · exact ⟨_, outcome⟩
  · -- No cell can be the one at which the frame is broken off.
    exfalso
    rcases stuck.interruptedAt with ⟨sources, interrupted⟩
    rcases interrupted.cause reachable.laidOut with ⟨old, found, cause⟩
    have kept : old.keepValue.index = position :=
      (reachable.laidOut.places position old found).index
    rcases grid.exists_sample_frame nonempty kept with
      ⟨sample, sampleFound, heard⟩
    have member := Array.mem_of_getElem? sampleFound
    rcases Mapping.exists_neighborhood_of_loud
        (loud sample member) old.keepValue.state _ with
      ⟨next, mapped⟩
    rw [level] at cause
    rcases cause with refused | ⟨value, state, returned, unstored⟩
    · rw [Level.map_neighborhood heard, Chance.lift_eq_error_iff] at refused
      cases mapped.symm.trans refused.1
    · rw [Level.map_neighborhood heard, Chance.lift_eq_ok_iff] at returned
      cases mapped.symm.trans returned.1
      rcases storable sample member with ⟨stored, isStored⟩
      cases isStored.symm.trans unstored

/--
A loud frame at the level of the neighbourhood, in a grid that is off.  When it
is completed, a cell is on exactly when the cells in front of it that are next
to it and on are fewer than the limit; with sides only and a limit of at most
one, exactly when the sum of its row and its column is even.  It is completed
when it has samples and all of them can be stored.
-/
theorem crowding_of_advance (reachable : Reachable grid)
    (level : grid.level = .neighborhood) (off : grid.IsOff)
    (loud : grid.IsLoud signal) (now : Number) :
    (∀ after, grid.advance signal now = (.ok (), after) →
      after.rows = grid.rows ∧ after.columns = grid.columns ∧
        after.connectivity = grid.connectivity ∧
        after.cells.size = grid.rows * grid.columns ∧
        (∀ position : Fin after.cells.size,
          after.cells[position].state = true ↔
            Number.IsFewer (after.onInFrontOf position).card
              grid.settings.neighborhood.neighbourLimit) ∧
        (grid.connectivity = .orthogonal →
          0.0 < grid.settings.neighborhood.neighbourLimit →
          grid.settings.neighborhood.neighbourLimit ≤ 1.0 →
          ∀ position : Fin after.cells.size,
            after.cells[position].state = true ↔
              Even ((after.placeAt position).1 + (after.placeAt position).2))) ∧
    (0 < signal.size →
      (∀ sample ∈ signal, ∃ stored, Arithmetic.store sample = .ok stored) →
        ∃ after, grid.advance signal now = (.ok (), after)) := by
  refine ⟨fun after completed => ?_, fun nonempty storable =>
    exists_completed reachable level loud nonempty storable now⟩
  rcases shape_of_advance completed with ⟨rows, columns, connectivity⟩
  have size := (laidOut_of_advance reachable completed).size
  rw [rows, columns] at size
  exact ⟨rows, columns, connectivity, size,
    state_iff_isFewer reachable level off loud completed,
    state_iff_even reachable level off loud completed⟩

/--
Three rows of three cells, which come on when no neighbour by a side is on.
-/
def board : Grid Float Sample Random.Twister :=
  (empty .neighborhood
    { Settings.standard with neighborhood.neighbourLimit := 1.0 }
    Rule.Standard.rules .orthogonal (Random.Twister.ofSeed 0)).layOut 3 3

theorem reachable_board : Reachable board :=
  .make ⟨3, rfl⟩ ⟨3, rfl⟩
    (rfl : make (.int 3) (.int 3) (.int 6) (.int 4)
      { Settings.standard with neighborhood.neighbourLimit := 1.0 }
      Rule.Standard.rules (Random.Twister.ofSeed 0) = .ok board)

theorem isLoud_board : board.IsLoud #[.ofDouble 0.5] := by
  intro sample member
  cases List.mem_singleton.mp (Array.mem_toList_iff.mpr member)
  exact eq_ok_of_toOption (by decide +kernel)

/-- A loud frame makes a checkerboard of the nine cells. -/
theorem crowding_of_advance_board :
    ∃ after : Grid Float Sample Random.Twister,
      Reachable board ∧ board.level = .neighborhood ∧ board.IsOff ∧
        board.IsLoud #[.ofDouble 0.5] ∧
        board.advance #[.ofDouble 0.5] (.int 0) = (.ok (), after) ∧
        after.cells.map (fun cell => cell.state) =
          #[true, false, true, false, true, false, true, false, true] ∧
        ∀ position : Fin after.cells.size,
          (after.cells[position].state = true ↔
            Number.IsFewer (after.onInFrontOf position).card 1.0) ∧
          (after.cells[position].state = true ↔
            Even
              ((after.placeAt position).1 + (after.placeAt position).2)) := by
  have off : board.IsOff := isOff_layOut _ 3 3
  have done : (board.advance #[.ofDouble 0.5] (.int 0)).1.isOk = true := by
    decide +kernel
  have completed := eq_ok_of_isOk done
  rcases (crowding_of_advance reachable_board rfl off isLoud_board (.int 0)).1 _
      completed with
    ⟨-, -, -, -, chosen, even⟩
  exact ⟨_, reachable_board, rfl, off, isLoud_board, completed,
    by decide +kernel,
    fun position => ⟨chosen position,
      even rfl (by decide +kernel) (by decide +kernel) position⟩⟩

end Grid

end SoundGrid

import SoundGrid.Proofs.Grid.Lookup
import SoundGrid.Proofs.Grid.Storing
import SoundGrid.Proofs.Mapping

/-!
# Frames that are completed

A grid that is made out of integer dimensions completes every frame of doubles
or singles, at every level and with the standard rules in any order.  Signals
may be shorter or longer than the grid and than the signals before, and the
grid may have no cells at all.

Two invariants carry this.  The layout puts every neighbour that is counted
into the array, and every cell stores a value that the arithmetic does not
refuse, whatever was refused in earlier frames.
-/

namespace SoundGrid.Grid

variable {Value Source : Type} {sound : Value → Prop}

/-! ## Frames -/

section Indices

variable {Real : Type} [RandomSource Source] {grid : Grid Real Value Source}

/--
The indices of a frame: those of the own sample, of the rippled one, of a drawn
one, and of the neighbours that are counted.
-/
structure IndicesInside (grid : Grid Real Value Source)
    (signal : Array Value) : Prop where
  modulus : signal.size ≠ 0
  own : ∀ cell ∈ grid.cells,
    0 ≤ cell.index.fmod signal.size ∧ cell.index.fmod signal.size < signal.size
  rippled : ∀ cell ∈ grid.cells,
    0 ≤ (cell.index + (grid.offset % signal.size : Nat)).fmod signal.size ∧
      (cell.index + (grid.offset % signal.size : Nat)).fmod signal.size <
        signal.size
  drawn :
    ∀ source : Source, (RandomSource.below signal.size source).1 < signal.size
  neighbour : ∀ cell ∈ grid.cells, ∀ step ∈ grid.connectivity.steps,
    Neighbours.inside grid.rows grid.columns (cell.row + step.1)
      (cell.column + step.2) = true →
      0 ≤ (cell.row + step.1) * grid.columns + (cell.column + step.2) ∧
        (cell.row + step.1) * grid.columns + (cell.column + step.2) <
          grid.cells.size

theorem LaidOut.indicesInside (laidOut : grid.LaidOut) {signal : Array Value}
    (nonempty : 0 < signal.size) : grid.IndicesInside signal where
  modulus := Nat.ne_of_gt nonempty
  own cell _ := fmod_isIndex cell.index nonempty
  rippled cell _ := fmod_isIndex _ nonempty
  drawn source := RandomSource.below_lt signal.size source nonempty
  neighbour cell _ step _ within := by
    rcases Neighbours.inside_iff.mp within with
      ⟨down, right, rowEqual, columnEqual, rowInside, columnInside⟩
    have inArray := Neighbours.positionOf_lt rowInside columnInside
    rw [rowEqual, columnEqual, laidOut.size, ← Int.natCast_mul,
      ← Int.natCast_add]
    exact ⟨Int.natCast_nonneg _, Int.ofNat_lt.mpr inArray⟩

end Indices

section Frames

variable {Real : Type} [Arithmetic Real Value] [RandomSource Source]
  {grid : Grid Real Value Source}

/--
In a grid that is laid out no cell is left unmapped by a frame of good samples.
-/
theorem LaidOut.exists_swept (total : Arithmetic.Total sound)
    (laidOut : grid.LaidOut) (stores : StoresOnly sound grid.cells)
    {signal : Array Value} (canMap : Level.CanMap sound (grid.frame signal))
    (now : Number) :
    ∃ cells source, Swept grid (grid.frame signal) grid.cells.size
        cells source ∧
      grid.advance signal now =
        (.ok (), grid.finished signal now cells source) := by
  have nonempty : 0 < signal.size := canMap.nonempty
  rcases advance_cases grid signal now with
    ⟨empty, -⟩ | done | ⟨position, cell, cells, fault, rest, stuck, -⟩
  · omega
  · exact done
  · exfalso
    rcases stuck with ⟨found, source, swept, refused⟩
    have oldFound : grid.cells[position]? = some cell := by
      rw [← swept.behind (Nat.le_refl position), found]
    have counted := laidOut.seenNeighbours_eq (swept.seen found) oldFound
    have soundCell : sound cell.keepValue.value := stores position cell oldFound
    have returns : Chance.Returns
        (mapCell grid (grid.frame signal)
          (cells.setIfInBounds position cell.keepValue) cell.keepValue) fun _ =>
            True := by
      apply Chance.Returns.bind (Chance.returns_lift_of_exists ⟨_, counted⟩)
      intro neighbours _
      apply (Level.returns_map total grid.level soundCell canMap
        neighbours).bind
      rintro ⟨value, state⟩ soundValue
      apply Chance.Returns.bind
        (Chance.returns_lift_of_exists (total.storable value soundValue))
      intro stored _
      exact Chance.returns_pure trivial
    rcases returns source with ⟨mapped, left, made, -⟩
    rw [refused] at made
    cases made

end Frames

variable [RandomSource Source]

theorem finished_of_standard {grid : Grid Float Sample Source}
    (reachable : Reachable grid)
    (standard : grid.rules.Perm Rule.Standard.rules) {signal : Array Sample}
    (nonempty : 0 < signal.size)
    (floating : ∀ sample ∈ signal, sample.IsFloating) (now : Number) :
    ∃ cells source, grid.advance signal now =
      (.ok (), grid.finished signal now cells source) := by
  have total := Sample.total_isFloating
  have canMap : Level.CanMap Sample.IsFloating (grid.frame signal) :=
    { length := rfl
      nonempty := nonempty
      samples := floating
      rules := fun rule listed =>
        Rule.Standard.isReliable total (standard.mem_iff.mp listed) }
  rcases reachable.laidOut.exists_swept total
      (reachable.storesOnly total.toStores) canMap now with
    ⟨cells, source, -, completed⟩
  exact ⟨cells, source, completed⟩

/--
With the standard rules in any order a grid that is made out of integer
dimensions completes every frame of doubles or singles, and the ripple has come
to a place inside the signal.
-/
theorem advance_completed_of_standard {grid : Grid Float Sample Source}
    (reachable : Reachable grid)
    (standard : grid.rules.Perm Rule.Standard.rules) {signal : Array Sample}
    (nonempty : 0 < signal.size)
    (floating : ∀ sample ∈ signal, sample.IsFloating) (now : Number) :
    (∃ after, grid.advance signal now = (.ok (), after) ∧
      after.offset < signal.size) ∧
      grid.IndicesInside signal := by
  rcases finished_of_standard reachable standard nonempty floating now with
    ⟨cells, source, completed⟩
  exact ⟨⟨_, completed, Nat.mod_lt _ nonempty⟩,
    reachable.laidOut.indicesInside nonempty⟩

/--
Three cells in a row, with the rules in another order, after a frame of five
samples: the ripple has come further than the next frame has samples.
-/
theorem advance_completed_of_standard_row :
    ∃ (grid : Grid Float Sample Random.Twister) (signal : Array Sample),
      Reachable grid ∧ grid.rules.Perm Rule.Standard.rules ∧ 0 < signal.size ∧
        (∀ sample ∈ signal, sample.IsFloating) ∧ signal.size < grid.offset ∧
        (∃ after, grid.advance signal (.int 1) = (.ok (), after) ∧
          after.offset < signal.size) ∧
        grid.IndicesInside signal := by
  let start : Grid Float Sample Random.Twister :=
    (empty .rules { Settings.standard with rules.rippleSpeed := 4 }
      [Rule.Standard.midFlip, Rule.Standard.loud, Rule.Standard.quiet]
      .orthogonal (Random.Twister.ofSeed 0)).layOut 1 3
  let first : Array Sample :=
    #[.ofDouble 0.5, .single 0.25, .wide 1.0, .ofDouble 0.0, .wide 0.5]
  let second : Array Sample := #[.single 0.5, .ofDouble 0.75]
  have made :
      make (.int 1) (.int 3) (.int 5) (.int 4) start.settings start.rules
      (Random.Twister.ofSeed 0) = .ok start := rfl
  have reachable : Reachable (start.perform (.advance first (.int 0))).2 :=
    .perform (.make ⟨1, rfl⟩ ⟨3, rfl⟩ made) _ trivial
  have standard : (start.perform (.advance first (.int 0))).2.rules.Perm
      Rule.Standard.rules := by
    change (start.advance first (.int 0)).2.rules.Perm _
    rw [(controls_advance start first _).1]
    exact (List.Perm.swap ..).trans ((List.Perm.swap ..).cons _)
  have firstFloating : ∀ sample ∈ first, sample.IsFloating := by
    intro sample member
    simp only [first, List.mem_toArray, List.mem_cons, List.not_mem_nil,
      or_false] at member
    rcases member with rfl | rfl | rfl | rfl | rfl
    · exact .double _
    · exact .single _
    · exact .wide _
    · exact .double _
    · exact .wide _
  have floating : ∀ sample ∈ second, sample.IsFloating := by
    intro sample member
    simp only [second, List.mem_toArray, List.mem_cons, List.not_mem_nil,
      or_false] at member
    rcases member with rfl | rfl
    · exact .single _
    · exact .double _
  have carried :
      second.size < (start.perform (.advance first (.int 0))).2.offset := by
    rcases finished_of_standard (.make ⟨1, rfl⟩ ⟨3, rfl⟩ made)
      ((List.Perm.swap ..).trans ((List.Perm.swap ..).cons _))
        (by decide) firstFloating
      (.int 0) with ⟨cells, source, completed⟩
    change second.size < (start.advance first (.int 0)).2.offset
    rw [completed]
    exact (by decide : 2 < 4)
  exact ⟨_, second, reachable, standard, by decide, floating, carried,
    advance_completed_of_standard reachable standard (by decide) floating
      (.int 1)⟩

end SoundGrid.Grid

import SoundGrid.Proofs.Picture.Pixel
import SoundGrid.Proofs.Playback.Frame

/-!
# Pictures of played grids

The standard look is one of numbers, and the cells of a grid that is played hold
doubles, so every cell has a colour at every level. The only thing that can keep
such a grid from being drawn is the size of the picture, whose bytes have to be
counted.
-/

namespace SoundGrid

variable {Source : Type} [RandomSource Source] {grid : Grid Float Sample Source}

/-- The cells of a played grid hold doubles, and so do their times. -/
theorem Grid.IsPlayed.isNumeric (played : grid.IsPlayed) :
    ∀ cell ∈ grid.cells, cell.IsNumeric := by
  rcases played.tracked with ⟨frames, tracked, timed⟩
  have stores := played.reachable.storesOnly Sample.stores_isStored
  intro cell member
  rcases Array.getElem?_of_mem member with ⟨position, found⟩
  refine Cell.isNumeric_of_isStored (stores position cell found)
    fun stamp lastOff => ?_
  rcases (tracked.records position cell found).lastOff with
    ⟨count, frame, own, -, same⟩ | ⟨-, none⟩
  · rw [lastOff] at same
    cases same
    exact timed frame (List.mem_of_getElem? own)
  · rw [lastOff] at none
    cases none

namespace Look

/-- The standard look with cells of another size. -/
def sized (size : ℤ) : Look :=
  { standard with cellSize := .int size }

theorem sized_injective {size other : ℤ}
    (same : sized size = sized other) : size = other := by
  cases congrArg cellSize same
  rfl

/--
A played grid with cells can be drawn when the bytes of the picture can be
counted: four for each of the three channels of a pixel.
-/
theorem exists_render_iff {size : ℤ} (visible : 0 < size)
    (played : grid.IsPlayed) (rows : 0 < grid.rows) (columns : 0 < grid.columns)
    (time : Float) :
    (∃ picture, (sized size).render grid (.double time) = .ok picture) ↔
      grid.rows * size * (grid.columns * size) * 12 < countLimit := by
  obtain ⟨pixels, rfl⟩ : ∃ pixels : ℕ, size = pixels := ⟨size.toNat, by omega⟩
  have some : 0 < pixels := by omega
  have high := Nat.mul_pos rows some
  have wide := Nat.mul_pos columns some
  have numeric : (sized pixels).IsNumeric := { isNumeric_standard with }
  have isSized : (sized pixels).IsSized pixels 1 := ⟨rfl, rfl, some, some⟩
  rcases isNumeric_standard.background with ⟨background, isBackground⟩
  have filled := swatchOf_of_isColour isBackground
  have countable_iff : IsCountable grid.rows grid.columns pixels ↔
      grid.rows * pixels * (grid.columns * pixels) * 12 < countLimit := by
    rw [IsCountable, max_eq_right high, max_eq_right wide,
      and_iff_right_iff_imp]
    intro fits
    have less : pixels ≤ grid.rows * pixels * (grid.columns * pixels) :=
      (Nat.le_mul_of_pos_left _ rows).trans (Nat.le_mul_of_pos_right _ wide)
    omega
  have cast :
      grid.rows * (pixels : ℤ) * (grid.columns * pixels) * 12 < countLimit ↔
      grid.rows * pixels * (grid.columns * pixels) * 12 < countLimit := by
    exact_mod_cast Iff.rfl
  rw [cast, ← countable_iff]
  constructor
  · rintro ⟨picture, rendered⟩
    exact (isSized.draws_of_render filled played.reachable.laidOut rendered).1
  · intro countable
    have timed : (Number.double time).toDouble = .ok time := rfl
    rcases numeric.exists_colours played.reachable.laidOut played.isNumeric
      timed (countable.cells some) with ⟨colours, painted⟩
    exact isSized.exists_render filled painted countable

end Look

end SoundGrid

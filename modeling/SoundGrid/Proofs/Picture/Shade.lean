import SoundGrid.Picture
import SoundGrid.Proofs.Grid.Layout
import SoundGrid.Proofs.Grid.Neighbourhood

/-!
# The colours of a grid

Colours are put at the places that the cells know.  In a grid that is laid out
every cell is at its place and every place has a cell, so the colours are those
of the cells, in their order.
-/

namespace SoundGrid.Palette

variable {Real Value Channel Source : Type} [Arithmetic Real Value]
  [Blending Channel Value]

/-- The colour that a cell is given at a level. -/
def colourOf (palette : Palette Channel Value) (level : Level) (gain : Real)
    (now : Number) (cell : Cell Value) : Except Fault (Colour Channel) := do
  (← palette.shade level gain now cell).colour

/-- A coordinate inside a row is a place of it. -/
theorem place_natCast {size coordinate : Nat} (inside : coordinate < size) :
    place size (coordinate : Int) = .ok coordinate := by
  have within : (0 : Int) ≤ coordinate ∧ (coordinate : Int) < size := by omega
  rw [place, if_pos within, Int.toNat_natCast]

/--
Cells that are at the places behind some colours are given the next colours.
-/
theorem shadeAll_eq (palette : Palette Channel Value) (level : Level)
    (gain : Real) (now : Number) {rows columns : Nat} (blank : Colour Channel)
    (cells : List (Cell Value)) (colours : List (Colour Channel))
    (size : colours.length + cells.length = rows * columns)
    (places : ∀ (position : Nat) (cell : Cell Value), cells[position]? =
      some cell → cell.AtPlace (colours.length + position) columns) :
    palette.shadeAll level gain now rows columns cells
        (colours ++ List.replicate cells.length blank).toArray =
      (cells.mapM (palette.colourOf level gain now)).map fun others =>
        (colours ++ others).toArray := by
  induction cells generalizing colours with
  | nil => simp [shadeAll, Except.map, pure, Except.pure]
  | cons cell rest ih =>
      rw [List.length_cons] at size
      have own := places 0 cell rfl
      rw [Nat.add_zero] at own
      rcases Neighbours.position_of_lt
          (show colours.length < rows * columns by omega) with
        ⟨row, column, position⟩
      have onward (colour : Colour Channel) := ih (colours ++ [colour])
        (by rw [List.length_append, List.length_singleton]; omega)
        fun later other found => by
          have atPlace := places (later + 1) other found
          rwa [List.length_append, List.length_singleton, Nat.add_assoc,
            Nat.add_comm 1]
      have placed (colour : Colour Channel) :
          Array.setIfInBounds
              (colours ++ List.replicate (cell :: rest).length blank).toArray
              (colours.length / columns * columns + colours.length % columns)
              colour =
            (colours ++ [colour] ++
              List.replicate rest.length blank).toArray := by
        rw [position, List.setIfInBounds_toArray,
          List.set_append_right _ _ (Nat.le_refl _), Nat.sub_self]
        simp [List.replicate_succ]
      simp only [shadeAll, List.mapM_cons, colourOf, own.row, own.column,
        place_natCast row, place_natCast column]
      cases palette.shade level gain now cell with
      | error fault => rfl
      | ok swatch =>
          cases coloured : swatch.colour with
          | error fault => simp [coloured, bind, Except.bind, Except.map]
          | ok colour =>
              simp only [coloured, bind, Except.bind, placed]
              rw [onward]
              cases rest.mapM (palette.colourOf level gain now) with
              | error fault => rfl
              | ok others => simp [Except.map, pure, Except.pure]

/-- The colours of a grid that is laid out are those of its cells. -/
theorem shades_eq_ok_iff (palette : Palette Channel Value)
    {grid : Grid Real Value Source} (laidOut : grid.LaidOut) (now : Number)
    (blank : Colour Channel) {colours : Array (Colour Channel)} :
    palette.shades grid now blank = .ok colours ↔
      List.Forall₂
        (fun cell colour =>
          palette.colourOf grid.level grid.settings.opacity.gain now cell =
            .ok colour)
        grid.cells.toList colours.toList := by
  have size : grid.rows * grid.columns = grid.cells.toList.length := by
    rw [Array.length_toList, laidOut.size]
  have filled :=
    shadeAll_eq palette grid.level grid.settings.opacity.gain now blank
    grid.cells.toList [] (by rw [size, List.length_nil, Nat.zero_add])
    fun position cell found => by
      rw [List.length_nil, Nat.zero_add]
      exact laidOut.places position cell (Array.getElem?_toList ▸ found)
  rw [shades, size, ← List.toArray_replicate]
  rw [List.nil_append] at filled
  rw [filled, map_eq_ok_iff]
  constructor
  · rintro ⟨others, mapped, rfl⟩
    exact mapM_eq_ok_iff.mp mapped
  · intro each
    exact ⟨colours.toList, mapM_eq_ok_iff.mpr each, Array.toArray_toList⟩

/--
Whatever a grid looks like, the colours that are put somewhere are colours of
its cells.
-/
theorem forall_shadeAll {palette : Palette Channel Value} {level : Level}
    {gain : Real} {now : Number} {rows columns : Nat}
    {property : Colour Channel → Prop} {cells : List (Cell Value)}
    {colours others : Array (Colour Channel)}
    (shaded : palette.shadeAll level gain now rows columns cells colours =
      .ok others)
    (each : ∀ cell ∈ cells, ∀ colour,
      palette.colourOf level gain now cell = .ok colour → property colour)
    (before : ∀ colour ∈ colours, property colour) :
    ∀ colour ∈ others, property colour := by
  induction cells generalizing colours with
  | nil =>
      cases shaded
      exact before
  | cons cell rest ih =>
      rcases List.forall_mem_cons.mp each with ⟨own, later⟩
      simp only [shadeAll, bind_eq_ok_iff] at shaded
      rcases shaded with
        ⟨swatch, isShade, row, -, column, -, colour, isColour, shaded⟩
      refine ih shaded later fun other member => ?_
      rcases Array.mem_or_eq_of_mem_setIfInBounds member with earlier | rfl
      · exact before other earlier
      · exact own other (bind_eq_ok_iff.mpr ⟨swatch, isShade, isColour⟩)

/-- At the opacity level a cell is drawn by its place and its value. -/
theorem shadeAll_opacity_congr (palette : Palette Channel Value) (gain : Real)
    (now later : Number) (rows columns : Nat) {cells others : List (Cell Value)}
    (same : List.Forall₂ (fun cell other =>
      other.row = cell.row ∧ other.column = cell.column ∧
      other.value = cell.value) cells others)
    (colours : Array (Colour Channel)) :
    palette.shadeAll .opacity gain later rows columns others colours =
      palette.shadeAll .opacity gain now rows columns cells colours := by
  induction same generalizing colours with
  | nil => rfl
  | @cons cell other _ _ own _ ih =>
      rcases own with ⟨row, column, value⟩
      have shade : palette.shade .opacity gain later other =
          palette.shade .opacity gain now cell := by
        rw [shade, shade, opacity, opacity, value]
      simp only [shadeAll, shade, row, column, ih]

/--
The trace has a colour of its own, apart from those of lit and unlit cells.
-/
structure HasOwnTrace (palette : Palette Channel Value)
    (trace : Colour Channel) : Prop where
  drawn : palette.trace.colour = .ok trace
  apartFromOn : ∃ colour, palette.on.colour = .ok colour ∧ colour ≠ trace
  apartFromOff : ∃ colour, palette.off.colour = .ok colour ∧ colour ≠ trace

/--
Where states are drawn a cell has the colour of the trace when it is off and
leaves one.
-/
theorem HasOwnTrace.exists_colourOf {palette : Palette Channel Value}
    {trace : Colour Channel} (own : palette.HasOwnTrace trace) {level : Level}
    (notOpacity : level ≠ .opacity) (gain : Real) {now : Number}
    {cell : Cell Value} {traced : Bool}
    (asked : palette.isTraced now cell = .ok traced) :
    ∃ colour, palette.colourOf level gain now cell = .ok colour ∧
      (colour = trace ↔ cell.state = false ∧ traced = true) := by
  have shaded : palette.colourOf level gain now cell = (do
      (← palette.state now cell).colour) := by
    cases level with
    | opacity => exact absurd rfl notOpacity
    | direct | smoothed | probabilistic | entropy | rules | neighborhood => rfl
  rw [shaded, state, asked]
  cases cell.state with
  | true =>
      rcases own.apartFromOn with ⟨colour, on, different⟩
      exact ⟨colour, on, by simp [different]⟩
  | false =>
      cases traced with
      | true => exact ⟨trace, own.drawn, by simp⟩
      | false =>
          rcases own.apartFromOff with ⟨colour, off, different⟩
          exact ⟨colour, off, by simp [different]⟩

section Samples

variable {palette : Palette Float32 Sample} {cell : Cell Sample}

/-- A cell that never turned off leaves no trace. -/
theorem isTraced_of_none (lastOff : cell.lastOff = none) (now : Number) :
    palette.isTraced now cell = .ok false := by
  rw [isTraced, lastOff]

/--
A cell that turned off leaves a trace while its age is below the duration.
-/
theorem isTraced_of_double {given : Datum} {duration : Number}
    (lasting : palette.traceDuration = .plain given)
    (number : given.number? = some duration) {last : Float}
    (lastOff : cell.lastOff = some (.double last)) (time : Float) :
    palette.isTraced (.double time) cell =
      .ok (Number.isBelow (.double (time - last)) duration) := by
  have compared : Sample.less (.ofDouble (time - last)) (.plain given) =
      .ok (Number.isBelow (.double (time - last)) duration) := by
    simp [Sample.less, Datum.before?, Datum.numberBefore?, number,
      Number.isBelow]
  rw [isTraced, lastOff, lasting]
  exact compared

end Samples

end SoundGrid.Palette

namespace SoundGrid.Look

variable {Source : Type}

/--
A grid that is laid out has colours if its places can be counted and its cells
have colours.
-/
theorem exists_colours {look : Look} {palette : Palette Float32 Sample}
    (prepared : look.palette = .ok palette) {grid : Grid Float Sample Source}
    (laidOut : grid.LaidOut)
    (counted : checkPlaces grid.rows grid.columns = .ok ()) {now : Number}
    (each : ∀ cell ∈ grid.cells, ∃ colour,
      palette.colourOf grid.level grid.settings.opacity.gain now cell =
        .ok colour) :
    ∃ colours, look.colours grid now = .ok colours ∧
      ∀ (position : Nat) (cell : Cell Sample),
        grid.cells[position]? = some cell →
        ∃ colour, colours[position]? = some colour ∧
          palette.colourOf grid.level grid.settings.opacity.gain now cell =
            .ok colour := by
  rcases exists_mapM_eq_ok fun cell member =>
    each cell (Array.mem_toList_iff.mp member) with
    ⟨results, mapped⟩
  have related := mapM_eq_ok_iff.mp mapped
  have shaded : palette.shades grid now blank = .ok results.toArray :=
    (palette.shades_eq_ok_iff laidOut now blank).mpr related
  refine ⟨results.toArray, ?_, ?_⟩
  · rw [colours, prepared, counted]
    exact shaded
  · intro position cell found
    rcases List.forall₂_iff_get.mp related with ⟨length, pairs⟩
    rcases Array.getElem?_eq_some_iff.mp found with ⟨inside, rfl⟩
    have within : position < results.length := length ▸ inside
    exact ⟨results[position], by simp [within], pairs position inside within⟩

/-- A palette keeps the duration of its look. -/
theorem traceDuration_of_palette {look : Look}
    {palette : Palette Float32 Sample} (prepared : look.palette = .ok palette) :
    palette.traceDuration = .plain look.traceDuration := by
  simp only [Look.palette, bind_eq_ok_iff] at prepared
  rcases prepared with
    ⟨background, -, on, -, off, -, trace, -, blended, -, made⟩
  cases made
  rfl

/-- In the standard look the trace has a colour of its own. -/
theorem exists_ownTrace_standard :
    ∃ palette trace, standard.palette = .ok palette ∧
      palette.HasOwnTrace trace := by
  have computed : (do
      let palette ← standard.palette.toOption
      let trace ← palette.trace.colour.toOption
      let on ← palette.on.colour.toOption
      let off ← palette.off.colour.toOption
      pure (decide (on ≠ trace ∧ off ≠ trace))) = some true := by
    decide +kernel
  simp only [Option.bind_eq_bind, Option.bind_eq_some_iff, Option.pure_def,
    Option.some.injEq, decide_eq_true_iff] at computed
  rcases computed with
    ⟨palette, prepared, trace, traced, on, lit, off, unlit, onApart, offApart⟩
  exact ⟨palette, trace, eq_ok_of_toOption prepared, eq_ok_of_toOption traced,
    ⟨on, eq_ok_of_toOption lit, onApart⟩,
    ⟨off, eq_ok_of_toOption unlit, offApart⟩⟩

end SoundGrid.Look

import SoundGrid.Proofs.Exact.Value
import SoundGrid.Proofs.Picture.Shade
import SoundGrid.Random.Twister

/-!
# Colours without rounding

In exact arithmetic a blend of two colours lies between them in every channel,
and it moves towards the second one as this gets more weight.  So all colours of
a grid lie in a range in which those of its look lie.

Where opacities are drawn the weight is what a value times the gain leaves
between zero and one. The colour of a cell then follows from its value alone: it
lies between the background and the colour of lit cells, and a higher value is
drawn further from the background, whichever of the two is the brighter one.
-/

namespace SoundGrid

/-! ## Channels -/

/-- A time as an exact number. -/
def Number.toRat : Number → ℚ
  | .int value => value
  | .double value => Double.toRat value

/-- Values of cells are weights without being narrowed. -/
instance {Real : Type} : Blending ℚ (Exact Real) where
  one := ⟨1⟩
  time now := ⟨now.toRat⟩
  weight value := .ok value.toRat
  add := (· + ·)
  mul := (· * ·)

/-- The three channels. -/
inductive Primary where
  | red
  | green
  | blue

namespace Colour

/-- A channel of a colour. -/
def channel {Channel : Type} (colour : Colour Channel) : Primary → Channel
  | .red => colour.red
  | .green => colour.green
  | .blue => colour.blue

/-- A colour with all channels in the range of bytes. -/
def InRange (colour : Colour ℚ) : Prop :=
  ∀ primary, colour.channel primary ∈ Set.Icc (0 : ℚ) 255

/-- Two colours in the proportions that a weight gives the second. -/
def mix (first second : Colour ℚ) (weight : ℚ) : Colour ℚ where
  red := first.red * (1 - weight) + second.red * weight
  green := first.green * (1 - weight) + second.green * weight
  blue := first.blue * (1 - weight) + second.blue * weight

variable {first second : Colour ℚ} {weight : ℚ}

theorem channel_mix (first second : Colour ℚ) (weight : ℚ) (primary : Primary) :
    (first.mix second weight).channel primary =
      first.channel primary + (second.channel primary - first.channel primary) *
        weight := by
  cases primary <;> simp only [mix, channel] <;> ring

@[simp]
theorem mix_zero (first second : Colour ℚ) : first.mix second 0 = first := by
  simp [mix]

@[simp]
theorem mix_one (first second : Colour ℚ) : first.mix second 1 = second := by
  simp [mix]

/--
A blend with less weight lies on the way to one with more, in either direction.
-/
theorem mix_between (first second : Colour ℚ) {heavier : ℚ}
    (notNegative : 0 ≤ weight) (ordered : weight ≤ heavier)
    (primary : Primary) :
    (first.mix second weight).channel primary ∈
      Set.uIcc (first.channel primary)
        ((first.mix second heavier).channel primary) := by
  rw [channel_mix, channel_mix, Set.mem_uIcc]
  rcases le_total (first.channel primary) (second.channel primary) with
    brighter | darker
  · left
    have rise : 0 ≤ second.channel primary - first.channel primary :=
      sub_nonneg.mpr brighter
    exact ⟨le_add_of_nonneg_right (mul_nonneg rise notNegative),
      add_le_add_right (mul_le_mul_of_nonneg_left ordered rise) _⟩
  · right
    have fall : second.channel primary - first.channel primary ≤ 0 :=
      sub_nonpos.mpr darker
    exact ⟨add_le_add_right (mul_le_mul_of_nonpos_left ordered fall) _,
      add_le_of_nonpos_right (mul_nonpos_of_nonpos_of_nonneg fall notNegative)⟩

/-- It lies between the two colours. -/
theorem mix_mem_uIcc (first second : Colour ℚ)
    (part : weight ∈ Set.Icc (0 : ℚ) 1) (primary : Primary) :
    (first.mix second weight).channel primary ∈
      Set.uIcc (first.channel primary) (second.channel primary) := by
  have between := first.mix_between second part.1 part.2 primary
  rwa [mix_one] at between

/-- So it does not leave the range. -/
theorem InRange.mix (inRange : first.InRange) (otherInRange : second.InRange)
    (part : weight ∈ Set.Icc (0 : ℚ) 1) :
    (first.mix second weight).InRange := by
  intro primary
  exact Set.uIcc_subset_Icc (inRange primary) (otherInRange primary)
    (first.mix_mem_uIcc second part primary)

end Colour

/-! ## Weights -/

namespace Exact

variable {Real : Type} [Readable Real]

theorem less_of_lt {first second : Exact Real}
    (below : first.toRat < second.toRat) :
    Arithmetic.less first second = .ok true :=
  congrArg Except.ok (decide_eq_true below)

theorem less_of_le {first second : Exact Real}
    (notBelow : second.toRat ≤ first.toRat) :
    Arithmetic.less first second = .ok false :=
  congrArg Except.ok (decide_eq_false (not_lt.mpr notBelow))

theorem clamp_eq (value : Exact Real) :
    Palette.clamp value = .ok ⟨max 0 (min value.toRat 1)⟩ := by
  rcases lt_or_ge value.toRat 0 with negative | notNegative
  · have low : Arithmetic.less value Arithmetic.zero = .ok true :=
      less_of_lt negative
    rw [max_eq_left ((min_le_left _ _).trans negative.le), Palette.clamp, low]
    rfl
  · have low : Arithmetic.less value Arithmetic.zero = .ok false :=
      less_of_le notNegative
    rw [Palette.clamp, low]
    change (do
      let high ← Arithmetic.less (Blending.one : Exact Real) value
      pure (if high then Blending.one else value)) = _
    rcases lt_or_ge 1 value.toRat with above | notAbove
    · have high :
          Arithmetic.less (Blending.one : Exact Real) value = .ok true :=
        less_of_lt above
      rw [high, min_eq_right above.le, max_eq_right zero_le_one]
      rfl
    · have high :
          Arithmetic.less (Blending.one : Exact Real) value = .ok false :=
        less_of_le notAbove
      rw [high, min_eq_left notAbove, max_eq_right notNegative]
      rfl

end Exact

/-! ## Palettes -/

namespace Palette

/--
The palette of some colours; that of a trace is blended with the background once
for all.
-/
def prepare {Real Value Channel : Type} [Arithmetic Real Value]
    [Blending Channel Value] (background on off trace : Swatch Channel)
    (alpha duration : Value) : Except Fault (Palette Channel Value) := do
  let trace ← blend background trace alpha
  pure ⟨background, on, off, trace, duration⟩

end Palette

/-- A look reads its data one after the other and prepares a palette of them. -/
theorem Look.palette_eq (look : Look) :
    look.palette = (do
      let background ← swatchOf look.background
      let on ← swatchOf look.on
      let off ← swatchOf look.off
      let trace ← swatchOf look.trace
      Palette.prepare background on off trace (Sample.plain look.traceAlpha)
        (.plain look.traceDuration)) :=
  rfl

/-- The colours of a look, and its trace, as exact numbers. -/
structure ExactLook where
  background : Colour ℚ
  on : Colour ℚ
  off : Colour ℚ
  trace : Colour ℚ
  traceAlpha : ℚ
  traceDuration : ℚ

namespace ExactLook

/-- Colours in the range of bytes, and a trace that is blended by a part. -/
structure InRange (look : ExactLook) : Prop where
  background : look.background.InRange
  on : look.on.InRange
  off : look.off.InRange
  trace : look.trace.InRange
  traceAlpha : look.traceAlpha ∈ Set.Icc (0 : ℚ) 1

variable {Real Source : Type} [Readable Real]

/-- The palette of the look. -/
def palette (Real : Type) [Readable Real] (look : ExactLook) :
    Except Fault (Palette ℚ (Exact Real)) :=
  Palette.prepare (.ofColour look.background) (.ofColour look.on) (.ofColour
    look.off) (.ofColour look.trace) ⟨look.traceAlpha⟩ ⟨look.traceDuration⟩

/-- What the preparation comes to. -/
def prepared (Real : Type) (look : ExactLook) : Palette ℚ (Exact Real) where
  background := .ofColour look.background
  on := .ofColour look.on
  off := .ofColour look.off
  trace := .ofColour (look.background.mix look.trace look.traceAlpha)
  traceDuration := ⟨look.traceDuration⟩

theorem palette_eq (look : ExactLook) :
    look.palette Real = .ok (look.prepared Real) :=
  rfl

/-! ## Colours of cells -/

/-- How much weight a value gives the colour of lit cells. -/
def opacity (gain : Real) (value : Exact Real) : ℚ :=
  max 0 (min (value.toRat * Readable.toRat gain) 1)

theorem opacity_mem (gain : Real) (value : Exact Real) :
    opacity gain value ∈ Set.Icc (0 : ℚ) 1 :=
  ⟨le_max_left _ _, max_le zero_le_one (min_le_right _ _)⟩

theorem colourOf_opacity (look : ExactLook) (gain : Real) (now : Number)
    (cell : Cell (Exact Real)) :
    (look.prepared Real).colourOf .opacity gain now cell =
      .ok (look.background.mix look.on (opacity gain cell.value)) := by
  refine bind_eq_ok_iff.mpr ⟨.ofColour (look.background.mix look.on _), ?_, rfl⟩
  refine bind_eq_ok_iff.mpr ⟨_, rfl, ?_⟩
  exact bind_eq_ok_iff.mpr ⟨_, Exact.clamp_eq _, rfl⟩

/-- At the other levels a cell has one of three colours. -/
theorem exists_colourOf_of_state (look : ExactLook) {level : Level}
    (notOpacity : level ≠ .opacity) (gain : Real) (now : Number)
    (cell : Cell (Exact Real)) :
    ∃ colour, (look.prepared Real).colourOf level gain now cell = .ok colour ∧
      (colour = look.on ∨
        colour = look.background.mix look.trace look.traceAlpha ∨
        colour = look.off) := by
  have shaded : (look.prepared Real).colourOf level gain now cell = (do
      (← (look.prepared Real).state now cell).colour) := by
    cases level with
    | opacity => exact absurd rfl notOpacity
    | direct | smoothed | probabilistic | entropy | rules | neighborhood => rfl
  have traced :
      ∃ traced, (look.prepared Real).isTraced now cell = .ok traced := by
    rw [Palette.isTraced]
    cases cell.lastOff with
    | none => exact ⟨false, rfl⟩
    | some last => exact ⟨_, rfl⟩
  rcases traced with ⟨traced, isTraced⟩
  rw [shaded, Palette.state, isTraced]
  cases cell.state with
  | true => exact ⟨look.on, rfl, Or.inl rfl⟩
  | false =>
      cases traced with
      | true => exact ⟨look.background.mix look.trace look.traceAlpha, rfl,
        Or.inr (Or.inl rfl)⟩
      | false => exact ⟨look.off, rfl, Or.inr (Or.inr rfl)⟩

/-- Every cell has a colour, and it lies in the range in which the look lies. -/
theorem InRange.exists_colourOf {look : ExactLook} (inRange : look.InRange)
    (level : Level) (gain : Real) (now : Number) (cell : Cell (Exact Real)) :
    ∃ colour, (look.prepared Real).colourOf level gain now cell = .ok colour ∧
      colour.InRange := by
  by_cases isOpacity : level = .opacity
  · rw [isOpacity]
    exact ⟨_, look.colourOf_opacity gain now cell,
      inRange.background.mix inRange.on (opacity_mem gain cell.value)⟩
  · rcases look.exists_colourOf_of_state isOpacity gain now cell with
      ⟨colour, isColour, rfl | rfl | rfl⟩
    · exact ⟨_, isColour, inRange.on⟩
    · exact ⟨_, isColour,
        inRange.background.mix inRange.trace inRange.traceAlpha⟩
    · exact ⟨_, isColour, inRange.off⟩

/-! ## Colours of grids -/

variable {grid : Grid Real (Exact Real) Source}

/--
Cells that agree in their places and their values, and maybe in nothing else.
-/
def SameValues (cells others : Array (Cell (Exact Real))) : Prop :=
  List.Forall₂ (fun cell other =>
    other.row = cell.row ∧ other.column = cell.column ∧
    other.value = cell.value) cells.toList others.toList

/--
How opacities are drawn. Every cell has a colour between the background and the
colour of lit cells, which is one of the two where the value times the gain
leaves the unit interval; a higher value is drawn further from the background.
Nothing else of the cells has a part in this, and neither has the time.
-/
structure DrawsOpacities (look : ExactLook)
    (grid : Grid Real (Exact Real) Source) (now : Number) (blank : Colour ℚ)
    (colours : Array (Colour ℚ)) : Prop where
  between : ∀ (position : Nat) (cell : Cell (Exact Real)) (colour : Colour ℚ),
    grid.cells[position]? = some cell → colours[position]? = some colour →
      (∀ primary, colour.channel primary ∈
        Set.uIcc (look.background.channel primary) (look.on.channel primary)) ∧
      (cell.value.toRat * Readable.toRat grid.settings.opacity.gain ≤ 0 →
        colour = look.background) ∧
      (1 ≤ cell.value.toRat * Readable.toRat grid.settings.opacity.gain →
        colour = look.on)
  ordered : ∀ (position place : Nat) (cell other : Cell (Exact Real))
    (colour further : Colour ℚ),
    grid.cells[position]? = some cell → colours[position]? = some colour →
      grid.cells[place]? = some other → colours[place]? = some further →
        cell.value.toRat ≤ other.value.toRat →
        ∀ primary, colour.channel primary ∈
          Set.uIcc (look.background.channel primary) (further.channel primary)
  alone : ∀ (others : Array (Cell (Exact Real))) (later : Number),
    SameValues grid.cells others →
    (look.prepared Real).shades { grid with cells := others } later blank =
      .ok colours

/-- At the opacity level a grid is drawn by the values of its cells. -/
theorem drawsOpacities (look : ExactLook) (laidOut : grid.LaidOut)
    (level : grid.level = .opacity)
    (gain : 0 ≤ Readable.toRat grid.settings.opacity.gain) {now : Number}
    {blank : Colour ℚ} {colours : Array (Colour ℚ)}
    (shaded : (look.prepared Real).shades grid now blank = .ok colours) :
    look.DrawsOpacities grid now blank colours := by
  have each : ∀ (position : Nat) (cell : Cell (Exact Real)) (colour : Colour ℚ),
      grid.cells[position]? = some cell → colours[position]? = some colour →
        colour = look.background.mix look.on
          (opacity grid.settings.opacity.gain cell.value) := by
    intro position cell colour found drawn
    have related := (Palette.shades_eq_ok_iff _ laidOut now blank).mp shaded
    rw [level] at related
    rcases Array.getElem?_eq_some_iff.mp found with ⟨inside, rfl⟩
    rcases Array.getElem?_eq_some_iff.mp drawn with ⟨within, rfl⟩
    have own := (List.forall₂_iff_get.mp related).2 position inside within
    exact (Except.ok.inj ((look.colourOf_opacity _ _ _).symm.trans own)).symm
  refine ⟨?_, ?_, ?_⟩
  · intro position cell colour found drawn
    rw [each position cell colour found drawn]
    refine ⟨look.background.mix_mem_uIcc look.on (opacity_mem _ _), ?_, ?_⟩
    · intro low
      rw [opacity, max_eq_left ((min_le_left _ _).trans low), Colour.mix_zero]
    · intro high
      rw [opacity, min_eq_right high, max_eq_right zero_le_one, Colour.mix_one]
  · intro position place cell other colour further found drawn otherFound
      otherDrawn below primary
    rw [each position cell colour found drawn,
      each place other further otherFound otherDrawn]
    refine look.background.mix_between look.on (opacity_mem _ _).1 ?_ primary
    exact max_le_max_left 0
      (min_le_min_right 1 (mul_le_mul_of_nonneg_right below gain))
  · intro others later same
    rw [← shaded, Palette.shades, Palette.shades, level]
    exact Palette.shadeAll_opacity_congr _ _ now later _ _ same _

/--
All colours that are put somewhere lie in the range in which the look lies.  A
grid that is laid out has a colour for every cell, and at the opacity level they
are drawn by the values of the cells.
-/
theorem exists_shades (look : ExactLook) (inRange : look.InRange)
    (grid : Grid Real (Exact Real) Source) (now : Number) :
    ∃ palette, look.palette Real = .ok palette ∧
      (∀ blank colours, palette.shades grid now blank = .ok colours →
        ∀ colour ∈ colours, colour = blank ∨ colour.InRange) ∧
      (grid.LaidOut → ∀ blank, ∃ colours, palette.shades grid now blank =
        .ok colours ∧ colours.size = grid.rows * grid.columns ∧
        (∀ colour ∈ colours, colour.InRange) ∧
        (grid.level = .opacity → 0 ≤ Readable.toRat grid.settings.opacity.gain →
          look.DrawsOpacities grid now blank colours)) := by
  have written : ∀ blank colours, (look.prepared Real).shades grid now blank =
      .ok colours → ∀ colour ∈ colours, colour = blank ∨ colour.InRange := by
    intro blank colours shaded
    refine Palette.forall_shadeAll shaded ?_ ?_
    · intro cell member colour isColour
      rcases inRange.exists_colourOf grid.level grid.settings.opacity.gain now
          cell with
        ⟨own, isOwn, ownInRange⟩
      rw [isOwn] at isColour
      cases isColour
      exact Or.inr ownInRange
    · intro colour member
      exact Or.inl (Array.eq_of_mem_replicate member)
  refine ⟨look.prepared Real, look.palette_eq, written, ?_⟩
  intro laidOut blank
  rcases exists_mapM_eq_ok fun cell (_ : cell ∈ grid.cells.toList) =>
    (inRange.exists_colourOf grid.level grid.settings.opacity.gain now cell).imp
      fun _ => And.left with ⟨results, mapped⟩
  have related := mapM_eq_ok_iff.mp mapped
  have shaded (blank : Colour ℚ) : (look.prepared Real).shades grid now blank =
      .ok results.toArray :=
    (Palette.shades_eq_ok_iff _ laidOut now blank).mpr related
  refine ⟨results.toArray, shaded blank, ?_, ?_, fun level gain =>
    look.drawsOpacities laidOut level gain (shaded blank)⟩
  · rw [List.size_toArray, ← related.length_eq, Array.length_toList,
      laidOut.size]
  · -- No blank is left, so it can be replaced by a colour in the range.
    intro colour member
    rcases written look.background _ (shaded look.background) colour member with
      rfl | own
    · exact inRange.background
    · exact own

/-- A dark background, lit cells that are brighter in red and darker in blue. -/
def dusk : ExactLook where
  background := ⟨10, 10, 200⟩
  on := ⟨250, 10, 0⟩
  off := ⟨17, 17, 17⟩
  trace := ⟨255, 255, 255⟩
  traceAlpha := 1 / 10
  traceDuration := 1 / 2

/--
Three cells that have heard a sample below zero, a small one and one above one.
-/
def gradient : Grid Float (Exact Float) Random.Twister :=
  (((Grid.empty .opacity .standard [] .orthogonal
    (Random.Twister.ofSeed 0)).layOut 1 3).advance #[⟨-1⟩, ⟨1 / 16⟩, ⟨2⟩]
    (.int 0)).2

/-- With a gain of eight the small sample is drawn half way. -/
theorem exists_shades_gradient :
    dusk.InRange ∧ gradient.LaidOut ∧ gradient.level = .opacity ∧
      0 ≤ Readable.toRat gradient.settings.opacity.gain ∧
      ∃ palette colours, dusk.palette Float = .ok palette ∧
        (∀ blank colours, palette.shades gradient (.int 1) blank = .ok colours →
          ∀ colour ∈ colours, colour = blank ∨ colour.InRange) ∧
        palette.shades gradient (.int 1) dusk.background = .ok colours ∧
        colours = #[⟨10, 10, 200⟩, ⟨130, 10, 100⟩, ⟨250, 10, 0⟩] ∧
        dusk.DrawsOpacities gradient (.int 1) dusk.background colours := by
  have inRange : dusk.InRange := by
    refine ⟨?_, ?_, ?_, ?_, by constructor <;> norm_num [dusk]⟩
    all_goals
      intro primary
      cases primary <;> constructor <;> norm_num [dusk, Colour.channel]
  have laidOut : gradient.LaidOut := (Grid.laidOut_layOut _ 1 3).advance _ _
  have level : gradient.level = .opacity := by decide +kernel
  have gain : 0 ≤ Readable.toRat gradient.settings.opacity.gain := by
    decide +kernel
  have computed : ((dusk.prepared Float).shades gradient
        (.int 1) dusk.background).toOption =
      some #[⟨10, 10, 200⟩, ⟨130, 10, 100⟩, ⟨250, 10, 0⟩] := by decide +kernel
  rcases exists_shades dusk inRange gradient (.int 1) with
    ⟨palette, prepared, written, drawn⟩
  rcases drawn laidOut dusk.background with ⟨colours, shaded, -, -, opacities⟩
  have same : colours = #[⟨10, 10, 200⟩, ⟨130, 10, 100⟩, ⟨250, 10, 0⟩] := by
    rw [palette_eq, Except.ok.injEq] at prepared
    rw [prepared, shaded] at computed
    exact Option.some.inj computed
  exact ⟨inRange, laidOut, level, gain, palette, colours, prepared, written,
    shaded, same, opacities level gain⟩

end ExactLook

end SoundGrid

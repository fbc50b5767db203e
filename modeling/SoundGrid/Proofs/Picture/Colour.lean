import SoundGrid.Proofs.Number.Accuracy
import SoundGrid.Proofs.Picture.Shade
import SoundGrid.Proofs.Sample.Floating

/-!
# Colours that cells have

A look whose colours are three numbers each, and whose other choices are numbers
as well, gives a colour to every cell with a number for a value.  Nothing can be
too large then but integers without a nearest double: not one of them may be
among these numbers, nor among the times.
-/

namespace SoundGrid

/-! ## Numbers as doubles -/

/-- A datum that is a number, and the double for it. -/
def Datum.StandsFor (given : Datum) (double : Float) : Prop :=
  ∃ number, given.number? = some number ∧ number.toDouble = .ok double

theorem Datum.standsFor_double (value : Float) :
    (Datum.double value).StandsFor value :=
  ⟨.double value, rfl, rfl⟩

theorem Datum.exists_standsFor_natCast {natural : ℕ}
    (small : natural < 2 ^ 53) :
    ∃ double, (Datum.int natural).StandsFor double := by
  rcases Number.Double.exists_ofInt?_natCast small with ⟨nearest, found, -⟩
  refine ⟨nearest, .int natural, rfl, ?_⟩
  rw [Number.toDouble, Number.doubleOfInt, found]

namespace Sample

variable {given other : Datum} {double otherDouble : Float}

/-- The element of an array of doubles that such a datum is made into. -/
theorem element_of_standsFor (stands : given.StandsFor double) :
    SampleFormat.element given = .ok double := by
  rcases stands with ⟨number, isNumber, converted⟩
  cases given with
  | null | text _ | list _ | record _ => cases isNumber
  | bool _ | int _ | double _ | undefined _ =>
      cases isNumber
      exact converted

theorem toSingle_of_standsFor (stands : given.StandsFor double) :
    toSingle (.plain given) = .ok (Number.Single.ofDouble double) := by
  rcases stands with ⟨number, isNumber, converted⟩
  rw [toSingle, isNumber]
  dsimp only
  rw [converted]
  rfl

/--
Numbers are joined in integers if both are integers, and in doubles otherwise.
-/
theorem joinNumbers_cases {number otherNumber : Number}
    (converted : number.toDouble = .ok double)
    (otherConverted : otherNumber.toDouble = .ok otherDouble) :
    (∃ first second, number = .int first ∧ otherNumber = .int second ∧
        joinNumbers number otherNumber = .ok (.integers first second)) ∨
      joinNumbers number otherNumber = .ok (.doubles double otherDouble) := by
  have joined (aligned : Number.align number otherNumber = (do
      let first ← number.toDouble
      let second ← otherNumber.toDouble
      pure (.doubles first second))) :
      joinNumbers number otherNumber = .ok (.doubles double otherDouble) := by
    rw [joinNumbers, aligned, converted, otherConverted]
    rfl
  cases number with
  | int first =>
      cases otherNumber with
      | int second => exact Or.inl ⟨first, second, rfl, rfl, rfl⟩
      | double _ => exact Or.inr (joined rfl)
  | double _ => exact Or.inr (joined rfl)

/-- An operation with a double is done in doubles. -/
theorem apply_double (operation : Operation) (stands : given.StandsFor double)
    (otherStands : other.StandsFor otherDouble)
    (mixed : given = .double double ∨ other = .double otherDouble) :
    apply operation (.plain given) (.plain other) =
      .ok (ofDouble (operation.doubles double otherDouble)) := by
  rcases stands with ⟨number, isNumber, converted⟩
  rcases otherStands with ⟨otherNumber, isOther, otherConverted⟩
  rcases joinNumbers_cases converted otherConverted with
    ⟨first, second, rfl, rfl, -⟩ | joined
  · rcases mixed with rfl | rfl
    · cases isNumber
    · cases isOther
  · rw [apply, align, isNumber, isOther]
    dsimp only
    rw [joined]
    rfl

/-- Any operation with two numbers has a number for a result. -/
theorem exists_apply (operation : Operation) (stands : given.StandsFor double)
    (otherStands : other.StandsFor otherDouble) :
    ∃ number, apply operation (.plain given) (.plain other) =
      .ok (.plain (.ofNumber number)) := by
  rcases stands with ⟨number, isNumber, converted⟩
  rcases otherStands with ⟨otherNumber, isOther, otherConverted⟩
  rw [apply, align, isNumber, isOther]
  dsimp only
  rcases joinNumbers_cases converted otherConverted with
    ⟨first, second, -, -, joined⟩ | joined
  · rw [joined]
    exact ⟨.int (operation.integers first second), rfl⟩
  · rw [joined]
    exact ⟨.double (operation.doubles double otherDouble), rfl⟩

end Sample

/-! ## Colours of cells -/

/--
A cell whose value is a number, and whose time is one if it has turned off.
-/
structure Cell.IsNumeric (cell : Cell Sample) : Prop where
  value : ∃ given double, cell.value = .plain given ∧ given.StandsFor double
  lastOff :
    ∀ time, cell.lastOff = some time → ∃ double, time.toDouble = .ok double

/-- Cells store plain doubles. -/
theorem Cell.isNumeric_of_isStored {cell : Cell Sample}
    (stored : cell.value.IsStored)
    (stamped : ∀ time, cell.lastOff = some time → ∃ last, time = .double last) :
    cell.IsNumeric where
  value := by
    rcases stored with ⟨value, isValue⟩
    exact ⟨.double value, value, isValue, Datum.standsFor_double value⟩
  lastOff time lastOff := by
    rcases stamped time lastOff with ⟨last, rfl⟩
    exact ⟨last, rfl⟩

/-- New cells do so, and have not turned off. -/
theorem Grid.isNumeric_layOut {Source : Type} (grid : Grid Float Sample Source)
    (rows columns : ℕ) :
    ∀ cell ∈ (grid.layOut rows columns).cells, cell.IsNumeric := by
  intro cell member
  rcases Array.mem_map.mp member with ⟨position, -, rfl⟩
  exact Cell.isNumeric_of_isStored ⟨_, rfl⟩ fun _ never => nomatch never

namespace Palette

/--
A palette whose swatches have three channels each, with a duration that is a
number.
-/
structure IsThreefold (palette : Palette Float32 Sample) : Prop where
  background : ∃ colour, palette.background = .ofColour colour
  on : ∃ colour, palette.on = .ofColour colour
  off : ∃ colour, palette.off = .ofColour colour
  trace : ∃ colour, palette.trace = .ofColour colour
  duration : ∃ given number, palette.traceDuration = .plain given ∧
    given.number? = some number

variable {palette : Palette Float32 Sample} {cell : Cell Sample}

/-- A blend of two colours by a number is a colour. -/
theorem exists_blend (first second : Colour Float32) {alpha : Datum}
    {double : Float} (stands : alpha.StandsFor double) :
    ∃ colour, blend (.ofColour first) (.ofColour second) (Sample.plain alpha) =
      .ok (.ofColour colour) := by
  have rest : Arithmetic.sub (Blending.one : Sample) (Sample.plain alpha) =
      .ok (Sample.ofDouble (1.0 - double)) :=
    Sample.apply_double _ (Datum.standsFor_double _) stands (Or.inl rfl)
  let mix (channel other : Float32) : Float32 :=
    channel * Number.Single.ofDouble (1.0 - double) + other *
      Number.Single.ofDouble double
  refine ⟨⟨mix first.red second.red, mix first.green second.green,
    mix first.blue second.blue⟩, ?_⟩
  refine bind_eq_ok_iff.mpr ⟨_, rest, bind_eq_ok_iff.mpr ⟨_, rfl, ?_⟩⟩
  exact bind_eq_ok_iff.mpr ⟨_, Sample.toSingle_of_standsFor stands, rfl⟩

/-- A plain double has a nearest one between zero and the full weight. -/
theorem exists_clamp (value : Float) :
    ∃ clamped, clamp (Sample.ofDouble value) =
      .ok (Sample.ofDouble clamped) := by
  rcases (Sample.IsFloating.double value).less (.double 0.0) with ⟨low, isLow⟩
  have raised :
      ∃ raised, (if low then Sample.ofDouble 0.0 else Sample.ofDouble value) =
      Sample.ofDouble raised := by
    cases low
    · exact ⟨value, rfl⟩
    · exact ⟨0.0, rfl⟩
  rcases raised with ⟨raised, isRaised⟩
  rcases (Sample.IsFloating.double 1.0).less (.double raised) with
    ⟨high, isHigh⟩
  have clamped : clamp (Sample.ofDouble value) =
      .ok (if high then Sample.ofDouble 1.0 else Sample.ofDouble raised) := by
    refine bind_eq_ok_iff.mpr ⟨low, isLow, ?_⟩
    change (do
      let high ← Sample.less (Sample.ofDouble 1.0)
        (if low then Sample.ofDouble 0.0 else Sample.ofDouble value)
      pure (if high then Sample.ofDouble 1.0
        else if low then Sample.ofDouble 0.0 else Sample.ofDouble value)) = _
    rw [isRaised]
    exact bind_eq_ok_iff.mpr ⟨high, isHigh, rfl⟩
  rw [clamped]
  cases high
  · exact ⟨raised, rfl⟩
  · exact ⟨1.0, rfl⟩

/-- A cell with a number for a value has a colour at the opacity level. -/
theorem IsThreefold.exists_opacity (threefold : palette.IsThreefold)
    (gain : Float) (numeric : cell.IsNumeric) :
    ∃ colour, palette.opacity gain cell = .ok (.ofColour colour) := by
  rcases numeric.value with ⟨given, value, isValue, stands⟩
  rcases threefold.background with ⟨background, isBackground⟩
  rcases threefold.on with ⟨on, isOn⟩
  have scaled : Arithmetic.mul cell.value (Arithmetic.setting gain) =
      .ok (Sample.ofDouble (value * gain)) := by
    rw [isValue]
    exact Sample.apply_double _ stands (Datum.standsFor_double gain)
      (Or.inr rfl)
  rcases exists_clamp (value * gain) with ⟨alpha, clamped⟩
  rcases exists_blend background on (Datum.standsFor_double alpha) with
    ⟨colour, blended⟩
  refine ⟨colour, bind_eq_ok_iff.mpr ⟨_, scaled, ?_⟩⟩
  rw [isBackground, isOn]
  exact bind_eq_ok_iff.mpr ⟨_, clamped, blended⟩

/-- Whether a cell leaves a trace can be said where times are numbers. -/
theorem IsThreefold.exists_isTraced (threefold : palette.IsThreefold)
    (numeric : cell.IsNumeric) {now : Number} {time : Float}
    (timed : now.toDouble = .ok time) :
    ∃ traced, palette.isTraced now cell = .ok traced := by
  cases lastOff : cell.lastOff with
  | none => exact ⟨false, isTraced_of_none lastOff _⟩
  | some stamp =>
      rcases numeric.lastOff stamp lastOff with ⟨last, stamped⟩
      rcases threefold.duration with ⟨given, duration, lasting, number⟩
      have stands {time : Number} {double : Float}
          (converted : time.toDouble = .ok double) :
          (Datum.ofNumber time).StandsFor double :=
        ⟨time, by cases time <;> rfl, converted⟩
      rcases Sample.exists_apply ⟨(· - ·), (· - ·), (· - ·), (· - ·)⟩
        (stands timed) (stands stamped) with ⟨elapsed, subtracted⟩
      have compared : Sample.less (.plain (.ofNumber elapsed)) (.plain given) =
          .ok (elapsed.isBelow duration) := by
        cases elapsed <;> simp [Sample.less, Datum.before?, Datum.numberBefore?,
          Datum.ofNumber, number, Number.isBelow]
      rw [isTraced, lastOff, lasting]
      exact ⟨_, bind_eq_ok_iff.mpr ⟨_, subtracted, compared⟩⟩

/-- So the cell has a colour at the other levels. -/
theorem IsThreefold.exists_state (threefold : palette.IsThreefold)
    (numeric : cell.IsNumeric) {now : Number} {time : Float}
    (timed : now.toDouble = .ok time) :
    ∃ colour, palette.state now cell = .ok (.ofColour colour) := by
  rcases threefold.exists_isTraced numeric timed with ⟨traced, isTraced⟩
  rw [state]
  cases cell.state with
  | true =>
      rcases threefold.on with ⟨colour, isOn⟩
      exact ⟨colour, congrArg Except.ok isOn⟩
  | false =>
      rw [isTraced]
      cases traced with
      | true =>
          rcases threefold.trace with ⟨colour, isTrace⟩
          exact ⟨colour, congrArg Except.ok isTrace⟩
      | false =>
          rcases threefold.off with ⟨colour, isOff⟩
          exact ⟨colour, congrArg Except.ok isOff⟩

/-- It has one at every level. -/
theorem IsThreefold.exists_colourOf (threefold : palette.IsThreefold)
    (numeric : cell.IsNumeric) {now : Number} {time : Float}
    (timed : now.toDouble = .ok time) (level : Level) (gain : Float) :
    ∃ colour, palette.colourOf level gain now cell = .ok colour := by
  have shaded :
      ∃ colour, palette.shade level gain now cell = .ok (.ofColour colour) := by
    cases level with
    | opacity => exact threefold.exists_opacity gain numeric
    | direct | smoothed | probabilistic | entropy | rules | neighborhood =>
        exact threefold.exists_state numeric timed
  rcases shaded with ⟨colour, isShade⟩
  exact ⟨colour, bind_eq_ok_iff.mpr ⟨_, isShade, rfl⟩⟩

end Palette

namespace Look

/-! ## Looks with colours of three numbers -/

/-- A datum that is a colour of three numbers, and the doubles for them. -/
inductive IsColour : Datum → Colour Float → Prop where
  | intro {red green blue : Datum} {colour : Colour Float}
    (isRed : red.StandsFor colour.red)
    (isGreen : green.StandsFor colour.green)
    (isBlue : blue.StandsFor colour.blue) :
      IsColour (.list [red, green, blue]) colour

/--
A look whose colours are three numbers each, and whose other choices are
numbers.
-/
structure IsNumeric (look : Look) : Prop where
  background : ∃ colour, IsColour look.background colour
  on : ∃ colour, IsColour look.on colour
  off : ∃ colour, IsColour look.off colour
  trace : ∃ colour, IsColour look.trace colour
  traceAlpha : ∃ double, look.traceAlpha.StandsFor double
  traceDuration : ∃ number, look.traceDuration.number? = some number

/-- A colour is kept in single precision. -/
theorem swatchOf_of_isColour {given : Datum} {colour : Colour Float}
    (isColour : IsColour given colour) :
    swatchOf given = .ok (.ofColour (colour.map Number.Single.ofDouble)) := by
  rcases isColour with ⟨red, green, blue⟩
  have channels {given : Datum} {double : Float}
      (stands : given.StandsFor double) :
      channel given = .ok (Number.Single.ofDouble double) := by
    rw [channel, Sample.element_of_standsFor stands]
    rfl
  have converted := mapM_eq_ok_iff.mpr
    (.cons (channels red) (.cons (channels green) (.cons (channels blue) .nil)))
  rw [swatchOf]
  · exact bind_eq_ok_iff.mpr ⟨_, converted, rfl⟩
  · intro channels nested
    cases nested

/-- The palette of such a look. -/
theorem IsNumeric.exists_palette {look : Look} (numeric : look.IsNumeric) :
    ∃ palette, look.palette = .ok palette ∧ palette.IsThreefold := by
  rcases numeric.background with ⟨background, isBackground⟩
  rcases numeric.on with ⟨on, isOn⟩
  rcases numeric.off with ⟨off, isOff⟩
  rcases numeric.trace with ⟨trace, isTrace⟩
  rcases numeric.traceAlpha with ⟨alpha, isAlpha⟩
  rcases numeric.traceDuration with ⟨duration, isDuration⟩
  let single (colour : Colour Float) : Colour Float32 :=
    colour.map Number.Single.ofDouble
  rcases Palette.exists_blend (single background) (single trace) isAlpha with
    ⟨mixed, blended⟩
  let palette : Palette Float32 Sample :=
    ⟨.ofColour (single background), .ofColour (single on),
      .ofColour (single off), .ofColour mixed, .plain look.traceDuration⟩
  have threefold : palette.IsThreefold :=
    ⟨⟨_, rfl⟩, ⟨_, rfl⟩, ⟨_, rfl⟩, ⟨_, rfl⟩, ⟨_, duration, rfl, isDuration⟩⟩
  refine ⟨palette, ?_, threefold⟩
  refine bind_eq_ok_iff.mpr ⟨_, swatchOf_of_isColour isBackground, ?_⟩
  refine bind_eq_ok_iff.mpr ⟨_, swatchOf_of_isColour isOn, ?_⟩
  refine bind_eq_ok_iff.mpr ⟨_, swatchOf_of_isColour isOff, ?_⟩
  refine bind_eq_ok_iff.mpr ⟨_, swatchOf_of_isColour isTrace, ?_⟩
  exact bind_eq_ok_iff.mpr ⟨_, blended, rfl⟩

end Look

end SoundGrid

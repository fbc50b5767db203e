import SoundGrid.Proofs.Number.Rank
import SoundGrid.Proofs.Settings.Refusal

/-!
# Valid settings

What every parameter is promised to be.  A value is accepted when it converts to
a double that its parameter takes, so everything that was accepted lies in the
range of its parameter.  The two ends of the flip window are checked together:
by a document after the last of them is known, and again at every change.  What
is filled in after that check touches neither of them.
-/

namespace SoundGrid

namespace Parameter

/-! ## The values that parameters take -/

/-- The range of a parameter. -/
def InRange : Parameter → Float → Prop
  | directThreshold, number | smoothedThreshold, number
  | entropyThreshold, number | loudThreshold, number | quietThreshold, number
  | flipMin, number | flipMax, number | flipChance, number
  | decayFactor, number | activeThreshold, number
  | inactiveThreshold, number => 0.0 ≤ number ∧ number ≤ 1.0
  | smoothing, number => 0.0 < number ∧ number ≤ 1.0
  | opacityGain, number | probabilityScale, number | decayFloor, number
  | neighbourLimit, number => 0.0 ≤ number
  | rippleSpeed, number => 0.0 ≤ number ∧ Number.Double.isWhole number = true

instance (parameter : Parameter) (number : Float) :
    Decidable (parameter.InRange number) :=
  match parameter with
  | directThreshold | smoothedThreshold | entropyThreshold | loudThreshold
    | quietThreshold
  | flipMin | flipMax | flipChance | decayFactor | activeThreshold
    | inactiveThreshold =>
        inferInstanceAs (Decidable (0.0 ≤ number ∧ number ≤ 1.0))
  | smoothing => inferInstanceAs (Decidable (0.0 < number ∧ number ≤ 1.0))
  | opacityGain | probabilityScale | decayFloor | neighbourLimit =>
      inferInstanceAs (Decidable (0.0 ≤ number))
  | rippleSpeed =>
      inferInstanceAs
        (Decidable (0.0 ≤ number ∧ Number.Double.isWhole number = true))

/-- The finite doubles in the range of a parameter. -/
structure Takes (parameter : Parameter) (number : Float) : Prop where
  finite : number.isFinite = true
  inRange : parameter.InRange number

/--
The value that a parameter has for a double: the number itself, or the count
that it is.
-/
def ofDouble : (parameter : Parameter) → Float → parameter.Value Float
  | rippleSpeed, number => ((Number.Double.truncate? number).getD 0).toNat
  | directThreshold, number => number
  | opacityGain, number => number
  | smoothing, number => number
  | smoothedThreshold, number => number
  | probabilityScale, number => number
  | entropyThreshold, number => number
  | loudThreshold, number => number
  | quietThreshold, number => number
  | flipMin, number => number
  | flipMax, number => number
  | flipChance, number => number
  | decayFactor, number => number
  | decayFloor, number => number
  | activeThreshold, number => number
  | inactiveThreshold, number => number
  | neighbourLimit, number => number

/-- The values that a parameter may have. -/
def Admits (parameter : Parameter) (value : parameter.Value Float) : Prop :=
  ∃ number, parameter.Takes number ∧ parameter.ofDouble number = value

theorem finite_eq_ok_iff {name : String} {given : Datum} {number : Float} :
    finite name given = .ok number ↔
      given.toDouble = .ok number ∧ number.isFinite = true := by
  rw [finite]
  split
  · next refused => simp [refused]
  · next fault _ refused => simp [refused]
  · next converted =>
    rw [converted]
    split
    · next finite =>
      constructor
      · rintro ⟨⟩
        exact ⟨rfl, finite⟩
      · rintro ⟨⟨⟩, -⟩
        rfl
    · next infinite =>
      constructor
      · rintro ⟨⟩
      · rintro ⟨⟨⟩, finite⟩
        exact absurd finite infinite

theorem guarded_eq_ok_iff {name : String} {given : Datum} {number : Float}
    {guard : Float → Prop} [DecidablePred guard] {fault : Float → Fault} :
    (do
      let value ← finite name given
      if guard value then pure value else throw (fault value)) = .ok number ↔
      given.toDouble = .ok number ∧ number.isFinite = true ∧ guard number := by
  simp only [bind_eq_ok_iff, finite_eq_ok_iff, ite_pure_eq_ok_iff]
  constructor
  · rintro ⟨_, ⟨converted, finite⟩, inside, rfl⟩
    exact ⟨converted, finite, inside⟩
  · rintro ⟨converted, finite, inside⟩
    exact ⟨number, ⟨converted, finite⟩, inside, rfl⟩

theorem unit_eq_ok_iff {name : String} {given : Datum} {number : Float} :
    unit name given = .ok number ↔
      given.toDouble = .ok number ∧ number.isFinite = true ∧ 0.0 ≤ number ∧
      number ≤ 1.0 :=
  guarded_eq_ok_iff

theorem part_eq_ok_iff {name : String} {given : Datum} {number : Float} :
    part name given = .ok number ↔
      given.toDouble = .ok number ∧ number.isFinite = true ∧ 0.0 < number ∧
      number ≤ 1.0 :=
  guarded_eq_ok_iff

theorem nonNegative_eq_ok_iff {name : String} {given : Datum} {number : Float} :
    nonNegative name given = .ok number ↔
      given.toDouble = .ok number ∧ number.isFinite = true ∧ 0.0 ≤ number := by
  have zero : (0.0 : Float).isFinite = true := by decide +kernel
  have guarded : nonNegative name given = .ok number ↔
      given.toDouble = .ok number ∧ number.isFinite = true ∧
      ¬ number < 0.0 := by
    simp only [nonNegative, ← ite_not (_ < _)]
    exact guarded_eq_ok_iff
  rw [guarded]
  exact and_congr_right fun _ => and_congr_right fun finite =>
    Number.Double.not_lt_iff finite zero

theorem count_eq_ok_iff {name : String} {given : Datum} {count : Nat} :
    Parameter.count name given = .ok count ↔
      ∃ number, given.toDouble = .ok number ∧ rippleSpeed.Takes number ∧
        rippleSpeed.ofDouble number = count := by
  simp only [Parameter.count, bind_eq_ok_iff, nonNegative_eq_ok_iff]
  constructor
  · rintro ⟨number, ⟨converted, finite, above⟩, counted⟩
    split at counted
    · next exact found =>
      rcases ite_pure_eq_ok_iff.mp counted with ⟨whole, rfl⟩
      refine ⟨number, converted, ⟨finite, above, ?_⟩, ?_⟩
      · rw [Number.Double.isWhole, found]
        exact whole
      · rw [ofDouble, Number.Double.truncate?, found]
        rfl
    · cases counted
  · rintro ⟨number, converted, ⟨finite, above, whole⟩, rfl⟩
    refine ⟨number, ⟨converted, finite, above⟩, ?_⟩
    rw [Number.Double.isWhole] at whole
    rw [ofDouble, Number.Double.truncate?]
    cases found : Number.Double.scaled? number with
    | none =>
        rw [found] at whole
        cases whole
    | some exact =>
        rw [found] at whole
        exact ite_pure_eq_ok_iff.mpr ⟨whole, rfl⟩

/--
A datum is accepted when it converts to a double that the parameter takes.
-/
theorem accept_eq_ok_iff {parameter : Parameter} {given : Datum}
    {value : parameter.Value Float} :
    parameter.accept given = .ok value ↔
      ∃ number, given.toDouble = .ok number ∧ parameter.Takes number ∧
        parameter.ofDouble number = value := by
  -- Every parameter but the ripple speed keeps the double itself.
  have itself {accepted : Except Fault Float} {kept : Float}
      (accepts : accepted = .ok kept ↔
        given.toDouble = .ok kept ∧ kept.isFinite = true ∧
        parameter.InRange kept) :
      accepted = .ok kept ↔
        ∃ number, given.toDouble = .ok number ∧ parameter.Takes number ∧
          number = kept := by
    rw [accepts]
    constructor
    · rintro ⟨converted, finite, inRange⟩
      exact ⟨kept, converted, ⟨finite, inRange⟩, rfl⟩
    · rintro ⟨_, converted, ⟨finite, inRange⟩, rfl⟩
      exact ⟨converted, finite, inRange⟩
  cases parameter with
  | rippleSpeed => exact count_eq_ok_iff
  | smoothing => exact itself part_eq_ok_iff
  | opacityGain | probabilityScale | decayFloor | neighbourLimit =>
      exact itself nonNegative_eq_ok_iff
  | directThreshold | smoothedThreshold | entropyThreshold | loudThreshold
    | quietThreshold
  | flipMin | flipMax | flipChance | decayFactor | activeThreshold
    | inactiveThreshold =>
        exact itself unit_eq_ok_iff

theorem admits_of_accept {parameter : Parameter} {given : Datum}
    {value : parameter.Value Float}
    (accepted : parameter.accept given = .ok value) :
    parameter.Admits value := by
  rcases accept_eq_ok_iff.mp accepted with ⟨number, -, taken, same⟩
  exact ⟨number, taken, same⟩

end Parameter

namespace Settings

/-! ## Valid settings -/

/-- Settings in which every parameter has a value that it may have. -/
def AllAdmitted (settings : Settings Float) : Prop :=
  ∀ parameter : Parameter, parameter.Admits (settings.get parameter)

/--
Settings that keep every promise: parameters in their ranges, and a flip window
in order.
-/
structure Valid (settings : Settings Float) : Prop where
  admitted : settings.AllAdmitted
  window : settings.rules.flipMin ≤ settings.rules.flipMax

theorem valid_iff {settings : Settings Float} :
    settings.Valid ↔ settings.AllAdmitted ∧ settings.windowOpen = true := by
  have ordered (admitted : settings.AllAdmitted) :
      settings.windowOpen = true ↔
        settings.rules.flipMin ≤ settings.rules.flipMax := by
    rcases admitted .flipMin with ⟨least, leastTaken, leastSame⟩
    rcases admitted .flipMax with ⟨greatest, greatestTaken, greatestSame⟩
    change least = settings.rules.flipMin at leastSame
    change greatest = settings.rules.flipMax at greatestSame
    rw [windowOpen, ← leastSame, ← greatestSame, Bool.not_eq_true',
      decide_eq_false_iff_not]
    exact Number.Double.not_lt_iff greatestTaken.finite leastTaken.finite
  constructor
  · rintro ⟨admitted, window⟩
    exact ⟨admitted, (ordered admitted).mpr window⟩
  · rintro ⟨admitted, opened⟩
    exact ⟨admitted, (ordered admitted).mp opened⟩

theorem valid_standard : standard.Valid := by
  refine ⟨?_, by decide +kernel⟩
  intro parameter
  cases parameter with
  | rippleSpeed =>
      exact ⟨1.0, ⟨by decide +kernel, by decide +kernel⟩, by decide +kernel⟩
  | _ => exact ⟨_, ⟨by decide +kernel, by decide +kernel⟩, rfl⟩

theorem AllAdmitted.put {settings : Settings Float}
    (admitted : settings.AllAdmitted) {parameter : Parameter}
    {value : parameter.Value Float} (admits : parameter.Admits value) :
    (settings.put parameter value).AllAdmitted := by
  intro other
  by_cases same : other = parameter
  · subst same
    rw [get_put_same]
    exact admits
  · rw [get_put_of_ne settings value same]
    exact admitted other

theorem AllAdmitted.fill {given : List (Text × Datum)}
    {parameters : List Parameter} {settings next : Settings Float}
    (admitted : settings.AllAdmitted)
    (filled : fill given parameters settings = .ok next) :
    next.AllAdmitted := by
  rw [fill_eq_foldlM] at filled
  apply foldlM_preserves _ filled admitted
  intro settings parameter next _ putIn admitted
  rcases fillOne_eq_ok_cases putIn with
    ⟨-, rfl⟩ | ⟨value, accepted, -, taken, rfl⟩
  · exact admitted
  · exact admitted.put (Parameter.admits_of_accept taken)

/-- Filling leaves all other parameters alone. -/
theorem get_of_fill {given : List (Text × Datum)} {parameters : List Parameter}
    {settings next : Settings Float} {other : Parameter}
    (filled : fill given parameters settings = .ok next)
    (elsewhere : other ∉ parameters) : next.get other = settings.get other := by
  rw [fill_eq_foldlM] at filled
  have preserved (reached : Settings Float) (parameter : Parameter)
      (next : Settings Float) (member : parameter ∈ parameters)
      (putIn : fillOne given reached parameter = .ok next)
      (same : reached.get other = settings.get other) :
      next.get other = settings.get other := by
    rcases fillOne_eq_ok_cases putIn with
      ⟨-, rfl⟩ | ⟨value, accepted, -, -, rfl⟩
    · exact same
    · have different : other ≠ parameter := fun equal =>
        elsewhere (equal ▸ member)
      rw [get_put_of_ne reached accepted different, same]
  exact foldlM_preserves preserved filled rfl

theorem Valid.fillLevel {settings next : Settings Float} {level : Level}
    {given : List (Text × Datum)} (valid : settings.Valid)
    (filled : settings.fillLevel level given = .ok next) : next.Valid := by
  rcases bind_eq_ok_iff.mp filled with ⟨first, before, checked⟩
  rcases bind_eq_ok_iff.mp checked with ⟨window, passed, after⟩
  rcases checkWindow_eq_ok_iff.mp passed with ⟨opened, rfl⟩
  have admitted := (valid.admitted.fill before).fill after
  refine valid_iff.mpr ⟨admitted, ?_⟩
  have least : next.get .flipMin = window.get .flipMin :=
    get_of_fill after (by simp [afterWindow])
  have greatest : next.get .flipMax = window.get .flipMax :=
    get_of_fill after (by simp [afterWindow])
  change (!decide (next.get .flipMax < next.get .flipMin)) = true
  rw [least, greatest]
  exact opened

theorem Valid.readLevel {settings next : Settings Float} {level : Level}
    {given : Datum} (valid : settings.Valid)
    (read : settings.readLevel level given = .ok next) :
    next.Valid := by
  rcases readLevel_eq_ok_cases read with ⟨-, rfl⟩ | ⟨entries, -, -, filled⟩
  · exact valid
  · exact valid.fillLevel filled

/-- What is read from a document is valid. -/
theorem valid_of_ofDatum {given : Datum} {settings : Settings Float}
    (read : ofDatum given = .ok settings) : settings.Valid := by
  rcases exists_sets_of_ofDatum read with ⟨sets, -, filled⟩
  rw [readLevels_eq_foldlM] at filled
  exact foldlM_preserves (fun _ _ _ _ one valid => valid.readLevel one) filled
    valid_standard

/--
Settings in a document: one set is null, and numbers are given in several ways.
-/
def spelledOut : List (Text × Datum) :=
  [("direct", .null),
    ("rules", .record
      [("loud_threshold", .text "0.75"), ("quiet_threshold", .double (-0.0)),
        ("flip_chance", .bool true), ("ripple_speed", .double 3.0)])]

/-- The settings that they stand for. -/
def spelledOutSettings : Settings Float :=
  { standard with rules := ⟨0.75, -0.0, 0.4, 0.6, 1.0, 3, 0.9, 0.05⟩ }

theorem ofDatum_spelledOut :
    ofDatum (.record spelledOut) = .ok spelledOutSettings := by
  let before : List Level :=
    [.direct, .opacity, .smoothed, .probabilistic, .entropy]
  have known :
      ∀ set ∈ spelledOut, ∃ level : Level, set.1 = Text.ofString level.key := by
    simp only [spelledOut, List.mem_cons, List.not_mem_nil, or_false]
    rintro set (rfl | rfl)
    · exact ⟨.direct, rfl⟩
    · exact ⟨.rules, rfl⟩
  have earlier :
      before.foldlM (readOne spelledOut) standard = .ok standard := rfl
  have rules : standard.readLevel .rules (.record
      [("loud_threshold", .text "0.75"), ("quiet_threshold", .double (-0.0)),
        ("flip_chance", .bool true), ("ripple_speed", .double 3.0)]) =
      .ok spelledOutSettings := by
    rw [readLevel_of_known (by decide)]
    exact eq_ok_of_toOption (by decide +kernel)
  rw [ofDatum_of_known known, readLevels_eq_foldlM]
  change List.foldlM (readOne spelledOut) _
    (before ++ [.rules, .neighborhood]) = _
  rw [List.foldlM_append]
  exact bind_eq_ok_iff.mpr ⟨_, earlier, bind_eq_ok_iff.mpr ⟨_, rules, rfl⟩⟩

/-! ## Attempts to change a parameter -/

/--
The key of a set, the name of a parameter and a value for it, whatever they are.
-/
structure Edit where
  key : Datum
  name : Datum
  given : Datum

/--
The settings after an attempt to replace a parameter, which may be refused.
-/
def edit (settings : Settings Float) (edit : Edit) : Settings Float :=
  match settings.write edit.key edit.name edit.given with
  | .ok next => next
  | .error _ => settings

/-- Whether an attempt is not refused. -/
def accepts (settings : Settings Float) (edit : Edit) : Bool :=
  (settings.write edit.key edit.name edit.given).isOk

theorem write_of_accepts {settings : Settings Float} {edit : Edit}
    (accepted : settings.accepts edit = true) :
    settings.write edit.key edit.name edit.given =
      .ok (settings.edit edit) := by
  rw [Settings.edit]
  cases written : settings.write edit.key edit.name edit.given with
  | ok next => rfl
  | error fault =>
      rw [accepts, written] at accepted
      cases accepted

theorem edit_of_not_accepts {settings : Settings Float} {edit : Edit}
    (refused : settings.accepts edit = false) :
    settings.edit edit = settings := by
  rw [Settings.edit]
  cases written : settings.write edit.key edit.name edit.given with
  | ok next =>
      rw [accepts, written] at refused
      cases refused
  | error fault => rfl

theorem windowOpen_edit {settings : Settings Float}
    (opened : settings.windowOpen = true) (change : Edit) :
    (settings.edit change).windowOpen = true := by
  rw [Settings.edit]
  split
  · next next written => exact (exists_put_of_write written).1
  · exact opened

theorem Valid.edit {settings : Settings Float} (valid : settings.Valid)
    (change : Edit) : (settings.edit change).Valid := by
  rw [Settings.edit]
  split
  · next next written =>
    rcases exists_put_of_write written with
      ⟨opened, parameter, value, accepted, rfl⟩
    have admits := Parameter.admits_of_accept accepted
    exact valid_iff.mpr ⟨valid.admitted.put admits, opened⟩
  · exact valid

theorem Valid.edits {settings : Settings Float} (valid : settings.Valid)
    (edits : List Edit) : (edits.foldl Settings.edit settings).Valid := by
  induction edits generalizing settings with
  | nil => exact valid
  | cons edit rest ih => exact ih (valid.edit edit)

end Settings

end SoundGrid

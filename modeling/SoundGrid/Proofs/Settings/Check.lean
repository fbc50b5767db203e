import SoundGrid.Proofs.Fault
import SoundGrid.Settings.Document

/-!
# Checked values

Why a value is refused as a parameter.  A value that does not suit its parameter
is refused as such, with one exception: an integer beyond the doubles is too
large to be looked at.  Which value of a set is refused depends on the order in
which they are checked, and `Reached` says to which of them the check comes.
-/

namespace SoundGrid

/-- An integer that has no nearest double. -/
def Datum.IsOversized (given : Datum) : Prop :=
  ∃ value : Int, given = .int value ∧ Number.Double.ofInt? value = none

/-! ## One value -/

/-- Only integers can be too large for a conversion. -/
theorem Datum.toDouble_eq_tooLarge_iff {given : Datum} :
    given.toDouble = .error (.misuse .tooLarge) ↔ given.IsOversized := by
  have small : ∀ truth : Bool, ∃ nearest,
      Number.Double.ofInt? truth.toInt = some nearest := by
    intro truth
    rw [← Option.isSome_iff_exists]
    cases truth <;> decide +kernel
  have integer :
      ∀ value : Int, Number.doubleOfInt value = .error (.misuse .tooLarge) ↔
      Number.Double.ofInt? value = none := by
    intro value
    rw [Number.doubleOfInt]
    cases Number.Double.ofInt? value with
    | none => simp
    | some nearest => simp
  rw [IsOversized]
  cases given with
  | int value =>
      change Number.doubleOfInt value = _ ↔ _
      simp [integer]
  | bool truth =>
      rcases small truth with ⟨nearest, found⟩
      change Number.doubleOfInt truth.toInt = _ ↔ _
      simp [integer, found]
  | text value =>
      simp only [Datum.toDouble]
      split <;> simp
  | _ => simp [Datum.toDouble, Datum.number?, Number.toDouble]

namespace Parameter

/--
What can be said of a value that is checked: it is too large when it is
oversized, and whatever else it is refused for lies in its value.
-/
structure Checks {Result : Type} (given : Datum)
    (checked : Except Fault Result) : Prop where
  oversized : checked = .error (.misuse .tooLarge) ↔ given.IsOversized
  otherwise : ∀ fault, checked = .error fault →
    fault = .misuse .tooLarge ∨ fault.category = .value

/-- Checks that follow and lie in the value change nothing of this. -/
theorem Checks.bind {First Second : Type} {given : Datum}
    {first : Except Fault First} {second : First → Except Fault Second}
    (checks : Checks given first)
    (values : ∀ value fault, second value = .error fault →
      fault.category = .value) : Checks given (first >>= second) where
  oversized := by
    rw [bind_eq_error_iff, ← checks.oversized]
    constructor
    · rintro (refused | ⟨value, -, later⟩)
      · exact refused
      · cases values value _ later
    · exact Or.inl
  otherwise fault refused := by
    rcases bind_eq_error_iff.mp refused with earlier | ⟨value, -, later⟩
    · exact checks.otherwise fault earlier
    · exact Or.inr (values value fault later)

theorem checks_finite (name : String) (given : Datum) :
    Checks given (finite name given) := by
  rw [finite]
  constructor
  · rw [← Datum.toDouble_eq_tooLarge_iff]
    split
    · next tooLarge => simp [tooLarge]
    · next fault other refused =>
      simp only [refused]
      simpa using other
    · next number converted =>
      simp only [converted]
      split <;> simp
  · intro fault refused
    split at refused
    · cases refused
      exact Or.inl rfl
    · cases refused
      exact Or.inr rfl
    · split at refused
      · cases refused
      · cases refused
        exact Or.inr rfl

theorem checks_unit (name : String) (given : Datum) :
    Checks given (unit name given) := by
  refine (checks_finite name given).bind fun number fault refused => ?_
  split at refused
  · cases refused
  · cases refused
    rfl

theorem checks_nonNegative (name : String) (given : Datum) :
    Checks given (nonNegative name given) := by
  refine (checks_finite name given).bind fun number fault refused => ?_
  split at refused
  · cases refused
    rfl
  · cases refused

theorem checks_part (name : String) (given : Datum) :
    Checks given (part name given) := by
  refine (checks_finite name given).bind fun number fault refused => ?_
  split at refused
  · cases refused
  · cases refused
    rfl

theorem checks_count (name : String) (given : Datum) :
    Checks given (count name given) := by
  refine (checks_nonNegative name given).bind fun number fault refused => ?_
  split at refused
  · split at refused
    · cases refused
    · cases refused
      rfl
  · cases refused
    rfl

theorem checks_accept (parameter : Parameter) (given : Datum) :
    Checks given (parameter.accept given) := by
  cases parameter with
  | smoothing => exact checks_part _ given
  | rippleSpeed => exact checks_count _ given
  | opacityGain | probabilityScale | decayFloor | neighbourLimit =>
      exact checks_nonNegative _ given
  | directThreshold | smoothedThreshold | entropyThreshold | loudThreshold
    | quietThreshold
  | flipMin | flipMax | flipChance | decayFactor | activeThreshold
    | inactiveThreshold =>
        exact checks_unit _ given

end Parameter

/-! ## The values of one set -/

namespace Settings

/-- Puts the given value of one parameter into the settings. -/
def fillOne (given : List (Text × Datum)) (settings : Settings Float)
    (parameter : Parameter) : Except Fault (Settings Float) :=
  match Datum.lookup? parameter.name given with
  | none => .ok settings
  | some value => (parameter.accept value).map (settings.put parameter)

/-- Filling goes from parameter to parameter. -/
theorem fill_eq_foldlM (given : List (Text × Datum))
    (parameters : List Parameter) (settings : Settings Float) :
    fill given parameters settings =
      parameters.foldlM (fillOne given) settings := by
  induction parameters generalizing settings with
  | nil => rfl
  | cons parameter rest ih =>
      rw [List.foldlM_cons, fill, fillOne]
      cases Datum.lookup? parameter.name given with
      | none => exact ih settings
      | some value =>
          dsimp only
          cases parameter.accept value with
          | error fault => rfl
          | ok accepted => exact ih (settings.put parameter accepted)

theorem fillOne_eq_error_iff {given : List (Text × Datum)}
    {settings : Settings Float} {parameter : Parameter} {fault : Fault} :
    fillOne given settings parameter = .error fault ↔
      ∃ value, Datum.lookup? parameter.name given = some value ∧
        parameter.accept value = .error fault := by
  rw [fillOne]
  cases Datum.lookup? parameter.name given with
  | none => simp
  | some value => simp [map_eq_error_iff]

theorem fillOne_eq_ok_cases {given : List (Text × Datum)}
    {settings next : Settings Float} {parameter : Parameter}
    (filled : fillOne given settings parameter = .ok next) :
    (Datum.lookup? parameter.name given = none ∧ next = settings) ∨
      ∃ value accepted, Datum.lookup? parameter.name given = some value ∧
        parameter.accept value = .ok accepted ∧
        next = settings.put parameter accepted := by
  rw [fillOne] at filled
  cases found : Datum.lookup? parameter.name given with
  | none =>
      rw [found] at filled
      cases filled
      exact Or.inl ⟨rfl, rfl⟩
  | some value =>
      rw [found] at filled
      rcases map_eq_ok_iff.mp filled with ⟨accepted, taken, rfl⟩
      exact Or.inr ⟨value, accepted, rfl, taken, rfl⟩

theorem fill_eq_error_iff {given : List (Text × Datum)}
    {parameters : List Parameter} {settings : Settings Float} {fault : Fault} :
    fill given parameters settings = .error fault ↔
      ∃ before parameter after reached,
        parameters = before ++ parameter :: after ∧
        fill given before settings = .ok reached ∧
        ∃ value, Datum.lookup? parameter.name given = some value ∧
          parameter.accept value = .error fault := by
  simp only [fill_eq_foldlM, foldlM_eq_error_iff, fillOne_eq_error_iff]

theorem checkWindow_eq_ok_iff {settings window : Settings Float} :
    settings.checkWindow = .ok window ↔
      settings.windowOpen = true ∧ window = settings := by
  rw [checkWindow]
  cases settings.windowOpen with
  | true => simp [eq_comm]
  | false => simp

theorem checkWindow_eq_error_iff {settings : Settings Float} {fault : Fault} :
    settings.checkWindow = .error fault ↔
      settings.windowOpen = false ∧ fault = .rejected .flipWindow := by
  rw [checkWindow]
  cases settings.windowOpen with
  | true => simp
  | false => simp [eq_comm]

/--
A change of a parameter puts an accepted value and leaves a flip window that is
open.
-/
theorem exists_put_of_write {settings next : Settings Float}
    {key name given : Datum}
    (written : settings.write key name given = .ok next) :
    next.windowOpen = true ∧
      ∃ parameter value, parameter.accept given = .ok value ∧
        next = settings.put parameter value := by
  rcases bind_eq_ok_iff.mp written with ⟨level, -, named⟩
  rcases bind_eq_ok_iff.mp named with ⟨parameter, -, assigned⟩
  rcases bind_eq_ok_iff.mp assigned with ⟨value, accepted, checked⟩
  rcases checkWindow_eq_ok_iff.mp checked with ⟨opened, rfl⟩
  exact ⟨opened, parameter, value, accepted, rfl⟩

/--
A value that is checked, when everything that is checked before it is accepted.
-/
inductive Reached (settings : Settings Float) (level : Level)
    (given : List (Text × Datum)) (parameter : Parameter)
    (value : Datum) : Prop where
  | early {before after : List Parameter} {reached : Settings Float}
      (order : beforeWindow level = before ++ parameter :: after)
      (filled : fill given before settings = .ok reached)
      (found : Datum.lookup? parameter.name given = some value)
  | late {before after : List Parameter} {first reached : Settings Float}
      (order : afterWindow level = before ++ parameter :: after)
      (complete : fill given (beforeWindow level) settings = .ok first)
      (opened : first.windowOpen = true)
      (filled : fill given before first = .ok reached)
      (found : Datum.lookup? parameter.name given = some value)

/--
A set is refused for its window, or for the first value that is not accepted.
-/
theorem fillLevel_eq_error_iff {settings : Settings Float} {level : Level}
    {given : List (Text × Datum)} {fault : Fault} :
    settings.fillLevel level given = .error fault ↔
      (∃ first, fill given (beforeWindow level) settings = .ok first ∧
        first.windowOpen = false ∧ fault = .rejected .flipWindow) ∨
      ∃ parameter value, Reached settings level given parameter value ∧
        parameter.accept value = .error fault := by
  rw [fillLevel, bind_eq_error_iff]
  constructor
  · rintro (refused | ⟨first, complete, refused⟩)
    · rcases fill_eq_error_iff.mp refused with
        ⟨before, parameter, after, reached, order, filled, value,
          found, stopped⟩
      exact Or.inr ⟨parameter, value, .early order filled found, stopped⟩
    · rcases bind_eq_error_iff.mp refused with closed | ⟨window, passed, later⟩
      · rcases checkWindow_eq_error_iff.mp closed with ⟨shut, rfl⟩
        exact Or.inl ⟨first, complete, shut, rfl⟩
      · rcases checkWindow_eq_ok_iff.mp passed with ⟨opened, rfl⟩
        rcases fill_eq_error_iff.mp later with
          ⟨before, parameter, after, reached, order, filled, value,
            found, stopped⟩
        exact Or.inr ⟨parameter, value,
          .late order complete opened filled found, stopped⟩
  · rintro (⟨first, complete, shut, rfl⟩ | ⟨parameter, value, reached, stopped⟩)
    · have closed := checkWindow_eq_error_iff.mpr ⟨shut, rfl⟩
      exact Or.inr ⟨first, complete, bind_eq_error_iff.mpr (Or.inl closed)⟩
    · cases reached with
      | early order filled found =>
          exact Or.inl
            (fill_eq_error_iff.mpr ⟨_, _, _, _, order, filled, value, found,
              stopped⟩)
      | late order complete opened filled found =>
          have passed := checkWindow_eq_ok_iff.mpr ⟨opened, rfl⟩
          have later :=
            fill_eq_error_iff.mpr ⟨_, _, _, _, order, filled, value,
              found, stopped⟩
          exact Or.inr ⟨_, complete,
            bind_eq_error_iff.mpr (Or.inr ⟨_, passed, later⟩)⟩

/-- A set is too large when the check comes to an oversized value. -/
theorem fillLevel_eq_tooLarge_iff {settings : Settings Float} {level : Level}
    {given : List (Text × Datum)} :
    settings.fillLevel level given = .error (.misuse .tooLarge) ↔
      ∃ parameter value, Reached settings level given parameter value ∧
        value.IsOversized := by
  rw [fillLevel_eq_error_iff]
  constructor
  · rintro (⟨first, -, -, impossible⟩ | ⟨parameter, value, reached, stopped⟩)
    · cases impossible
    · exact ⟨parameter, value, reached,
        (parameter.checks_accept value).oversized.mp stopped⟩
  · rintro ⟨parameter, value, reached, oversized⟩
    exact Or.inr
      ⟨parameter, value, reached,
        (parameter.checks_accept value).oversized.mpr oversized⟩

theorem category_of_fillLevel {settings : Settings Float} {level : Level}
    {given : List (Text × Datum)} {fault : Fault}
    (refused : settings.fillLevel level given = .error fault) :
    fault = .misuse .tooLarge ∨ fault.category = .value := by
  rcases fillLevel_eq_error_iff.mp refused with
    ⟨first, -, -, rfl⟩ | ⟨parameter, value, -, stopped⟩
  · exact Or.inr rfl
  · exact (parameter.checks_accept value).otherwise fault stopped

end Settings

end SoundGrid

import SoundGrid.Grid.Control
import SoundGrid.Proofs.Settings.Replacement
import SoundGrid.Random.Twister
import SoundGrid.Sample

/-!
# Why a change of a parameter is refused

A change of a parameter by two texts looks for a set, then for a parameter, and
then at the value.  So it is refused for a key exactly when no parameter has
these names.  Otherwise everything depends on the value: it suits when it
converts to a double that the parameter takes and with which the settings are
valid.

What does not suit is refused for its value, with one exception.  An integer
that has no nearest double is refused by the conversion itself, in a category of
its own, before it is known to be no number for the parameter.
-/

namespace SoundGrid

/-- A computation that is refused in a category. -/
def RefusedAs {Result : Type} (result : Except Fault Result)
    (category : Category) : Prop :=
  ∃ fault, result = .error fault ∧ fault.category = category

namespace Settings

variable {settings : Settings Float}

/-! ## Keys and names -/

theorem category_of_levelOf {key : Datum} {fault : Fault}
    (refused : levelOf key = .error fault) : fault.category = .key := by
  cases key with
  | text given =>
      rw [levelOf] at refused
      split at refused
      · cases refused
      · cases refused
        rfl
  | _ =>
      cases refused
      rfl

/-- Texts that name no parameter are refused for a key. -/
theorem category_of_parameterOf {level : Level} {name : Text} {fault : Fault}
    (refused : parameterOf level (.text name) = .error fault) :
    fault.category = .key := by
  simp only [parameterOf] at refused
  split at refused
  · cases refused
  · cases refused
    rfl

theorem refusedAs_key_of_not_names {key name : Text} (given : Datum)
    (unnamed : ¬ ∃ parameter, Names (.text key) (.text name) parameter) :
    RefusedAs (settings.write (.text key) (.text name) given) .key := by
  cases found : levelOf (.text key) with
  | error fault => exact ⟨fault, bind_eq_error_iff.mpr (Or.inl found),
    category_of_levelOf found⟩
  | ok level =>
      cases named : parameterOf level (.text name) with
      | error fault =>
          have refused :
              settings.write (.text key) (.text name) given = .error fault :=
            bind_eq_error_iff.mpr
              (Or.inr ⟨level, found, bind_eq_error_iff.mpr (Or.inl named)⟩)
          exact ⟨fault, refused, category_of_parameterOf named⟩
      | ok parameter =>
          rcases parameterOf_eq_ok_iff.mp named with ⟨rfl, isName⟩
          exact absurd ⟨parameter, levelOf_eq_ok_iff.mp found, isName⟩ unnamed

/-! ## Values -/

/--
A value that converts to a double with which a parameter leaves the settings
valid.
-/
def Suits (settings : Settings Float) (parameter : Parameter)
    (given : Datum) : Prop :=
  ∃ number, given.toDouble = .ok number ∧ parameter.Takes number ∧
    (settings.put parameter (parameter.ofDouble number)).Valid

/-- What suits is what is accepted. -/
theorem assign_isOk_iff (valid : settings.Valid) {parameter : Parameter}
    {given : Datum} :
    (∃ next, settings.assign parameter given = .ok next) ↔
      settings.Suits parameter given := by
  constructor
  · rintro ⟨next, assigned⟩
    rcases bind_eq_ok_iff.mp assigned with ⟨value, accepted, checked⟩
    rcases checkWindow_eq_ok_iff.mp checked with ⟨opened, rfl⟩
    rcases Parameter.accept_eq_ok_iff.mp accepted with
      ⟨number, converted, taken, rfl⟩
    exact ⟨number, converted, taken,
      valid_iff.mpr ⟨valid.admitted.put ⟨number, taken, rfl⟩, opened⟩⟩
  · rintro ⟨number, converted, taken, putValid⟩
    have accepted : parameter.accept given = .ok (parameter.ofDouble number) :=
      Parameter.accept_eq_ok_iff.mpr ⟨number, converted, taken, rfl⟩
    exact ⟨_, bind_eq_ok_iff.mpr
      ⟨_, accepted, checkWindow_eq_ok_iff.mpr ⟨(valid_iff.mp putValid).2, rfl⟩⟩⟩

/-- To check the window after a value adds refusals for a value only. -/
theorem checks_assign (settings : Settings Float) (parameter : Parameter)
    (given : Datum) :
    Parameter.Checks given (settings.assign parameter given) := by
  refine (parameter.checks_accept given).bind fun value fault refused => ?_
  rcases checkWindow_eq_error_iff.mp refused with ⟨-, rfl⟩
  rfl

/--
An oversized integer is refused in the category of what is too large, and
nothing else is.
-/
theorem refusedAs_overflow_assign_iff {parameter : Parameter} {given : Datum} :
    RefusedAs (settings.assign parameter given) .overflow ↔
      given.IsOversized := by
  have checks := checks_assign settings parameter given
  rw [← checks.oversized]
  constructor
  · rintro ⟨fault, refused, category⟩
    rcases checks.otherwise fault refused with rfl | value
    · exact refused
    · rw [value] at category
      cases category
  · exact fun refused => ⟨_, refused, rfl⟩

/-- Everything else that does not suit is refused for its value. -/
theorem refusedAs_value_assign_iff (valid : settings.Valid)
    {parameter : Parameter} {given : Datum} :
    RefusedAs (settings.assign parameter given) .value ↔
      ¬ settings.Suits parameter given ∧ ¬ given.IsOversized := by
  have checks := checks_assign settings parameter given
  rw [← assign_isOk_iff valid, ← checks.oversized]
  constructor
  · rintro ⟨fault, refused, category⟩
    constructor
    · rintro ⟨next, assigned⟩
      rw [refused] at assigned
      cases assigned
    · intro tooLarge
      rw [refused] at tooLarge
      cases tooLarge
      cases category
  · rintro ⟨unsuitable, small⟩
    cases assigned : settings.assign parameter given with
    | ok next => exact absurd ⟨next, assigned⟩ unsuitable
    | error fault =>
        rcases checks.otherwise fault assigned with rfl | value
        · exact absurd assigned small
        · exact ⟨fault, rfl, value⟩

/-! ## Changes of parameters -/

/-- A value for a parameter is never refused for a key. -/
theorem not_refusedAs_key_assign (settings : Settings Float)
    (parameter : Parameter) (given : Datum) :
    ¬ RefusedAs (settings.assign parameter given) .key := by
  rintro ⟨fault, refused, category⟩
  rcases (checks_assign settings parameter given).otherwise fault refused with
    rfl | value
  · cases category
  · rw [value] at category
    cases category

theorem refusedAs_key_write_iff (settings : Settings Float) (key name : Text)
    (given : Datum) :
    RefusedAs (settings.write (.text key) (.text name) given) .key ↔
      ¬ ∃ parameter, Names (.text key) (.text name) parameter := by
  constructor
  · rintro refused ⟨parameter, names⟩
    rw [names.write_eq] at refused
    exact not_refusedAs_key_assign settings parameter given refused
  · exact refusedAs_key_of_not_names given

/-- A change by two texts is refused for a key, for a value, or as too large. -/
theorem category_of_write {key name : Text} {given : Datum} {fault : Fault}
    (refused : settings.write (.text key) (.text name) given = .error fault) :
    fault.category = .key ∨ fault.category = .value ∨
      fault.category = .overflow ∧ given.IsOversized ∧
        ∃ parameter, Names (.text key) (.text name) parameter := by
  by_cases named : ∃ parameter, Names (.text key) (.text name) parameter
  · rcases named with ⟨parameter, names⟩
    rw [names.write_eq] at refused
    have checks := checks_assign settings parameter given
    rcases checks.otherwise fault refused with rfl | value
    · exact Or.inr (Or.inr ⟨rfl, checks.oversized.mp refused, parameter, names⟩)
    · exact Or.inr (Or.inl value)
  · left
    rcases (refusedAs_key_write_iff settings key name given).mpr named with
      ⟨cause, again, category⟩
    rw [refused] at again
    cases again
    exact category

variable {Value Source : Type}

/--
A grid changes a parameter of a level as its settings do under the key of the
level.
-/
theorem setParameter_eq_write (grid : Grid Float Value Source)
    {name given level : Datum} {chosen : Level}
    (found : grid.levelOr level = .ok chosen) :
    grid.setParameter name given level =
      (grid.settings.write (.text chosen.key) name given).map fun settings =>
        { grid with settings } := by
  rw [Grid.setParameter, found]
  rfl

/--
Why settings that can be made refuse a change of a parameter by two texts, and
when they do not.  It is refused for a key exactly when the texts name no
parameter.  If they name one, it succeeds exactly when the value suits, is
refused as too large exactly when the value is an integer without a nearest
double, and for a value in all other cases.  There are no other refusals, so
only such an integer for a parameter that exists is refused neither for a key
nor for a value.  A grid refuses the same for the level that it is given.
-/
theorem write_category_iff {settings : Settings Float}
    (reachable : settings.Reachable) (key name : Text) (given : Datum) :
    (RefusedAs (settings.write (.text key) (.text name) given) .key ↔
      ¬ ∃ parameter, Names (.text key) (.text name) parameter) ∧
    (∀ parameter, Names (.text key) (.text name) parameter →
      ((∃ next, settings.write (.text key) (.text name) given = .ok next) ↔
        settings.Suits parameter given) ∧
      (RefusedAs (settings.write (.text key) (.text name) given) .value ↔
        ¬ settings.Suits parameter given ∧ ¬ given.IsOversized) ∧
      (RefusedAs (settings.write (.text key) (.text name) given) .overflow ↔
        given.IsOversized)) ∧
    ((∀ fault, settings.write (.text key) (.text name) given = .error fault →
        fault.category = .key ∨ fault.category = .value) ↔
      ¬ ((∃ parameter, Names (.text key) (.text name) parameter) ∧
        given.IsOversized)) ∧
    ∀ (grid : Grid Float Value Source) (level : Datum) (chosen : Level),
      grid.settings = settings → grid.levelOr level = .ok chosen →
        grid.setParameter (.text name) given level =
          (settings.write (.text chosen.key) (.text name) given).map
            fun settings => { grid with settings } := by
  refine ⟨refusedAs_key_write_iff settings key name given, ?_, ⟨?_, ?_⟩, ?_⟩
  · intro parameter names
    rw [names.write_eq]
    exact ⟨assign_isOk_iff reachable.valid,
      refusedAs_value_assign_iff reachable.valid, refusedAs_overflow_assign_iff⟩
  · rintro categories ⟨⟨parameter, names⟩, oversized⟩
    rcases refusedAs_overflow_assign_iff.mpr oversized with
      ⟨fault, refused, category⟩
    rw [← names.write_eq] at refused
    rcases categories fault refused with other | other
    · rw [category] at other
      cases other
    · rw [category] at other
      cases other
  · intro usual fault refused
    rcases category_of_write refused with
      isKey | isValue | ⟨-, oversized, named⟩
    · exact Or.inl isKey
    · exact Or.inr isValue
    · exact absurd ⟨named, oversized⟩ usual
  · rintro grid level chosen rfl found
    exact setParameter_eq_write grid found

/--
The standard settings have a threshold for sounds but none for their opacity,
take the truth value that counts as one for it, and refuse a text that spells no
number for its value.
-/
theorem write_category_iff_standard :
    standard.Reachable ∧
      (¬ ∃ parameter, Names (.text "opacity") (.text "threshold") parameter) ∧
      Names (.text "direct") (.text "threshold") .directThreshold ∧
      standard.Suits .directThreshold (.bool true) ∧
      RefusedAs (standard.write (.text "direct") (.text "threshold")
        (.text "loud")) .value ∧
      ∀ grid : Grid Float Sample Random.Twister, grid.settings = standard →
        grid.setParameter (.text "threshold") (.bool true) (.text "direct") =
          (standard.write (.text Level.direct.key) (.text "threshold")
            (.bool true)).map fun settings => { grid with settings } := by
  have categories (key name : Text) (given : Datum) :=
    @write_category_iff Sample Random.Twister standard .standard key name given
  have names :
      Names (.text "direct") (.text "threshold") .directThreshold := ⟨rfl, rfl⟩
  have unknown : RefusedAs
      (standard.write (.text "opacity") (.text "threshold") (.bool true))
        .key :=
    ⟨_, rfl, rfl⟩
  have accepted : ∃ next,
      standard.write (.text "direct") (.text "threshold") (.bool true) =
        .ok next := by
    have done : (standard.write (.text "direct") (.text "threshold")
          (.bool true)).isOk = true := by
      decide +kernel
    cases written :
        standard.write (.text "direct") (.text "threshold") (.bool true) with
    | ok next => exact ⟨next, rfl⟩
    | error fault =>
        rw [written] at done
        cases done
  have misspelt : ¬ ∃ next,
      standard.write (.text "direct") (.text "threshold") (.text "loud") =
        .ok next := by
    rintro ⟨next, written⟩
    have refused : (standard.write (.text "direct") (.text "threshold")
        (.text "loud")).isOk = false := by
      decide +kernel
    rw [written] at refused
    cases refused
  have loud := (categories "direct" "threshold" (.text "loud")).2.1 _ names
  have small : ¬ (Datum.text "loud").IsOversized := by
    rintro ⟨value, impossible, -⟩
    cases impossible
  exact ⟨.standard,
    (categories "opacity" "threshold" (.bool true)).1.mp unknown, names,
    ((categories "direct" "threshold" (.bool true)).2.1 _ names).1.mp accepted,
    loud.2.1.mpr ⟨fun suits => misspelt (loud.1.mpr suits), small⟩,
    fun grid same => (categories "direct" "threshold" (.bool true)).2.2.2 grid _
      .direct same rfl⟩

/--
An integer beyond the doubles is refused neither for a key nor for its value.
-/
theorem exists_write_overflow :
    standard.Reachable ∧
      Names (.text "direct") (.text "threshold") .directThreshold ∧
      ∃ fault,
        standard.write (.text "direct") (.text "threshold") (.int (10 ^ 400)) =
          .error fault ∧
        fault.category ≠ .key ∧ fault.category ≠ .value := by
  have names :
      Names (.text "direct") (.text "threshold") .directThreshold := ⟨rfl, rfl⟩
  have oversized :
      (Datum.int (10 ^ 400)).IsOversized := ⟨_, rfl, by decide +kernel⟩
  rcases (@refusedAs_overflow_assign_iff standard .directThreshold _).mpr
      oversized with
    ⟨fault, refused, category⟩
  refine ⟨.standard, names, fault, ?_, ?_, ?_⟩
  · rw [names.write_eq]
    exact refused
  · rw [category]
    decide
  · rw [category]
    decide

end Settings

end SoundGrid

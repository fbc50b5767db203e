import SoundGrid.Proofs.Number.Whole
import SoundGrid.Proofs.Settings.Validity

/-!
# Settings written out and read back

A value that a parameter may have is accepted as itself, so a second check
changes nothing.  The ripple speed is no exception although it is written as an
integer and checked as a double: it came from a double with that value.  A
document that names every parameter of valid settings therefore brings these
settings back, whatever the standard ones are.
-/

namespace SoundGrid

/-- A field is found by its name among fields with different names. -/
theorem Datum.lookup?_map {Item : Type} {items : List Item}
    {name : Item → String} {value : Item → Datum} {item : Item}
    (member : item ∈ items)
    (unique : ∀ other ∈ items, name other = name item → other = item) :
    lookup? (name item) (items.map fun item =>
      (Text.ofString (name item), value item)) = some (value item) := by
  induction items with
  | nil => cases member
  | cons first rest ih =>
      rw [List.map_cons, lookup?]
      by_cases same : name first = name item
      · rw [if_pos (by simpa using congrArg Text.ofString same),
          unique first List.mem_cons_self same]
      · have different :
            ¬ (Text.ofString (name first) == Text.ofString (name item)) =
              true := by
          intro equal
          exact same (Text.ofString_injective (by simpa using equal))
        rw [if_neg different]
        rcases List.mem_cons.mp member with rfl | later
        · exact absurd rfl same
        · exact ih later fun other among =>
            unique other (List.mem_cons_of_mem first among)

/-! ## One value -/

namespace Parameter

/-- The doubles that the ripple speed takes are those whose rank is a count. -/
theorem takes_rippleSpeed_iff {number : Float} {count : Nat} :
    (rippleSpeed.Takes number ∧ rippleSpeed.ofDouble number = count) ↔
      Number.Double.rank? number = some (((count : ℤ) : ℝ) : EReal) := by
  have ordered {integer : ℤ}
      (ranked : Number.Double.rank? number = some ((integer : ℝ) : EReal)) :
      0.0 ≤ number ↔ 0 ≤ integer := by
    simp [Number.Double.le_iff, Number.Double.rank?_zero, ranked]
  constructor
  · rintro ⟨⟨-, above, whole⟩, rfl⟩
    cases truncated : Number.Double.truncate? number with
    | none =>
        rw [Number.Double.truncate?, Option.map_eq_none_iff] at truncated
        rw [Number.Double.isWhole, truncated] at whole
        cases whole
    | some integer =>
        have ranked := Number.Double.rank?_eq_intCast_iff.mpr ⟨whole, truncated⟩
        have counted : ((rippleSpeed.ofDouble number : ℕ) : ℤ) = integer := by
          rw [ofDouble, truncated]
          exact Int.toNat_of_nonneg ((ordered ranked).mp above)
        rw [counted]
        exact ranked
  · intro ranked
    rcases Number.Double.rank?_eq_intCast_iff.mp ranked with ⟨whole, truncated⟩
    have above := (ordered ranked).mpr (Int.natCast_nonneg count)
    refine ⟨⟨Number.Double.isFinite_of_rank? ranked, above, whole⟩, ?_⟩
    rw [ofDouble, truncated]
    exact Int.toNat_natCast count

/-- A value that a parameter may have is accepted as itself. -/
theorem accept_toNumber {parameter : Parameter} {value : parameter.Value Float}
    (admits : parameter.Admits value) :
    parameter.accept (.ofNumber (parameter.toNumber value)) = .ok value := by
  rcases admits with ⟨number, taken, rfl⟩
  apply accept_eq_ok_iff.mpr
  cases parameter with
  | rippleSpeed =>
      -- The count was a double once, so the way back to doubles does not round
      -- it.
      have ranked := takes_rippleSpeed_iff.mp ⟨taken, rfl⟩
      rcases Number.Double.rank?_eq_intCast_iff.mp ranked with
        ⟨whole, truncated⟩
      rcases Number.Double.ofInt?_of_isWhole whole truncated with
        ⟨nearest, converted, -, kept⟩
      refine ⟨nearest, ?_, takes_rippleSpeed_iff.mpr kept⟩
      change Number.doubleOfInt _ = _
      rw [Number.doubleOfInt, converted]
  | _ => exact ⟨number, rfl, taken, rfl⟩

end Parameter

namespace Settings

/-! ## Settings taken over -/

/-- Settings are what their parameters are. -/
theorem eq_of_get {Real : Type} {first second : Settings Real}
    (same : ∀ parameter, first.get parameter = second.get parameter) :
    first = second := by
  have copied (settings : Settings Real) : settings =
      ⟨⟨settings.get .directThreshold⟩, ⟨settings.get .opacityGain⟩,
        ⟨settings.get .smoothing, settings.get .smoothedThreshold⟩,
        ⟨settings.get .probabilityScale⟩, ⟨settings.get .entropyThreshold⟩,
        ⟨settings.get .loudThreshold, settings.get .quietThreshold,
          settings.get .flipMin, settings.get .flipMax,
          settings.get .flipChance, settings.get .rippleSpeed,
          settings.get .decayFactor, settings.get .decayFloor⟩,
        ⟨settings.get .activeThreshold, settings.get .inactiveThreshold,
          settings.get .neighbourLimit⟩⟩ := rfl
  rw [copied first, copied second]
  simp only [same]

/-- Settings with some parameters taken over from others. -/
def takeOver (settings own : Settings Float)
    (parameters : List Parameter) : Settings Float :=
  parameters.foldl (fun reached parameter =>
    reached.put parameter (own.get parameter)) settings

theorem takeOver_append (settings own : Settings Float)
    (first second : List Parameter) :
    settings.takeOver own (first ++ second) =
      (settings.takeOver own first).takeOver own second :=
  List.foldl_append

theorem get_takeOver (settings own : Settings Float)
    (parameters : List Parameter) (parameter : Parameter) :
    (settings.takeOver own parameters).get parameter =
      if parameter ∈ parameters then own.get parameter
        else settings.get parameter := by
  induction parameters generalizing settings with
  | nil => rfl
  | cons first rest ih =>
      change ((settings.put first (own.get first)).takeOver own rest).get
        parameter = _
      rw [ih]
      by_cases same : parameter = first
      · subst same
        simp
      · simp [same, get_put_of_ne settings (own.get first) same]

/-- A set taken over with one new value changes that value only. -/
theorem takeOver_put (settings : Settings Float) (parameter : Parameter)
    (value : parameter.Value Float) :
    settings.takeOver (settings.put parameter value)
      parameter.level.parameters =
      settings.put parameter value := by
  apply eq_of_get
  intro other
  rw [get_takeOver]
  split
  · rfl
  · next elsewhere =>
    have different : other ≠ parameter := fun same =>
      elsewhere (same ▸ parameter.mem_parameters)
    rw [get_put_of_ne settings value different]

/-- The flip window stays open when both its ends are taken over, or neither. -/
theorem windowOpen_takeOver {settings own : Settings Float}
    {parameters : List Parameter} (opened : settings.windowOpen = true)
    (ownOpened : own.windowOpen = true)
    (together : .flipMin ∈ parameters ↔ .flipMax ∈ parameters) :
    (settings.takeOver own parameters).windowOpen = true := by
  change (!decide ((settings.takeOver own parameters).get .flipMax <
    (settings.takeOver own parameters).get .flipMin)) = true
  rw [get_takeOver, get_takeOver]
  by_cases both : .flipMin ∈ parameters
  · rw [if_pos (together.mp both), if_pos both]
    exact ownOpened
  · rw [if_neg fun last => both (together.mpr last), if_neg both]
    exact opened

/-! ## Reading what was written -/

variable {settings own : Settings Float}

theorem fill_eq_takeOver (admitted : own.AllAdmitted)
    {given : List (Text × Datum)} {parameters : List Parameter}
    (written : ∀ parameter ∈ parameters, Datum.lookup? parameter.name given =
      some (.ofNumber (parameter.toNumber (own.get parameter)))) :
    fill given parameters settings =
      .ok (settings.takeOver own parameters) := by
  induction parameters generalizing settings with
  | nil => rfl
  | cons parameter rest ih =>
      rw [fill, written parameter List.mem_cons_self]
      simp only [Parameter.accept_toNumber (admitted parameter)]
      exact ih fun later member =>
        written later (List.mem_cons_of_mem parameter member)

/-- The parameters of a level in the order in which they are checked. -/
def checked (level : Level) : List Parameter :=
  beforeWindow level ++ afterWindow level

theorem mem_checked (parameter : Parameter) :
    parameter ∈ checked parameter.level := by
  cases parameter <;> decide

theorem lookup?_levelFields {level : Level} {parameter : Parameter}
    (member : parameter ∈ level.parameters) :
    Datum.lookup? parameter.name (level.parameters.map fun other =>
        (Text.ofString other.name,
          .ofNumber (other.toNumber (own.get other)))) =
      some (.ofNumber (parameter.toNumber (own.get parameter))) := by
  have unique : ∀ parameter ∈ level.parameters, ∀ other ∈ level.parameters,
      other.name = parameter.name → other = parameter := by
    cases level <;> decide
  exact Datum.lookup?_map member (unique parameter member)

theorem readLevel_levelDatum (valid : own.Valid)
    (opened : settings.windowOpen = true) (level : Level) :
    settings.readLevel level (own.levelDatum level) =
      .ok (settings.takeOver own (checked level)) := by
  have known : ∀ entry ∈ level.parameters.map fun parameter =>
      (Text.ofString parameter.name,
        Datum.ofNumber (parameter.toNumber (own.get parameter))),
      ∃ parameter ∈ level.parameters,
        entry.1 = Text.ofString parameter.name := by
    intro entry member
    rcases List.mem_map.mp member with ⟨parameter, among, rfl⟩
    exact ⟨parameter, among, rfl⟩
  have early : ∀ parameter ∈ beforeWindow level, parameter ∈ level.parameters :=
    fun parameter member => List.mem_of_mem_filter member
  have late : ∀ parameter ∈ afterWindow level, parameter ∈ level.parameters :=
    fun parameter member => List.mem_of_mem_filter member
  have together :
      .flipMin ∈ beforeWindow level ↔ .flipMax ∈ beforeWindow level := by
    cases level <;> decide
  have middle := windowOpen_takeOver opened (valid_iff.mp valid).2 together
  rw [levelDatum, readLevel_of_known known, fillLevel, checked, takeOver_append]
  refine bind_eq_ok_iff.mpr ⟨settings.takeOver own (beforeWindow level), ?_, ?_⟩
  · exact fill_eq_takeOver valid.admitted fun parameter member =>
      lookup?_levelFields (early parameter member)
  · refine bind_eq_ok_iff.mpr ⟨_, checkWindow_eq_ok_iff.mpr ⟨middle, rfl⟩, ?_⟩
    exact fill_eq_takeOver valid.admitted fun parameter member =>
      lookup?_levelFields (late parameter member)

theorem readLevels_eq_takeOver (valid : own.Valid)
    (opened : settings.windowOpen = true)
    {sets : List (Text × Datum)} {levels : List Level}
    (written : ∀ level ∈ levels, Datum.lookup? level.key sets =
      some (own.levelDatum level)) : readLevels sets levels settings =
      .ok (settings.takeOver own (levels.flatMap checked)) := by
  induction levels generalizing settings with
  | nil => rfl
  | cons level rest ih =>
      have together : .flipMin ∈ checked level ↔ .flipMax ∈ checked level := by
        cases level <;> decide
      have stillOpen :=
        windowOpen_takeOver opened (valid_iff.mp valid).2 together
      rw [readLevels, written level List.mem_cons_self, List.flatMap_cons,
        takeOver_append]
      simp only [Option.getD_some, readLevel_levelDatum valid opened]
      exact ih stillOpen fun later member =>
        written later (List.mem_cons_of_mem level member)

/--
Valid settings are read back from the document that names all their parameters.
-/
theorem ofDatum_toDatum {settings : Settings Float} (valid : settings.Valid) :
    ofDatum settings.toDatum = .ok settings := by
  have known : ∀ set ∈ Level.all.map fun level =>
      (Text.ofString level.key, settings.levelDatum level),
      ∃ level : Level, set.1 = Text.ofString level.key := by
    intro set member
    rcases List.mem_map.mp member with ⟨level, -, rfl⟩
    exact ⟨level, rfl⟩
  have unique :
      ∀ level other : Level, other.key = level.key → other = level := by
    intro level other
    cases level <;> cases other <;> decide
  have written (level : Level) (member : level ∈ Level.all) :
      Datum.lookup? level.key
          (Level.all.map fun level =>
            (Text.ofString level.key, settings.levelDatum level)) =
        some (settings.levelDatum level) :=
    Datum.lookup?_map member fun other _ => unique level other
  have opened := (valid_iff.mp valid_standard).2
  have all (parameter : Parameter) : parameter ∈ Level.all.flatMap checked :=
    List.mem_flatMap.mpr ⟨parameter.level, parameter.level.mem_all,
      mem_checked parameter⟩
  have same :
      standard.takeOver settings (Level.all.flatMap checked) = settings := by
    apply eq_of_get
    intro parameter
    rw [get_takeOver, if_pos (all parameter)]
  rw [toDatum, ofDatum_of_known known,
    readLevels_eq_takeOver valid opened written, same]

end Settings

end SoundGrid

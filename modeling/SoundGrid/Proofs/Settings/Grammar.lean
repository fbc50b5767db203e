import SoundGrid.Proofs.Settings.RoundTrip

/-!
# The grammar of settings

Which documents are settings, said without the order in which they are read, and
which settings they are.  A document names sets, and a set names values; a
parameter that is given a value has what the value spells, and every other one
keeps what it had.

`Updated` says this of settings before and after.  Values that are given for
different parameters are taken in one after another or all at once with the same
result, and this carries the whole proof, from one parameter to a level and from
a level to a document.  The flip window is checked on the way, but only the set
of the rules can change its ends.
-/

namespace SoundGrid

namespace Parameter

/--
The value that a datum spells: it converts to a double that the parameter takes.
-/
def Spells (parameter : Parameter) (given : Datum)
    (value : parameter.Value Float) : Prop :=
  ∃ number, given.toDouble = .ok number ∧ parameter.Takes number ∧
    parameter.ofDouble number = value

/--
The value after what is given for a parameter, if anything is, has been taken
in.
-/
def Becomes (parameter : Parameter) :
    Option Datum → parameter.Value Float → parameter.Value Float → Prop
  | none, before, after => after = before
  | some given, _, after => parameter.Spells given after

theorem Becomes.unique {parameter : Parameter} {given : Option Datum}
    {before first second : parameter.Value Float}
    (firstBecomes : parameter.Becomes given before first)
    (secondBecomes : parameter.Becomes given before second) :
    first = second := by
  cases given with
  | none => exact firstBecomes.trans secondBecomes.symm
  | some given =>
      rcases firstBecomes with ⟨number, converted, -, rfl⟩
      rcases secondBecomes with ⟨other, convertedOther, -, rfl⟩
      rw [converted] at convertedOther
      cases convertedOther
      rfl

theorem Becomes.admits {parameter : Parameter} {given : Option Datum}
    {before after : parameter.Value Float}
    (becomes : parameter.Becomes given before after)
    (admits : parameter.Admits before) : parameter.Admits after := by
  cases given with
  | none =>
      cases becomes
      exact admits
  | some given =>
      rcases becomes with ⟨number, -, taken, same⟩
      exact ⟨number, taken, same⟩

end Parameter

namespace Settings

/-- The settings with a value for every parameter. -/
def ofValues {Real : Type}
    (values : (parameter : Parameter) → parameter.Value Real) :
    Settings Real where
  direct := ⟨values .directThreshold⟩
  opacity := ⟨values .opacityGain⟩
  smoothed := ⟨values .smoothing, values .smoothedThreshold⟩
  probabilistic := ⟨values .probabilityScale⟩
  entropy := ⟨values .entropyThreshold⟩
  rules :=
    ⟨values .loudThreshold, values .quietThreshold, values .flipMin,
      values .flipMax, values .flipChance, values .rippleSpeed,
      values .decayFactor, values .decayFloor⟩
  neighborhood :=
    ⟨values .activeThreshold, values .inactiveThreshold, values .neighbourLimit⟩

@[simp]
theorem get_ofValues {Real : Type}
    (values : (parameter : Parameter) → parameter.Value Real)
    (parameter : Parameter) :
    (ofValues values).get parameter = values parameter := by
  cases parameter <;> rfl

/-! ## Values taken in -/

/--
Settings after the values that are given for some parameters have been taken in.
-/
def Updated (settings next : Settings Float)
    (given : Parameter → Option Datum) : Prop :=
  ∀ parameter : Parameter,
    parameter.Becomes (given parameter) (settings.get parameter)
      (next.get parameter)

variable {settings next : Settings Float} {given : Parameter → Option Datum}

theorem updated_none_iff :
    settings.Updated next (fun _ => none) ↔ next = settings := by
  constructor
  · exact fun updated => eq_of_get updated
  · rintro rfl parameter
    rfl

theorem Updated.get_eq (updated : settings.Updated next given)
    {parameter : Parameter} (missing : given parameter = none) :
    next.get parameter = settings.get parameter := by
  have becomes := updated parameter
  rw [missing] at becomes
  exact becomes

theorem Updated.allAdmitted (updated : settings.Updated next given)
    (admitted : settings.AllAdmitted) : next.AllAdmitted :=
  fun parameter => (updated parameter).admits (admitted parameter)

/-- Only values for its two ends can open or close the flip window. -/
theorem Updated.windowOpen_eq (updated : settings.Updated next given)
    (least : given .flipMin = none) (greatest : given .flipMax = none) :
    next.windowOpen = settings.windowOpen := by
  change (!decide (next.get .flipMax < next.get .flipMin)) =
    !decide (settings.get .flipMax < settings.get .flipMin)
  rw [updated.get_eq least, updated.get_eq greatest]

/-- Values for different parameters can be taken in one after another. -/
theorem updated_or_iff {first second : Parameter → Option Datum}
    (apart : ∀ parameter, first parameter = none ∨ second parameter = none) :
    settings.Updated next (fun parameter =>
      (first parameter).or (second parameter)) ↔
      ∃ middle, settings.Updated middle first ∧ middle.Updated next second := by
  constructor
  · intro updated
    -- Between the two, the parameters of the first values are as they are at
    -- the end.
    refine ⟨ofValues fun parameter =>
        if (first parameter).isSome then next.get parameter
          else settings.get parameter,
      fun parameter => ?_, fun parameter => ?_⟩
    · have becomes := updated parameter
      rw [get_ofValues]
      cases given : first parameter with
      | none => rfl
      | some datum =>
          simp only [given, Option.some_or] at becomes
          exact becomes
    · have becomes := updated parameter
      rw [get_ofValues]
      cases given : first parameter with
      | none =>
          simp only [given, Option.none_or] at becomes
          exact becomes
      | some datum =>
          rw [(apart parameter).resolve_left (by simp [given])]
          rfl
  · rintro ⟨middle, before, after⟩ parameter
    have becomesBefore := before parameter
    have becomesAfter := after parameter
    rcases apart parameter with missing | missing
    · rw [before.get_eq missing] at becomesAfter
      simp only [missing, Option.none_or]
      exact becomesAfter
    · simp only [missing, Option.or_none, after.get_eq missing]
      exact becomesBefore

/-! ## The values of one set -/

/-- What a set gives for the parameters of a list. -/
def among (parameters : List Parameter) (set : Datum)
    (parameter : Parameter) : Option Datum :=
  if parameter ∈ parameters then set.field? parameter.name else none

theorem among_append (first second : List Parameter) (set : Datum) :
    among (first ++ second) set = fun parameter =>
      (among first set parameter).or (among second set parameter) := by
  funext parameter
  simp only [among, List.mem_append]
  by_cases inFirst : parameter ∈ first
  · cases set.field? parameter.name <;> simp [inFirst]
  · simp [inFirst]

theorem among_disjoint {first second : List Parameter}
    (disjoint : first.Disjoint second) (set : Datum) (parameter : Parameter) :
    among first set parameter = none ∨ among second set parameter = none := by
  by_cases inFirst : parameter ∈ first
  · exact Or.inr (if_neg (disjoint inFirst))
  · exact Or.inl (if_neg inFirst)

theorem fillOne_eq_ok_iff {entries : List (Text × Datum)}
    {parameter : Parameter} :
    fillOne entries settings parameter = .ok next ↔
      settings.Updated next (among [parameter] (.record entries)) := by
  have own : among [parameter] (.record entries) parameter =
      Datum.lookup? parameter.name entries := if_pos List.mem_cons_self
  have elsewhere {other : Parameter} (different : other ≠ parameter) :
      among [parameter] (.record entries) other = none :=
    if_neg fun member => different (List.mem_singleton.mp member)
  constructor
  · intro filled other
    by_cases same : other = parameter
    · subst same
      rw [own]
      rcases fillOne_eq_ok_cases filled with
        ⟨missing, rfl⟩ | ⟨value, accepted, found, taken, rfl⟩
      · rw [missing]
        rfl
      · rw [found, get_put_same]
        exact Parameter.accept_eq_ok_iff.mp taken
    · rw [elsewhere same]
      rcases fillOne_eq_ok_cases filled with
        ⟨-, rfl⟩ | ⟨value, accepted, -, -, rfl⟩
      · rfl
      · exact get_put_of_ne settings accepted same
  · intro updated
    have becomes := updated parameter
    rw [own] at becomes
    rw [fillOne]
    cases found : Datum.lookup? parameter.name entries with
    | none =>
        rw [found] at becomes
        refine congrArg Except.ok (eq_of_get fun other => ?_)
        by_cases same : other = parameter
        · subst same
          exact becomes.symm
        · exact (updated.get_eq (elsewhere same)).symm
    | some value =>
        rw [found] at becomes
        refine map_eq_ok_iff.mpr ⟨_, Parameter.accept_eq_ok_iff.mpr becomes, ?_⟩
        apply eq_of_get
        intro other
        by_cases same : other = parameter
        · subst same
          exact get_put_same _ _ _
        · rw [get_put_of_ne settings _ same, updated.get_eq (elsewhere same)]

theorem fill_eq_ok_iff {entries : List (Text × Datum)}
    {parameters : List Parameter} (nodup : parameters.Nodup) :
    fill entries parameters settings = .ok next ↔
      settings.Updated next (among parameters (.record entries)) := by
  rw [fill_eq_foldlM]
  induction parameters generalizing settings with
  | nil =>
      have nothing : among [] (.record entries) = fun _ => none := rfl
      rw [nothing, updated_none_iff]
      exact ⟨fun same => (Except.ok.inj same).symm, fun same =>
        congrArg Except.ok same.symm⟩
  | cons parameter rest ih =>
      rcases List.nodup_cons.mp nodup with ⟨first, later⟩
      have disjoint : [parameter].Disjoint rest := by simpa using first
      rw [List.foldlM_cons, bind_eq_ok_iff, ← List.singleton_append,
        among_append, updated_or_iff (among_disjoint disjoint _)]
      simp only [fillOne_eq_ok_iff, ih later]

theorem mem_beforeWindow_iff {level : Level} {parameter : Parameter} :
    parameter ∈ beforeWindow level ↔
      parameter ∈ level.parameters ∧ parameter ≠ .rippleSpeed ∧
      parameter ≠ .decayFloor := by
  rw [beforeWindow, List.mem_filter, decide_eq_true_iff]

theorem mem_afterWindow_iff {level : Level} {parameter : Parameter} :
    parameter ∈ afterWindow level ↔
      parameter ∈ level.parameters ∧
      ¬ (parameter ≠ .rippleSpeed ∧ parameter ≠ .decayFloor) := by
  rw [afterWindow, List.mem_filter, decide_eq_true_iff]

theorem nodup_beforeWindow (level : Level) : (beforeWindow level).Nodup := by
  cases level <;> decide

theorem nodup_afterWindow (level : Level) : (afterWindow level).Nodup := by
  cases level <;> decide

/--
The parameters of a level are checked in two parts, and each of them once.
-/
theorem among_checked (level : Level) (set : Datum) :
    (fun parameter => (among (beforeWindow level) set parameter).or
      (among (afterWindow level) set parameter)) =
      among level.parameters set := by
  rw [← among_append]
  funext parameter
  have members : parameter ∈ beforeWindow level ++ afterWindow level ↔
      parameter ∈ level.parameters := by
    rw [List.mem_append, mem_beforeWindow_iff, mem_afterWindow_iff,
      ← and_or_left]
    simp only [em, and_true]
  simp only [among, members]

theorem fillLevel_eq_ok_iff {level : Level} {entries : List (Text × Datum)} :
    settings.fillLevel level entries = .ok next ↔
      next.windowOpen = true ∧
        settings.Updated next (among level.parameters (.record entries)) := by
  have disjoint : (beforeWindow level).Disjoint (afterWindow level) :=
    fun parameter early late =>
    (mem_afterWindow_iff.mp late).2 (mem_beforeWindow_iff.mp early).2
  have least (set : Datum) : among (afterWindow level) set .flipMin = none :=
    if_neg (by simp [afterWindow])
  have greatest (set : Datum) : among (afterWindow level) set .flipMax = none :=
    if_neg (by simp [afterWindow])
  rw [← among_checked, updated_or_iff (among_disjoint disjoint _), fillLevel,
    bind_eq_ok_iff]
  simp only [bind_eq_ok_iff, checkWindow_eq_ok_iff, fill_eq_ok_iff
    (nodup_beforeWindow level), fill_eq_ok_iff (nodup_afterWindow level)]
  constructor
  · rintro ⟨first, before, _, ⟨opened, rfl⟩, after⟩
    refine ⟨?_, _, before, after⟩
    rw [after.windowOpen_eq (least _) (greatest _)]
    exact opened
  · rintro ⟨opened, first, before, after⟩
    refine ⟨first, before, first, ⟨?_, rfl⟩, after⟩
    rw [← after.windowOpen_eq (least _) (greatest _)]
    exact opened

/--
The data that are sets of a level: null, or a record of parameters of that
level.
-/
def IsSet (level : Level) (given : Datum) : Prop :=
  given = .null ∨ ∃ entries, given = .record entries ∧
    ∀ entry ∈ entries, ∃ parameter ∈ level.parameters,
      entry.1 = Text.ofString parameter.name

theorem readLevel_eq_ok_iff (opened : settings.windowOpen = true)
    {level : Level} {given : Datum} :
    settings.readLevel level given = .ok next ↔
      IsSet level given ∧ next.windowOpen = true ∧
        settings.Updated next (among level.parameters given) := by
  have nothing : among level.parameters .null = fun _ => none := by
    funext parameter
    exact ite_self _
  constructor
  · intro read
    rcases readLevel_eq_ok_cases read with
      ⟨rfl, rfl⟩ | ⟨entries, rfl, compared, filled⟩
    · rw [nothing]
      exact ⟨Or.inl rfl, opened, updated_none_iff.mpr rfl⟩
    · have known := Datum.strangers_record_eq_nil_iff.mp compared
      exact ⟨Or.inr ⟨entries, rfl, known⟩, fillLevel_eq_ok_iff.mp filled⟩
  · rintro ⟨rfl | ⟨entries, rfl, known⟩, stillOpen, updated⟩
    · rw [nothing, updated_none_iff] at updated
      rw [updated]
      rfl
    · rw [readLevel_of_known known]
      exact fillLevel_eq_ok_iff.mpr ⟨stillOpen, updated⟩

/-! ## The sets of a document -/

/--
The set of a level in a document; one that is left out is as good as null.
-/
def setOf (sets : List (Text × Datum)) (level : Level) : Datum :=
  (Datum.lookup? level.key sets).getD .null

/-- What a document gives for the parameters of some levels. -/
def within (levels : List Level) (sets : List (Text × Datum))
    (parameter : Parameter) : Option Datum :=
  if parameter.level ∈ levels then
    (setOf sets parameter.level).field? parameter.name else none

theorem mem_parameters_iff {level : Level} {parameter : Parameter} :
    parameter ∈ level.parameters ↔ parameter.level = level := by
  cases level <;> cases parameter <;> decide

theorem within_cons (level : Level) (rest : List Level)
    (sets : List (Text × Datum)) :
    within (level :: rest) sets = fun parameter =>
      (among level.parameters (setOf sets level) parameter).or
        (within rest sets parameter) := by
  funext parameter
  simp only [within, among, List.mem_cons, mem_parameters_iff]
  by_cases own : parameter.level = level
  · subst own
    cases (setOf sets parameter.level).field? parameter.name <;> simp
  · simp [own]

theorem within_disjoint {level : Level} {rest : List Level}
    (first : level ∉ rest) (sets : List (Text × Datum))
    (parameter : Parameter) :
    among level.parameters (setOf sets level) parameter = none ∨
      within rest sets parameter = none := by
  by_cases own : parameter.level = level
  · exact Or.inr (if_neg (own ▸ first))
  · exact Or.inl (if_neg fun member => own (mem_parameters_iff.mp member))

theorem readLevels_eq_ok_iff (opened : settings.windowOpen = true)
    {sets : List (Text × Datum)} {levels : List Level} (nodup : levels.Nodup) :
    readLevels sets levels settings = .ok next ↔
      (∀ level ∈ levels, IsSet level (setOf sets level)) ∧
      next.windowOpen = true ∧
        settings.Updated next (within levels sets) := by
  rw [readLevels_eq_foldlM]
  induction levels generalizing settings with
  | nil =>
      have nothing : within [] sets = fun _ => none := rfl
      rw [nothing, updated_none_iff]
      constructor
      · rintro ⟨⟩
        exact ⟨by simp, opened, rfl⟩
      · rintro ⟨-, -, rfl⟩
        rfl
  | cons level rest ih =>
      rcases List.nodup_cons.mp nodup with ⟨first, later⟩
      rw [List.foldlM_cons, bind_eq_ok_iff, within_cons,
        updated_or_iff (within_disjoint first sets), List.forall_mem_cons]
      constructor
      · rintro ⟨middle, read, folded⟩
        rcases (readLevel_eq_ok_iff opened).mp read with
          ⟨isSet, middleOpen, before⟩
        rcases (ih middleOpen later).mp folded with ⟨areSets, nextOpen, after⟩
        exact ⟨⟨isSet, areSets⟩, nextOpen, middle, before, after⟩
      · rintro ⟨⟨isSet, areSets⟩, nextOpen, middle, before, after⟩
        -- The window is the one at the end or the one at the start, as the
        -- rules are read or not.
        have middleOpen : middle.windowOpen = true := by
          by_cases rules : level = .rules
          · subst rules
            rw [← after.windowOpen_eq (if_neg first) (if_neg first)]
            exact nextOpen
          · have elsewhere {parameter : Parameter}
                (own : parameter.level = .rules) :
                among level.parameters (setOf sets level) parameter = none :=
              if_neg fun member =>
                rules ((mem_parameters_iff.mp member).symm.trans own)
            rw [before.windowOpen_eq (elsewhere rfl) (elsewhere rfl)]
            exact opened
        exact ⟨middle,
          (readLevel_eq_ok_iff opened).mpr ⟨isSet, middleOpen, before⟩,
          (ih middleOpen later).mpr ⟨areSets, nextOpen, after⟩⟩

/-! ## Whole documents -/

/-- What a document gives for a parameter. -/
def given? (sets : List (Text × Datum))
    (parameter : Parameter) : Option Datum :=
  (setOf sets parameter.level).field? parameter.name

/--
The value that a document states for a parameter, which is the standard one if
it gives none.
-/
def States (sets : List (Text × Datum)) (parameter : Parameter)
    (value : parameter.Value Float) : Prop :=
  parameter.Becomes (given? sets parameter) (standard.get parameter) value

/--
The documents of settings: records of sets of the levels, in which every value
that is given spells one, and in which the ends of the flip window are in order.
-/
structure Grammar (sets : List (Text × Datum)) : Prop where
  keys : ∀ set ∈ sets, ∃ level : Level, set.1 = Text.ofString level.key
  shapes : ∀ level, IsSet level (setOf sets level)
  values : ∀ (parameter : Parameter) (given : Datum),
    given? sets parameter = some given →
    ∃ value, parameter.Spells given value
  window : ∀ low high : Float, States sets .flipMin low →
    States sets .flipMax high → low ≤ high

theorem States.unique {sets : List (Text × Datum)} {parameter : Parameter}
    {first second : parameter.Value Float}
    (firstStated : States sets parameter first)
    (secondStated : States sets parameter second) : first = second :=
  Parameter.Becomes.unique firstStated secondStated

/-- Every document of settings states some. -/
theorem Grammar.exists_settings {sets : List (Text × Datum)}
    (grammar : Grammar sets) :
    ∃ settings : Settings Float, ∀ parameter,
      States sets parameter (settings.get parameter) := by
  have stated (parameter : Parameter) :
      ∃ value, States sets parameter value := by
    cases found : given? sets parameter with
    | none => exact ⟨_, by rw [States, found]; rfl⟩
    | some given =>
        rcases grammar.values parameter given found with ⟨value, spelled⟩
        exact ⟨value, by rw [States, found]; exact spelled⟩
  choose values states using stated
  refine ⟨ofValues values, fun parameter => ?_⟩
  rw [get_ofValues]
  exact states parameter

theorem known_of_ofDatum {sets : List (Text × Datum)}
    {settings : Settings Float}
    (accepted : ofDatum (.record sets) = .ok settings) :
    ∀ set ∈ sets, ∃ level : Level, set.1 = Text.ofString level.key := by
  rcases bind_eq_ok_iff.mp accepted with ⟨unknown, compared, later⟩
  split at later
  · next none =>
    rw [List.isEmpty_iff.mp none] at compared
    intro set member
    rcases Datum.strangers_record_eq_nil_iff.mp compared set member with
      ⟨level, -, same⟩
    exact ⟨level, same⟩
  · cases later

/--
A document is accepted when it is one of settings, as the settings that it
states.
-/
theorem ofDatum_eq_ok_iff {given : Datum} {settings : Settings Float} :
    ofDatum given = .ok settings ↔
      ∃ sets, given = .record sets ∧ Grammar sets ∧
        ∀ parameter, States sets parameter (settings.get parameter) := by
  have within_all (sets : List (Text × Datum)) :
      within Level.all sets = given? sets := by
    funext parameter
    exact if_pos parameter.level.mem_all
  have read_iff (sets : List (Text × Datum)) :
      readLevels sets Level.all standard = .ok settings ↔
        (∀ level, IsSet level (setOf sets level)) ∧ settings.windowOpen = true ∧
          standard.Updated settings (given? sets) := by
    have all : (∀ level ∈ Level.all, IsSet level (setOf sets level)) ↔
        ∀ level, IsSet level (setOf sets level) :=
      forall_congr' fun level => imp_iff_right level.mem_all
    rw [readLevels_eq_ok_iff (valid_iff.mp valid_standard).2 (by decide),
      within_all, all]
  constructor
  · intro accepted
    have valid := valid_of_ofDatum accepted
    rcases exists_sets_of_ofDatum accepted with ⟨sets, rfl, read⟩
    rcases (read_iff sets).mp read with ⟨shapes, -, updated⟩
    refine ⟨sets, rfl, ⟨?_, shapes, ?_, ?_⟩, updated⟩
    · exact known_of_ofDatum accepted
    · intro parameter given found
      have stated := updated parameter
      rw [found] at stated
      exact ⟨_, stated⟩
    · intro low high lowStated highStated
      rw [lowStated.unique (updated .flipMin),
        highStated.unique (updated .flipMax)]
      exact valid.window
  · rintro ⟨sets, rfl, grammar, states⟩
    rw [ofDatum_of_known grammar.keys]
    have updated : standard.Updated settings (given? sets) := states
    have window : settings.rules.flipMin ≤ settings.rules.flipMax :=
      grammar.window _ _ (states .flipMin) (states .flipMax)
    have valid : settings.Valid :=
      ⟨updated.allAdmitted valid_standard.admitted, window⟩
    exact (read_iff sets).mpr ⟨grammar.shapes, (valid_iff.mp valid).2, updated⟩

end Settings

end SoundGrid

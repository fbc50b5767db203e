import SoundGrid.Proofs.Procedure
import SoundGrid.Proofs.Settings.OneByOne

/-!
# A parameter replaced in a copy of its set

Settings never change a set in place.  A parameter is replaced in a copy of its
set: the copy is filled with the old values and the new one as it was given,
every value is checked and overwritten with what it was converted to, the flip
window is looked at on the way, and only then the settings take the copy over.
`replacing` is this procedure, with the copy on a bench of its own.  Whatever is
refused on the way leaves a copy that is checked in part, and it leaves the
settings alone.

A success checks every value of the set again, not only the new one.  The old
ones come out as they went in, since a value that was accepted is accepted as
itself; so the procedure does no more and no less than a change of the one
parameter.  This needs settings that were accepted before, as those are that
have been made in the ways that `Reachable` lists.
-/

namespace SoundGrid

/-! ## Keys and names -/

namespace Text

theorem characters?_eq_some_iff {points : List CodePoint}
    {characters : List Char} :
    characters? points = some characters ↔
      points = characters.map .character := by
  constructor
  · intro found
    induction points generalizing characters with
    | nil =>
        cases found
        rfl
    | cons point rest ih =>
        cases point with
        | half position => cases found
        | character value =>
            change (characters? rest).bind
              (fun others => some (value :: others)) = _ at found
            rcases Option.bind_eq_some_iff.mp found with ⟨others, read, same⟩
            cases same
            rw [ih read]
            rfl
  · rintro rfl
    exact characters?_map characters

/-- A text is a string when it is the text of that string. -/
theorem string?_eq_some_iff {text : Text} {string : String} :
    text.string? = some string ↔ text = ofString string := by
  constructor
  · intro read
    rcases Option.map_eq_some_iff.mp read with ⟨characters, found, rfl⟩
    rw [ofString, String.toList_ofList, ← characters?_eq_some_iff.mp found]
  · rintro rfl
    exact string?_ofString string

end Text

theorem Level.key_of_ofKey? {key : String} {level : Level}
    (found : ofKey? key = some level) : level.key = key := by
  have matched := List.find?_some found
  exact eq_of_beq matched

theorem Level.of_parameter? {level : Level} {name : String}
    {parameter : Parameter} (found : level.parameter? name = some parameter) :
    parameter.level = level ∧ parameter.name = name := by
  have matched := List.find?_some found
  exact ⟨Settings.mem_parameters_iff.mp (List.mem_of_find?_eq_some found),
    eq_of_beq matched⟩

namespace Settings

theorem levelOf_eq_ok_iff {key : Datum} {level : Level} :
    levelOf key = .ok level ↔ key = .text level.key := by
  constructor
  · intro found
    cases key with
    | text given =>
        rw [levelOf] at found
        split at found
        · next known =>
          cases found
          rcases Option.bind_eq_some_iff.mp known with ⟨string, read, listed⟩
          rw [Text.string?_eq_some_iff.mp read, Level.key_of_ofKey? listed]
        · cases found
    | _ => cases found
  · rintro rfl
    exact levelOf_key level

theorem parameterOf_eq_ok_iff {level : Level} {name : Datum}
    {parameter : Parameter} :
    parameterOf level name = .ok parameter ↔
      parameter.level = level ∧ name = .text parameter.name := by
  constructor
  · intro found
    cases name with
    | text given =>
        simp only [parameterOf] at found
        split at found
        · next known =>
          cases found
          rcases Option.bind_eq_some_iff.mp known with ⟨string, read, listed⟩
          rcases Level.of_parameter? listed with ⟨own, same⟩
          exact ⟨own, by rw [Text.string?_eq_some_iff.mp read, same]⟩
        · cases found
    | _ =>
        simp only [parameterOf] at found
        split at found <;> cases found
  · rintro ⟨rfl, rfl⟩
    exact parameterOf_name parameter

/-- The key of a set and the name of a parameter in it. -/
def Names (key name : Datum) (parameter : Parameter) : Prop :=
  key = .text parameter.level.key ∧ name = .text parameter.name

theorem Names.write_eq {key name : Datum} {parameter : Parameter}
    (names : Names key name parameter) (settings : Settings Float)
    (given : Datum) :
    settings.write key name given = settings.assign parameter given := by
  rcases names with ⟨rfl, rfl⟩
  rw [write, levelOf_key]
  change (parameterOf parameter.level _ >>= fun parameter =>
    settings.assign parameter given) = _
  rw [parameterOf_name]
  rfl

theorem Names.read_eq {key name : Datum} {parameter : Parameter}
    (names : Names key name parameter) (settings : Settings Float) :
    settings.read key name =
      .ok (parameter.toNumber (settings.get parameter)) := by
  rcases names with ⟨rfl, rfl⟩
  rw [read, levelOf_key]
  change (parameterOf parameter.level _ >>= fun parameter =>
    pure (parameter.toNumber (settings.get parameter))) = _
  rw [parameterOf_name]
  rfl

/--
A change that is not refused puts one value, accepted for the parameter that is
named.
-/
theorem exists_names_of_write {settings next : Settings Float}
    {key name given : Datum}
    (written : settings.write key name given = .ok next) :
    ∃ parameter value, Names key name parameter ∧
      parameter.accept given = .ok value ∧
      next = settings.put parameter value := by
  rcases bind_eq_ok_iff.mp written with ⟨level, found, later⟩
  rcases bind_eq_ok_iff.mp later with ⟨parameter, named, assigned⟩
  rcases bind_eq_ok_iff.mp assigned with ⟨value, accepted, checked⟩
  rcases checkWindow_eq_ok_iff.mp checked with ⟨-, rfl⟩
  rcases parameterOf_eq_ok_iff.mp named with ⟨rfl, isName⟩
  exact ⟨parameter, value, ⟨levelOf_eq_ok_iff.mp found, isName⟩, accepted, rfl⟩

/-- A value that is read is accepted again, and changes nothing. -/
theorem Valid.write_read {settings : Settings Float} (valid : settings.Valid)
    {key name : Datum} {parameter : Parameter}
    (names : Names key name parameter) :
    settings.write key name
      (.ofNumber (parameter.toNumber (settings.get parameter))) =
      .ok settings := by
  have accepted := Parameter.accept_toNumber (valid.admitted parameter)
  rw [names.write_eq, assign, accepted]
  change (settings.put parameter (settings.get parameter)).checkWindow = _
  rw [put_get]
  exact checkWindow_eq_ok_iff.mpr ⟨(valid_iff.mp valid).2, rfl⟩

/-! ## Settings that can be made -/

/--
The settings that are standard, constructed, put together, read, or changed from
such.
-/
inductive Reachable : Settings Float → Prop where
  | standard : Reachable standard
  /-- One set is constructed, the others are standard. -/
  | construct {level : Level} {given : List (Text × Datum)}
    {settings : Settings Float}
    (made : construct level given = .ok settings) : Reachable settings
  /-- Every set is that of some settings that can be made. -/
  | gather {sets : Level → Settings Float}
    (each : ∀ level, Reachable (sets level)) :
      Reachable (ofValues fun parameter => (sets parameter.level).get parameter)
  | read {given : Datum} {settings : Settings Float}
    (made : ofDatum given = .ok settings) :
      Reachable settings
  | write {settings next : Settings Float} {key name given : Datum}
    (before : Reachable settings)
    (written : settings.write key name given = .ok next) : Reachable next

/-- All of them are valid. -/
theorem Reachable.valid {settings : Settings Float}
    (reachable : Reachable settings) :
    settings.Valid := by
  induction reachable with
  | standard => exact valid_standard
  | construct made =>
      rw [Settings.construct] at made
      split at made
      · exact valid_standard.fillLevel made
      · cases made
  | gather each ih =>
      refine ⟨fun parameter => ?_, (ih .rules).window⟩
      rw [get_ofValues]
      exact (ih parameter.level).admitted parameter
  | read made => exact valid_of_ofDatum made
  | write before written ih =>
      rcases exists_put_of_write written with
        ⟨opened, parameter, value, accepted, rfl⟩
      exact valid_iff.mpr
        ⟨ih.admitted.put (Parameter.admits_of_accept accepted), opened⟩

end Settings

/--
What a parameter shows of a double that it takes: the count that it is, or the
double.
-/
def Parameter.Shows : Parameter → Float → Number → Prop
  | .rippleSpeed, number, shown =>
      ∃ count : Nat, shown = .int count ∧
        Number.Double.rank? number = some (((count : ℤ) : ℝ) : EReal)
  | _, number, shown => shown = .double number

theorem Parameter.shows_ofDouble {parameter : Parameter} {number : Float}
    (taken : parameter.Takes number) :
    parameter.Shows number
      (parameter.toNumber (parameter.ofDouble number)) := by
  cases parameter with
  | rippleSpeed => exact ⟨_, rfl, takes_rippleSpeed_iff.mp ⟨taken, rfl⟩⟩
  | _ => rfl

/-! ## The procedure -/

/-- Settings, and beside them the copy of a set that is being checked. -/
structure Bench where
  settings : Settings Float
  draft : Settings Float

namespace Bench

open Procedure

/-- A step on the copy, which is overwritten with what the step makes of it. -/
def drafting (step : Settings Float → Except Fault (Settings Float)) :
    Procedure Bench Unit := do
  let next ← demand fun bench => step bench.draft
  write fun bench => { bench with draft := next }

/--
Checks the entries of the copy one by one, each overwritten with its value.
-/
def checking (entries : List (Text × Datum)) :
    List Parameter → Procedure Bench Unit
  | [] => pure ()
  | parameter :: rest => do
      drafting fun draft => Settings.fillOne entries draft parameter
      checking entries rest

/-- Checks all entries of the copy, and the flip window on the way. -/
def checkingSet (entries : List (Text × Datum))
    (level : Level) : Procedure Bench Unit := do
  checking entries (Settings.beforeWindow level)
  drafting Settings.checkWindow
  checking entries (Settings.afterWindow level)

/--
Replaces a parameter by a copy of its set in which it has been given another
value.
-/
def replacing (key name given : Datum) : Procedure Bench Unit := do
  let level ← demand fun _ => Settings.levelOf key
  let parameter ← demand fun _ => Settings.parameterOf level name
  let entries ← demand fun bench => .ok (bench.settings.revised parameter given)
  write fun bench => { bench with draft := bench.settings }
  checkingSet entries level
  write fun bench =>
    { bench with
      settings := bench.settings.takeOver bench.draft level.parameters }

/-! ## What the steps do -/

/--
A procedure that does to the copy what a function does, and nothing to the
settings.
-/
def Drafts (procedure : Procedure Bench Unit)
    (made : Settings Float → Except Fault (Settings Float)) : Prop :=
  ∀ bench : Bench, ∃ draft,
    outcome procedure bench =
      ((made bench.draft).map fun _ => (), { bench with draft }) ∧
      ∀ next, made bench.draft = .ok next → draft = next

theorem drafts_pure : Drafts (pure ()) Except.ok :=
  fun bench => ⟨bench.draft, rfl, fun _ same => Except.ok.inj same⟩

theorem drafts_drafting
    (step : Settings Float → Except Fault (Settings Float)) :
    Drafts (drafting step) step := by
  intro bench
  rw [drafting, outcome_bind, outcome_demand]
  cases step bench.draft with
  | error fault =>
      refine ⟨bench.draft, rfl, ?_⟩
      rintro next ⟨⟩
  | ok next => exact ⟨next, rfl, fun _ same => Except.ok.inj same⟩

theorem Drafts.bind {first second : Procedure Bench Unit}
    {made later : Settings Float → Except Fault (Settings Float)}
    (drafts : Drafts first made) (draftsLater : Drafts second later) :
    Drafts (do first; second) fun draft => made draft >>= later := by
  intro bench
  rcases drafts bench with ⟨draft, outcomeFirst, reached⟩
  rw [outcome_bind, outcomeFirst]
  dsimp only
  cases result : made bench.draft with
  | error fault =>
      refine ⟨draft, rfl, ?_⟩
      rintro next ⟨⟩
  | ok next =>
      cases reached next result
      exact draftsLater { bench with draft }

theorem drafts_checking (entries : List (Text × Datum))
    (parameters : List Parameter) :
    Drafts (checking entries parameters)
      (Settings.fill entries parameters) := by
  induction parameters with
  | nil => exact drafts_pure
  | cons parameter rest ih =>
      have split : Settings.fill entries (parameter :: rest) = fun draft =>
          Settings.fillOne entries draft parameter >>=
            Settings.fill entries rest := by
        funext draft
        rw [Settings.fill_eq_foldlM, List.foldlM_cons]
        simp only [← Settings.fill_eq_foldlM]
      rw [split]
      exact (drafts_drafting _).bind ih

theorem drafts_checkingSet (entries : List (Text × Datum)) (level : Level) :
    Drafts (checkingSet entries level) fun draft =>
      draft.fillLevel level entries :=
  (drafts_checking entries _).bind
    ((drafts_drafting _).bind (drafts_checking entries _))

variable {key name given : Datum}

/--
Where an attempt ends: with the new settings, or with the old ones and its
fault.
-/
def ended (settings : Settings Float) (result : Except Fault (Settings Float))
    (draft : Settings Float) : Outcome Bench Unit :=
  match result with
  | .ok next => (.ok (), ⟨next, draft⟩)
  | .error fault => (.error fault, ⟨settings, draft⟩)

theorem outcome_replacing_of_names {bench : Bench}
    (valid : bench.settings.Valid) {parameter : Parameter}
    (names : Settings.Names key name parameter) :
    ∃ draft, outcome (replacing key name given) bench =
      ended bench.settings (bench.settings.assign parameter given) draft := by
  rcases names with ⟨rfl, rfl⟩
  rw [replacing, Settings.levelOf_key, outcome_bind, outcome_demand]
  dsimp only
  rw [Settings.parameterOf_name, outcome_bind, outcome_demand]
  dsimp only
  rw [outcome_bind, outcome_demand]
  dsimp only
  rw [outcome_bind, outcome_write]
  dsimp only
  rcases drafts_checkingSet (bench.settings.revised parameter given)
      parameter.level { bench with draft := bench.settings } with
    ⟨draft, checked, reached⟩
  rw [outcome_bind, checked]
  dsimp only at reached ⊢
  rw [← Settings.assign_eq_fillLevel valid] at reached ⊢
  cases assigned : bench.settings.assign parameter given with
  | error fault => exact ⟨draft, rfl⟩
  | ok next =>
      cases reached next assigned
      rcases bind_eq_ok_iff.mp assigned with ⟨value, -, passed⟩
      rcases Settings.checkWindow_eq_ok_iff.mp passed with ⟨-, rfl⟩
      refine ⟨bench.settings.put parameter value, ?_⟩
      change (Except.ok (), Bench.mk (bench.settings.takeOver _ _) _) = _
      rw [Settings.takeOver_put]
      rfl

/--
What the procedure does to valid settings is what a change of the one parameter
does: it answers the same, and it leaves the old settings or the new ones.
-/
theorem outcome_replacing {bench : Bench} (valid : bench.settings.Valid)
    (key name given : Datum) :
    ∃ draft, outcome (replacing key name given) bench =
      ended bench.settings (bench.settings.write key name given) draft := by
  cases found : Settings.levelOf key with
  | error fault =>
      refine ⟨bench.draft, ?_⟩
      rw [replacing, outcome_bind, outcome_demand, Settings.write, found]
      rfl
  | ok level =>
      cases named : Settings.parameterOf level name with
      | error fault =>
          refine ⟨bench.draft, ?_⟩
          rw [replacing, outcome_bind, outcome_demand, found]
          dsimp only
          rw [outcome_bind, outcome_demand, named, Settings.write, found]
          change _ = ended _ (Settings.parameterOf level name >>= _) _
          rw [named]
          rfl
      | ok parameter =>
          rcases Settings.parameterOf_eq_ok_iff.mp named with ⟨rfl, isName⟩
          have names : Settings.Names key name parameter :=
            ⟨Settings.levelOf_eq_ok_iff.mp found, isName⟩
          rw [names.write_eq]
          exact outcome_replacing_of_names valid names

/-- To replace a parameter by what it shows changes nothing. -/
theorem outcome_replacing_read {settings : Settings Float}
    (valid : settings.Valid) {parameter : Parameter}
    (names : Settings.Names key name parameter) (draft : Settings Float) :
    ∃ left,
      outcome
          (replacing key name
            (.ofNumber (parameter.toNumber (settings.get parameter))))
          ⟨settings, draft⟩ =
        (.ok (), ⟨settings, left⟩) := by
  have bench : (Bench.mk settings draft).settings.Valid := valid
  rcases outcome_replacing bench key name
    (.ofNumber (parameter.toNumber (settings.get parameter))) with
    ⟨left, ending⟩
  refine ⟨left, ending.trans ?_⟩
  rw [valid.write_read names]
  rfl

/--
A parameter of settings that can be made is replaced as a whole or not at all.
A refusal leaves the settings as they were.  A success has converted what was
given, shows the converted value and changes no other parameter; to replace the
parameter by what it shows then succeeds and changes nothing.
-/
theorem replacing_of_reachable {settings : Settings Float}
    (reachable : settings.Reachable) (key name given : Datum)
    (draft : Settings Float) :
    (∀ fault after,
      outcome (replacing key name given) ⟨settings, draft⟩ =
        (.error fault, after) →
      settings.write key name given = .error fault ∧
        after.settings = settings) ∧
    ∀ after,
      outcome (replacing key name given) ⟨settings, draft⟩ = (.ok (), after) →
      settings.write key name given = .ok after.settings ∧
        ∃ parameter number shown,
          Settings.Names key name parameter ∧ given.toDouble = .ok number ∧
            parameter.Shows number shown ∧
            after.settings.read key name = .ok shown ∧
            (∀ other, other ≠ parameter →
              after.settings.get other = settings.get other) ∧
            ∀ scratch, ∃ again,
              outcome (replacing key name (.ofNumber shown))
                  ⟨after.settings, scratch⟩ = (.ok (), again) ∧
                again.settings = after.settings := by
  have valid : (Bench.mk settings draft).settings.Valid := reachable.valid
  rcases outcome_replacing valid key name given with ⟨left, ending⟩
  rw [ending]
  cases written : settings.write key name given with
  | error fault =>
      constructor
      · rintro cause after ⟨⟩
        exact ⟨rfl, rfl⟩
      · rintro after ⟨⟩
  | ok next =>
      constructor
      · rintro fault after ⟨⟩
      rintro after ⟨⟩
      have nextValid : next.Valid := (reachable.write written).valid
      rcases Settings.exists_names_of_write written with
        ⟨parameter, value, names, accepted, rfl⟩
      rcases Parameter.accept_eq_ok_iff.mp accepted with
        ⟨number, converted, taken, rfl⟩
      have own :=
        Settings.get_put_same settings parameter (parameter.ofDouble number)
      refine ⟨rfl, parameter, number,
        parameter.toNumber (parameter.ofDouble number), names,
        converted, Parameter.shows_ofDouble taken, ?_, ?_, ?_⟩
      · rw [names.read_eq]
        change Except.ok
          (parameter.toNumber ((settings.put parameter _).get parameter)) = _
        rw [own]
      · exact fun other different => Settings.get_put_of_ne settings _ different
      · intro scratch
        have again := outcome_replacing_read nextValid names scratch
        rw [own] at again
        rcases again with ⟨rest, again⟩
        exact ⟨_, again, rfl⟩

/--
The ripple speed is replaced by a text that spells a whole number.  A flip
window that would be empty is found only when the copy has its new lower end.
-/
theorem replacing_of_reachable_spelledOut :
    Settings.spelledOutSettings.Reachable ∧
      (∃ after parameter shown,
        outcome
          (replacing (.text "rules") (.text "ripple_speed") (.text " 4e0 "))
            ⟨Settings.spelledOutSettings, .standard⟩ = (.ok (), after) ∧
          after.settings.rules.rippleSpeed = 4 ∧
          Settings.Names (.text "rules") (.text "ripple_speed") parameter ∧
          after.settings.read (.text "rules") (.text "ripple_speed") =
            .ok shown ∧
          ∀ other, other ≠ parameter →
            after.settings.get other = Settings.spelledOutSettings.get other) ∧
      ∃ fault after,
        outcome (replacing (.text "rules") (.text "flip_min") (.double 0.75))
            ⟨Settings.spelledOutSettings, .standard⟩ = (.error fault, after) ∧
          after.draft.rules.flipMin = 0.75 ∧
          after.settings = Settings.spelledOutSettings := by
  have reachable : Settings.spelledOutSettings.Reachable :=
    .read Settings.ofDatum_spelledOut
  refine ⟨reachable, ?_, ?_⟩
  · have done : (outcome
          (replacing (.text "rules") (.text "ripple_speed") (.text " 4e0 "))
        ⟨Settings.spelledOutSettings, .standard⟩).1.toOption = some () := by
      decide +kernel
    have speed : (outcome
          (replacing (.text "rules") (.text "ripple_speed") (.text " 4e0 "))
        ⟨Settings.spelledOutSettings, .standard⟩).2.settings.rules.rippleSpeed =
        4 := by
      decide +kernel
    have replaced :=
      (replacing_of_reachable reachable (.text "rules") (.text "ripple_speed")
        (.text " 4e0 ") .standard).2
    generalize outcome
      (replacing (.text "rules") (.text "ripple_speed") (.text " 4e0 "))
      ⟨Settings.spelledOutSettings, .standard⟩ = ending at done speed replaced ⊢
    rcases ending with ⟨reply, after⟩
    cases eq_ok_of_toOption done
    rcases replaced after rfl with
      ⟨-, parameter, number, shown, names, -, -, read, others, -⟩
    exact ⟨after, parameter, shown, rfl, speed, names, read, others⟩
  · have refused :
        (outcome (replacing (.text "rules") (.text "flip_min") (.double 0.75))
          ⟨Settings.spelledOutSettings, .standard⟩).1.isOk = false := by
      decide +kernel
    have draft :
        (outcome (replacing (.text "rules") (.text "flip_min") (.double 0.75))
          ⟨Settings.spelledOutSettings, .standard⟩).2.draft.rules.flipMin =
        0.75 := by
      decide +kernel
    have kept :=
      (replacing_of_reachable reachable (.text "rules") (.text "flip_min")
        (.double 0.75) .standard).1
    generalize outcome
      (replacing (.text "rules") (.text "flip_min") (.double 0.75))
      ⟨Settings.spelledOutSettings, .standard⟩ = ending at refused draft kept ⊢
    rcases ending with ⟨reply, after⟩
    cases reply with
    | ok done => cases refused
    | error fault => exact ⟨fault, after, rfl, draft, (kept fault after rfl).2⟩

end Bench

end SoundGrid

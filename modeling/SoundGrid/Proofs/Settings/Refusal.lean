import SoundGrid.Proofs.Settings.Check
import SoundGrid.Proofs.Settings.Names

/-!
# Refused settings

Why a document of settings is refused.  Most documents are refused for a value
or for data of the wrong kind.  The others have no fields although no unknown
name is found in them, or they overflow: the first of their values that is
refused is too large.
-/

namespace SoundGrid

namespace Settings

/-! ## The sets of a document -/

/--
The ways in which the reading of a set is refused: for a fault of the wrong
kind, for unknown names, or for the values of a record.
-/
theorem readLevel_eq_error_cases {settings : Settings Float} {level : Level}
    {given : Datum} {fault : Fault}
    (refused : settings.readLevel level given = .error fault) :
    fault.category = .type ∨ fault.category = .value ∨
      ∃ entries, given = .record entries ∧
        given.strangers (level.parameters.map Parameter.name) = .ok [] ∧
        settings.fillLevel level entries = .error fault := by
  unfold readLevel at refused
  split at refused
  · cases refused
  · rcases bind_eq_error_iff.mp refused with unread | ⟨unknown, compared, later⟩
    · exact Or.inl (Datum.category_of_strangers unread)
    · split at later
      · next none =>
        rw [List.isEmpty_iff.mp none] at compared
        split at later
        · next entries notNull =>
            exact Or.inr (Or.inr ⟨entries, rfl, compared, later⟩)
        · cases later
          exact Or.inl rfl
      · cases later
        exact Or.inr (Or.inl rfl)

/--
A set that is accepted is no set at all, or a record of values in the place of
others.
-/
theorem readLevel_eq_ok_cases {settings next : Settings Float} {level : Level}
    {given : Datum} (read : settings.readLevel level given = .ok next) :
    (given = .null ∧ next = settings) ∨
      ∃ entries, given = .record entries ∧
        given.strangers (level.parameters.map Parameter.name) = .ok [] ∧
        settings.fillLevel level entries = .ok next := by
  unfold readLevel at read
  split at read
  · cases read
    exact Or.inl ⟨rfl, rfl⟩
  · rcases bind_eq_ok_iff.mp read with ⟨unknown, compared, later⟩
    split at later
    · next none =>
      rw [List.isEmpty_iff.mp none] at compared
      split at later
      · next entries notNull => exact Or.inr ⟨entries, rfl, compared, later⟩
      · cases later
    · cases later

theorem category_of_readLevel {settings : Settings Float} {level : Level}
    {given : Datum} {fault : Fault}
    (refused : settings.readLevel level given = .error fault) :
    fault = .misuse .tooLarge ∨ fault.category = .type ∨
      fault.category = .value := by
  rcases readLevel_eq_error_cases refused with
    kind | value | ⟨entries, -, -, filled⟩
  · exact Or.inr (Or.inl kind)
  · exact Or.inr (Or.inr value)
  · rcases category_of_fillLevel filled with large | value
    · exact Or.inl large
    · exact Or.inr (Or.inr value)

/-- A record of parameters of a level is read by filling them in. -/
theorem readLevel_of_known {settings : Settings Float} {level : Level}
    {entries : List (Text × Datum)}
    (known : ∀ entry ∈ entries, ∃ parameter ∈ level.parameters,
      entry.1 = Text.ofString parameter.name) :
    settings.readLevel level (.record entries) =
      settings.fillLevel level entries := by
  simp only [readLevel, Datum.strangers_record_eq_nil_iff.mpr known]
  rfl

/-- A set overflows only if it is a record of parameters of its level. -/
theorem readLevel_eq_tooLarge_iff {settings : Settings Float} {level : Level}
    {given : Datum} :
    settings.readLevel level given = .error (.misuse .tooLarge) ↔
      ∃ entries, given = .record entries ∧
        (∀ entry ∈ entries, ∃ parameter ∈ level.parameters,
          entry.1 = Text.ofString parameter.name) ∧
        settings.fillLevel level entries = .error (.misuse .tooLarge) := by
  constructor
  · intro refused
    rcases readLevel_eq_error_cases refused with
      kind | value | ⟨entries, rfl, compared, filled⟩
    · cases kind
    · cases value
    · exact ⟨entries, rfl,
        Datum.strangers_record_eq_nil_iff.mp compared, filled⟩
  · rintro ⟨entries, rfl, known, filled⟩
    rw [readLevel_of_known known]
    exact filled

/-- Reads the set of one level from a record. -/
def readOne (sets : List (Text × Datum)) (settings : Settings Float)
    (level : Level) : Except Fault (Settings Float) :=
  settings.readLevel level ((Datum.lookup? level.key sets).getD .null)

/-- Reading goes from level to level. -/
theorem readLevels_eq_foldlM (sets : List (Text × Datum)) (levels : List Level)
    (settings : Settings Float) :
    readLevels sets levels settings =
      levels.foldlM (readOne sets) settings := by
  induction levels generalizing settings with
  | nil => rfl
  | cons level rest ih =>
      rw [List.foldlM_cons, readLevels]
      cases read : settings.readLevel level
          ((Datum.lookup? level.key sets).getD .null) with
      | error fault =>
          rw [readOne, read]
          rfl
      | ok next =>
          rw [readOne, read]
          exact ih next

/--
Sets in which an oversized value is reached: those before are in order, its own
is a record of parameters of its level, and all that is checked before it there
is accepted.
-/
def Overflows (sets : List (Text × Datum)) : Prop :=
  ∃ earlier level later settings, Level.all = earlier ++ level :: later ∧
    readLevels sets earlier standard = .ok settings ∧
    ∃ entries, Datum.lookup? level.key sets = some (.record entries) ∧
      (∀ entry ∈ entries, ∃ parameter ∈ level.parameters,
        entry.1 = Text.ofString parameter.name) ∧
      ∃ parameter value, Reached settings level entries parameter value ∧
        value.IsOversized

theorem readLevels_eq_tooLarge_iff {sets : List (Text × Datum)} :
    readLevels sets Level.all standard = .error (.misuse .tooLarge) ↔
      Overflows sets := by
  have given : ∀ level entries,
      (Datum.lookup? (Text.ofString (Level.key level)) sets).getD .null =
        .record entries ↔ Datum.lookup? (Text.ofString (Level.key level)) sets =
        some (.record entries) := by
    intro level entries
    cases Datum.lookup? (Text.ofString (Level.key level)) sets with
    | none => simp
    | some datum => simp
  rw [readLevels_eq_foldlM, foldlM_eq_error_iff]
  simp only [readOne, readLevel_eq_tooLarge_iff, fillLevel_eq_tooLarge_iff,
    given, ← readLevels_eq_foldlM]
  exact Iff.rfl

theorem category_of_readLevels {sets : List (Text × Datum)} {fault : Fault}
    (refused : readLevels sets Level.all standard = .error fault) :
    fault = .misuse .tooLarge ∨ fault.category = .type ∨
      fault.category = .value := by
  rw [readLevels_eq_foldlM, foldlM_eq_error_iff] at refused
  rcases refused with ⟨earlier, level, later, settings, -, -, stopped⟩
  exact category_of_readLevel stopped

end Settings

/-! ## Whole documents -/

/-- The data without fields in which no unknown name is found. -/
def Datum.HasNoFields (given : Datum) : Prop :=
  given = .text ⟨[]⟩ ∨
    ∃ items, given = .list items ∧
      ∀ item ∈ items, ∃ level : Level, item = .text level.key

/-- No name of a level has just one letter. -/
theorem Level.points_key_ne_singleton (level : Level) (point : CodePoint) :
    (Text.ofString level.key).points ≠ [point] := by
  have longer : (Text.ofString level.key).points.length ≠ 1 := by
    cases level <;> decide
  intro single
  exact longer (congrArg List.length single)

/-- A list of texts can be compared with names. -/
theorem Datum.members_list_eq {items : List Datum}
    (texts : ∀ item ∈ items, ∃ name : Text, item = .text name) :
    (Datum.list items).members = .ok items := by
  have none : (items.find? fun item => !item.isAtomic) = none := by
    rw [List.find?_eq_none]
    intro item member
    rcases texts item member with ⟨name, rfl⟩
    simp [Datum.isAtomic]
  simp only [Datum.members, none]

/--
Nothing else than a record passes the comparison of names, up to what has no
fields.
-/
theorem Datum.hasNoFields_iff {given : Datum} :
    given.HasNoFields ↔
      given.strangers (Level.all.map Level.key) = .ok [] ∧
      ∀ sets, given ≠ .record sets := by
  rw [strangers_eq_nil_iff]
  constructor
  · rintro (rfl | ⟨items, rfl, known⟩)
    · exact ⟨⟨[], rfl, by simp⟩, by simp⟩
    · refine ⟨⟨items, members_list_eq fun item member => ?_, fun item member =>
        ?_⟩, by simp⟩
      · rcases known item member with ⟨level, rfl⟩
        exact ⟨_, rfl⟩
      · rcases known item member with ⟨level, rfl⟩
        exact ⟨level, level.mem_all, rfl⟩
  · rintro ⟨⟨items, read, known⟩, noRecord⟩
    cases given with
    | record sets => exact absurd rfl (noRecord sets)
    | text value =>
        left
        rcases value with ⟨points⟩
        cases points with
        | nil => rfl
        | cons point rest =>
            cases read
            rcases known (.text ⟨[point]⟩) (by simp [Text.split]) with
              ⟨level, -, same⟩
            have points := congrArg Text.points (Datum.text.inj same)
            exact absurd points.symm (level.points_key_ne_singleton point)
    | list given =>
        right
        simp only [members] at read
        split at read
        · cases read
        · cases read
          refine ⟨_, rfl, fun item member => ?_⟩
          rcases known item member with ⟨level, -, same⟩
          exact ⟨level, same⟩
    | _ => cases read

namespace Settings

/-- A record of sets of levels is read level by level. -/
theorem ofDatum_of_known {sets : List (Text × Datum)}
    (known : ∀ set ∈ sets, ∃ level : Level, set.1 = Text.ofString level.key) :
    ofDatum (.record sets) = readLevels sets Level.all standard := by
  have compared :
      (Datum.record sets).strangers (Level.all.map Level.key) = .ok [] := by
    apply Datum.strangers_record_eq_nil_iff.mpr
    intro set member
    rcases known set member with ⟨level, same⟩
    exact ⟨level, level.mem_all, same⟩
  rw [ofDatum, compared]
  rfl

/-- A document that is accepted is a record of sets of levels. -/
theorem exists_sets_of_ofDatum {given : Datum} {settings : Settings Float}
    (read : ofDatum given = .ok settings) :
    ∃ sets, given = .record sets ∧
      readLevels sets Level.all standard = .ok settings := by
  rcases bind_eq_ok_iff.mp read with ⟨unknown, -, later⟩
  split at later
  · split at later
    · next sets => exact ⟨sets, rfl, later⟩
    · cases later
  · cases later

/-- The ways in which a document is refused. -/
theorem ofDatum_eq_error_cases {given : Datum} {fault : Fault}
    (refused : ofDatum given = .error fault) :
    fault.category = .type ∨ fault.category = .value ∨
      (fault = .misuse .noFields ∧ given.HasNoFields) ∨
      ∃ sets, given = .record sets ∧
        given.strangers (Level.all.map Level.key) = .ok [] ∧
        readLevels sets Level.all standard = .error fault := by
  rcases bind_eq_error_iff.mp refused with unread | ⟨unknown, compared, later⟩
  · exact Or.inl (Datum.category_of_strangers unread)
  · split at later
    · next none =>
      rw [List.isEmpty_iff.mp none] at compared
      split at later
      · next sets => exact Or.inr (Or.inr (Or.inr ⟨sets, rfl, compared, later⟩))
      · next noRecord =>
        cases later
        refine Or.inr
          (Or.inr (Or.inl ⟨rfl, Datum.hasNoFields_iff.mpr ⟨compared, ?_⟩⟩))
        exact fun sets same => noRecord sets same
    · cases later
      exact Or.inr (Or.inl rfl)

/--
What is refused for neither kind nor value has no fields, or is too large.
-/
theorem category_of_ofDatum {given : Datum} {fault : Fault}
    (refused : ofDatum given = .error fault) :
    fault = .misuse .noFields ∨ fault = .misuse .tooLarge ∨
      fault.category = .type ∨ fault.category = .value := by
  rcases ofDatum_eq_error_cases refused with
    kind | value | ⟨none, -⟩ | ⟨sets, -, -, read⟩
  · exact Or.inr (Or.inr (Or.inl kind))
  · exact Or.inr (Or.inr (Or.inr value))
  · exact Or.inl none
  · exact Or.inr (category_of_readLevels read)

theorem ofDatum_eq_noFields_iff {given : Datum} :
    ofDatum given = .error (.misuse .noFields) ↔ given.HasNoFields := by
  constructor
  · intro refused
    rcases ofDatum_eq_error_cases refused with
      kind | value | ⟨-, noFields⟩ | ⟨sets, -, -, read⟩
    · cases kind
    · cases value
    · exact noFields
    · rcases category_of_readLevels read with large | kind | value
      · cases large
      · cases kind
      · cases value
  · intro noFields
    rcases Datum.hasNoFields_iff.mp noFields with ⟨compared, noRecord⟩
    unfold ofDatum
    rw [compared]
    cases given with
    | record sets => exact absurd rfl (noRecord sets)
    | _ => rfl

/-- A document overflows only if it is a record of sets of levels. -/
theorem ofDatum_eq_tooLarge_iff {given : Datum} :
    ofDatum given = .error (.misuse .tooLarge) ↔
      ∃ sets, given = .record sets ∧
        (∀ set ∈ sets, ∃ level : Level, set.1 = Text.ofString level.key) ∧
        Overflows sets := by
  constructor
  · intro refused
    rcases ofDatum_eq_error_cases refused with
      kind | value | ⟨impossible, -⟩ | ⟨sets, rfl, compared, read⟩
    · cases kind
    · cases value
    · cases impossible
    · refine ⟨sets, rfl, fun set member => ?_,
        readLevels_eq_tooLarge_iff.mp read⟩
      rcases Datum.strangers_record_eq_nil_iff.mp compared set member with
        ⟨level, -, same⟩
      exact ⟨level, same⟩
  · rintro ⟨sets, rfl, known, overflows⟩
    rw [ofDatum_of_known known]
    exact readLevels_eq_tooLarge_iff.mpr overflows

end Settings

end SoundGrid

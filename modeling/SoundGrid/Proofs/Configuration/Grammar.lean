import SoundGrid.Proofs.Configuration.RoundTrip
import SoundGrid.Proofs.Settings.Grammar

/-!
# The grammar of configurations

Which data are configurations, and which configuration they are.  The checks of
the parts are spread over several readers, and each of them only looks at what
the ones before it let through; the grammar says the same of all parts at once.
Whatever is not in the grammar is refused.
-/

namespace SoundGrid

/-- A number whose value is an integer, whichever of the two kinds it is of. -/
def Number.HasValue (number : Number) (integer : ℤ) : Prop :=
  number.rank? = some ((integer : ℝ) : EReal)

theorem Number.same_int_iff {number : Number} {integer : ℤ} :
    number.same (.int integer) = true ↔ number.HasValue integer := by
  rw [same, compare?_eq, HasValue, beq_iff_eq]
  change compareRanks number.rank? (some ((integer : ℝ) : EReal)) = some .eq ↔ _
  cases number.rank? with
  | none => simp
  | some rank => simp

namespace Connectivity

theorem exists_ofNumber?_iff {number : Number} :
    (∃ connectivity, ofNumber? number = some connectivity) ↔
      number.HasValue 4 ∨ number.HasValue 8 := by
  rw [← Option.isSome_iff_exists, ← Number.same_int_iff, ← Number.same_int_iff,
    ofNumber?]
  cases number.same (.int 4) <;> cases number.same (.int 8) <;> decide

theorem exists_numberOf_iff {given : Datum} {number : Number} :
    (∃ connectivity, numberOf given = .ok (number, connectivity)) ↔
      given.number? = some number ∧
      (number.HasValue 4 ∨ number.HasValue 8) := by
  rw [← exists_ofNumber?_iff]
  constructor
  · rintro ⟨connectivity, read⟩
    rw [numberOf] at read
    split at read
    · cases read
    · next asked found =>
      split at read
      · next chosen =>
        cases read
        exact ⟨found, connectivity, chosen⟩
      · cases read
  · rintro ⟨found, connectivity, chosen⟩
    refine ⟨connectivity, ?_⟩
    simp only [numberOf, found, chosen]

end Connectivity

namespace Configuration

/--
The records that are configurations: no other names, a level, a number of
neighbours and settings, each of which has its standard where it is left out.
-/
structure Grammar (parts : List (Text × Datum)) : Prop where
  names : ∀ part ∈ parts, ∃ name ∈ names, part.1 = Text.ofString name
  level : ∃ level, Level.ofDatum (partOr "level" (.int 0) parts) = .ok level
  connectivity :
    ∃ number, (partOr "connectivity" (.int 4) parts).number? = some number ∧
    (number.HasValue 4 ∨ number.HasValue 8)
  settings : ∃ sets, partOr "params" (.record []) parts = .record sets ∧
    Settings.Grammar sets

/--
The configuration that a record states: the level that is asked for, the number
of neighbours as it is given, and for every parameter the value that is given
for it, converted, or else its standard value.
-/
structure States (parts : List (Text × Datum))
    (configuration : Configuration) : Prop where
  level :
    Level.ofDatum (partOr "level" (.int 0) parts) = .ok configuration.level
  connectivity : (partOr "connectivity" (.int 4) parts).number? =
    some configuration.connectivity
  settings : ∃ sets, partOr "params" (.record []) parts = .record sets ∧
    ∀ parameter, Settings.States sets parameter
      (configuration.settings.get parameter)

theorem ofDatum_eq_ok_iff {given : Datum} {configuration : Configuration} :
    ofDatum given = .ok configuration ↔
      ∃ parts, given = .record parts ∧ Grammar parts ∧
        States parts configuration := by
  constructor
  · intro accepted
    rcases bind_eq_ok_iff.mp accepted with ⟨parts, split, later⟩
    rcases bind_eq_ok_iff.mp later with
      ⟨⟨number, connectivity⟩, connected, later⟩
    rcases bind_eq_ok_iff.mp later with ⟨settings, set, later⟩
    rcases bind_eq_ok_iff.mp later with ⟨level, levelled, same⟩
    cases same
    rcases partsOf_eq_ok_iff.mp split with ⟨rfl, known⟩
    rcases Settings.ofDatum_eq_ok_iff.mp (settingsOf_eq_ok_iff.mp set) with
      ⟨sets, record, grammar, states⟩
    have number := Connectivity.exists_numberOf_iff.mp ⟨connectivity, connected⟩
    exact ⟨parts, rfl,
      ⟨known, ⟨level, levelled⟩, ⟨_, number⟩, ⟨sets, record, grammar⟩⟩,
      ⟨levelled, number.1, ⟨sets, record, states⟩⟩⟩
  · rintro ⟨parts, rfl, grammar, states⟩
    rcases grammar.connectivity with ⟨number, found, value⟩
    rcases grammar.settings with ⟨sets, record, inGrammar⟩
    rcases states.settings with ⟨statedSets, statedRecord, stated⟩
    rw [record] at statedRecord
    cases statedRecord
    have sameNumber := states.connectivity
    rw [found] at sameNumber
    cases sameNumber
    rcases Connectivity.exists_numberOf_iff.mpr ⟨found, value⟩ with
      ⟨connectivity, connected⟩
    have set := Settings.ofDatum_eq_ok_iff.mpr ⟨sets, record, inGrammar, stated⟩
    refine bind_eq_ok_iff.mpr
      ⟨parts, partsOf_eq_ok_iff.mpr ⟨rfl, grammar.names⟩, ?_⟩
    refine bind_eq_ok_iff.mpr ⟨_, connected, ?_⟩
    refine bind_eq_ok_iff.mpr ⟨_, settingsOf_eq_ok_iff.mpr set, ?_⟩
    exact bind_eq_ok_iff.mpr ⟨_, states.level, rfl⟩

theorem Grammar.exists_configuration {parts : List (Text × Datum)}
    (grammar : Grammar parts) :
    ∃ configuration, States parts configuration := by
  rcases grammar.level with ⟨level, levelled⟩
  rcases grammar.connectivity with ⟨number, found, -⟩
  rcases grammar.settings with ⟨sets, record, inGrammar⟩
  rcases inGrammar.exists_settings with ⟨settings, stated⟩
  exact ⟨⟨level, number, settings⟩, levelled, found, sets, record, stated⟩

/--
Exactly the data in the grammar are accepted, as the configuration that they
state, and all others are refused.
-/
theorem accepted_iff_grammar (given : Datum) :
    ((∃ configuration, ofDatum given = .ok configuration) ↔
        ∃ parts, given = .record parts ∧ Grammar parts) ∧
      (∀ configuration, ofDatum given = .ok configuration ↔
        ∃ parts, given = .record parts ∧ Grammar parts ∧
          States parts configuration) ∧
      ((∃ fault, ofDatum given = .error fault) ↔
        ¬ ∃ parts, given = .record parts ∧ Grammar parts) := by
  have accepted : (∃ configuration, ofDatum given = .ok configuration) ↔
      ∃ parts, given = .record parts ∧ Grammar parts := by
    constructor
    · rintro ⟨configuration, read⟩
      rcases ofDatum_eq_ok_iff.mp read with ⟨parts, record, grammar, -⟩
      exact ⟨parts, record, grammar⟩
    · rintro ⟨parts, record, grammar⟩
      rcases grammar.exists_configuration with ⟨configuration, states⟩
      exact ⟨configuration,
        ofDatum_eq_ok_iff.mpr ⟨parts, record, grammar, states⟩⟩
  refine ⟨accepted, fun configuration => ofDatum_eq_ok_iff, ?_⟩
  rw [← accepted]
  cases ofDatum given with
  | ok configuration => simp
  | error fault => simp

end Configuration

end SoundGrid

import SoundGrid.Proofs.Configuration.Refusal
import SoundGrid.Proofs.Datum.Record
import SoundGrid.Proofs.Settings.RoundTrip

/-!
# Configurations written out and read back

A configuration that was accepted is written as a document that is accepted
again, and as the same configuration: the level by its number, the connectivity
as the number that was given, and every parameter.  The text of this document is
read back as well when the numbers in it are, each on its own.
-/

namespace SoundGrid

theorem Datum.number?_ofNumber (number : Number) :
    (ofNumber number).number? = some number := by
  cases number <;> rfl

theorem Connectivity.numberOf_ofNumber {given : Datum} {number : Number}
    {connectivity : Connectivity}
    (read : numberOf given = .ok (number, connectivity)) :
    numberOf (.ofNumber number) = .ok (number, connectivity) := by
  rw [numberOf] at read
  split at read
  · cases read
  · next asked same =>
    split at read
    · next found =>
      cases read
      simp only [numberOf, Datum.number?_ofNumber, found]
    · cases read

theorem Level.ofDatum_number (level : Level) :
    ofDatum (.int level.number) = .ok level := by
  cases level <;> rfl

namespace Configuration

/-- A configuration that can be asked for. -/
structure Valid (configuration : Configuration) : Prop where
  connected : ∃ connectivity,
    Connectivity.numberOf (.ofNumber configuration.connectivity) =
    .ok (configuration.connectivity, connectivity)
  settings : configuration.settings.Valid

variable {configuration : Configuration}

theorem settingsOf_eq_ok_iff {given : Datum} {settings : Settings Float} :
    settingsOf given = .ok settings ↔
      Settings.ofDatum given = .ok settings := by
  rw [settingsOf]
  split
  · next read => rw [read]
  · next read =>
    rw [read]
    split <;> simp

theorem valid_of_ofDatum {given : Datum}
    (accepted : ofDatum given = .ok configuration) :
    configuration.Valid := by
  rcases bind_eq_ok_iff.mp accepted with ⟨parts, -, later⟩
  rcases bind_eq_ok_iff.mp later with ⟨⟨number, connectivity⟩, connected, later⟩
  rcases bind_eq_ok_iff.mp later with ⟨settings, set, later⟩
  rcases bind_eq_ok_iff.mp later with ⟨level, -, same⟩
  cases same
  exact ⟨⟨connectivity, Connectivity.numberOf_ofNumber connected⟩,
    Settings.valid_of_ofDatum (settingsOf_eq_ok_iff.mp set)⟩

/-- The parts of a configuration that is written out. -/
def parts (configuration : Configuration) : List (Text × Datum) :=
  [("level", .int configuration.level.number),
    ("connectivity", .ofNumber configuration.connectivity),
    ("params", configuration.settings.toDatum)]

theorem ofDatum_toDatum (valid : configuration.Valid) :
    ofDatum configuration.toDatum = .ok configuration := by
  rcases valid.connected with ⟨connectivity, connected⟩
  have split : partsOf configuration.toDatum = .ok configuration.parts := rfl
  rw [ofDatum, split]
  refine bind_eq_ok_iff.mpr ⟨_, rfl, ?_⟩
  refine bind_eq_ok_iff.mpr ⟨_, connected, ?_⟩
  refine bind_eq_ok_iff.mpr
    ⟨_, settingsOf_eq_ok_iff.mpr (Settings.ofDatum_toDatum valid.settings), ?_⟩
  exact bind_eq_ok_iff.mpr ⟨_, Level.ofDatum_number _, rfl⟩

end Configuration

/-! ## The text of a configuration -/

open Document (KeepsNumber ReadsBack readsBack_map)

namespace Settings

/-- The numbers that the parameters of a level are written as. -/
def numbers (settings : Settings Float) (level : Level) : List Number :=
  level.parameters.map fun parameter =>
    parameter.toNumber (settings.get parameter)

variable {settings : Settings Float}

theorem readsBack_levelDatum {level : Level}
    (kept : ∀ number ∈ settings.numbers level, KeepsNumber number)
    (spacing : Document.Spacing) (depth : Nat) :
    ReadsBack (depth + 1)
      (Document.write spacing (settings.levelDatum level)).toList
      (settings.levelDatum level) := by
  apply readsBack_map
  · cases level <;> (intro impossible; cases impossible)
  · cases level <;> decide
  · intro parameter _
    cases parameter <;> decide
  · intro parameter among
    exact (kept _ (List.mem_map_of_mem among)).readsBack spacing.inside depth

theorem readsBack_toDatum
    (kept : ∀ level, ∀ number ∈ settings.numbers level, KeepsNumber number)
    (spacing : Document.Spacing) (depth : Nat) :
    ReadsBack (depth + 2) (Document.write spacing settings.toDatum).toList
      settings.toDatum := by
  apply readsBack_map
  · intro impossible
    cases impossible
  · decide
  · intro level _
    cases level <;> decide
  · intro level _
    exact readsBack_levelDatum (kept level) spacing.inside depth

end Settings

namespace Configuration

/-- The numbers that a configuration is written with. -/
def numbers (configuration : Configuration) : List Number :=
  .int configuration.level.number :: configuration.connectivity ::
    Level.all.flatMap configuration.settings.numbers

variable {configuration : Configuration}

theorem read_toText
    (kept : ∀ number ∈ configuration.numbers, KeepsNumber number) :
    Document.read configuration.toText = .ok configuration.toDatum := by
  have inSettings (level : Level) :
      ∀ number ∈ configuration.settings.numbers level,
      KeepsNumber number := by
    intro number member
    have among : number ∈ Level.all.flatMap configuration.settings.numbers :=
      List.mem_flatMap.mpr ⟨level, level.mem_all, member⟩
    exact kept number (List.mem_cons_of_mem _ (List.mem_cons_of_mem _ among))
  apply Document.read_write_record
  · intro impossible
    cases impossible
  · change ([("level" : Text), "connectivity", "params"]).Nodup
    decide
  · intro field member
    simp only [List.mem_cons, List.not_mem_nil, or_false] at member
    rcases member with rfl | rfl | rfl
    · exact ⟨Document.isPlainName_ofString (by decide),
        (kept _ List.mem_cons_self).readsBack _ _⟩
    · exact ⟨Document.isPlainName_ofString (by decide),
        (kept _ (List.mem_cons_of_mem _ List.mem_cons_self)).readsBack _ _⟩
    · exact ⟨Document.isPlainName_ofString (by decide),
        Settings.readsBack_toDatum inSettings _ _⟩

/--
A configuration that was accepted is accepted again when it is written out, and
its file is when the numbers in it are kept; what is read is the configuration.
-/
theorem accepted_again {given : Datum}
    (accepted : ofDatum given = .ok configuration) :
    ofDatum configuration.toDatum = .ok configuration ∧
      ((∀ number ∈ configuration.numbers, KeepsNumber number) →
        ofText configuration.toText = .ok configuration) := by
  have again := ofDatum_toDatum (valid_of_ofDatum accepted)
  refine ⟨again, fun kept => ?_⟩
  exact bind_eq_ok_iff.mpr ⟨_, parse_eq_ok_iff.mpr (read_toText kept), again⟩

/-- A document that names the level and gives the connectivity as a double. -/
def spelledOut : Datum :=
  .record [("level", .text "Rules"), ("connectivity", .double 8.0),
    ("params", .record Settings.spelledOut)]

theorem ofDatum_spelledOut :
    ofDatum spelledOut =
      .ok ⟨.rules, .double 8.0, Settings.spelledOutSettings⟩ := by
  have connected :
      Connectivity.numberOf (.double 8.0) = .ok (.double 8.0, .diagonal) :=
    eq_ok_of_toOption (by decide +kernel)
  have levelled : Level.ofDatum (.text "Rules") = .ok .rules :=
    eq_ok_of_toOption (by decide +kernel)
  refine bind_eq_ok_iff.mpr ⟨_, rfl, ?_⟩
  refine bind_eq_ok_iff.mpr ⟨_, connected, ?_⟩
  refine bind_eq_ok_iff.mpr
    ⟨_, settingsOf_eq_ok_iff.mpr Settings.ofDatum_spelledOut, ?_⟩
  exact bind_eq_ok_iff.mpr ⟨_, levelled, rfl⟩

/-- All numbers of this configuration are kept, also a negative zero. -/
theorem accepted_again_spelledOut :
    ∃ configuration : Configuration, ofDatum spelledOut = .ok configuration ∧
      configuration.settings.rules.rippleSpeed = 3 ∧
      ofDatum configuration.toDatum = .ok configuration ∧
      ofText configuration.toText = .ok configuration := by
  have again := accepted_again ofDatum_spelledOut
  exact ⟨_, ofDatum_spelledOut, rfl, again.1, again.2 (by decide +kernel)⟩

end Configuration

end SoundGrid

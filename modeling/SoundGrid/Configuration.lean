import SoundGrid.Grid.Neighbours
import SoundGrid.Settings.Document

/-!
# Configurations

What a configuration file decides: the level, the connectivity and the
settings.  A file may leave out any of them, and what it leaves out has its
standard value; a name that does not exist is refused.  Written out, a
configuration names everything.
-/

namespace SoundGrid

/-- The level, the connectivity as it was given, and the settings. -/
structure Configuration where
  level : Level
  connectivity : Number
  settings : Settings Float

namespace Configuration

/-- The configuration that an empty file stands for. -/
def standard : Configuration :=
  ⟨.direct, .int 4, Settings.standard⟩

/-- The names of the parts. -/
def names : List String := ["level", "connectivity", "params"]

/-- The fields of a document that names no other parts. -/
def partsOf : Datum → Except Fault (List (Text × Datum))
  | .record fields =>
      let unknown := (fields.map Prod.fst).filter fun name =>
        !names.any fun known => (known : Text) == name
      if unknown.isEmpty then .ok fields
      else .error (.rejected (.unknownConfigKeys
        (unknown.mergeSort fun first second => !second.before first)))
  | _ => .error (.rejected .notARecord)

/-- The settings of a document; data of the wrong kind is refused as invalid. -/
def settingsOf (given : Datum) : Except Fault (Settings Float) :=
  match Settings.ofDatum given with
  | .ok settings => .ok settings
  | .error fault =>
      if fault.category = .type then
        .error (.rejected (.invalidParameters fault.text))
      else .error fault

/-- Reads a configuration from a document. -/
def ofDatum (given : Datum) : Except Fault Configuration := do
  let parts ← partsOf given
  let part (name : String) (otherwise : Datum) :=
    (Datum.lookup? name parts).getD otherwise
  let (connectivity, _) ← Connectivity.numberOf (part "connectivity" (.int 4))
  let settings ← settingsOf (part "params" (.record []))
  let level ← Level.ofDatum (part "level" (.int 0))
  pure ⟨level, connectivity, settings⟩

/-- A configuration as a document. -/
def toDatum (configuration : Configuration) : Datum :=
  .record
    [("level", .int configuration.level.number),
      ("connectivity", .ofNumber configuration.connectivity),
      ("params", configuration.settings.toDatum)]

/-- The text of a document as a datum. -/
def parse (text : String) : Except Fault Datum :=
  match Document.read text with
  | .ok datum => .ok datum
  | .error .malformed => .error (.misuse .malformedDocument)
  | .error .tooDeep => .error (.misuse .deepDocument)
  | .error (.integerTooLong digits) => .error (.misuse (.integerTooLong digits))

/-- Reads a configuration from the text of a file. -/
def ofText (text : String) : Except Fault Configuration := do
  ofDatum (← parse text)

/-- Reads a configuration from the bytes of a file. -/
def ofBytes (bytes : List Nat) : Except Fault Configuration :=
  match Text.Utf8.decode bytes with
  | .ok text => ofText text
  | .error defect => .error (.misuse (.malformedBytes defect))

/-- The text of the file for a configuration. -/
def toText (configuration : Configuration) : String :=
  Document.write (.indented 0) configuration.toDatum

end Configuration

end SoundGrid

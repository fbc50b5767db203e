import SoundGrid.Settings.Accept

/-!
# Settings as documents

A document of settings is a record with one record per level, and in it the
parameters that differ from the standard.  Names that do not exist are
refused, and so is anything that is not a record.
-/

namespace SoundGrid

namespace Datum

/--
The items that a datum is made of, each of which can be a member of a set.
-/
def members : Datum → Except Fault (List Datum)
  | record fields => .ok (fields.map fun (key, _) => text key)
  | text given => .ok (given.split.map text)
  | list items =>
      match items.find? fun item => !item.isAtomic with
      | some item => .error (.misuse (.unhashable item))
      | none => .ok items
  | given => .error (.misuse (.notIterable given))

/-- Keeps the first of several items that match. -/
def distinct : List Datum → List Datum
  | [] => []
  | item :: rest => item :: (distinct rest).filter fun other =>
      !matching item other

/--
Whether a list can be put in order: all texts, all numbers, or one item at most.
-/
def isSortable (items : List Datum) : Bool :=
  let allTexts := items.all fun item =>
    match item with
    | text _ => true
    | _ => false
  let allNumbers := items.all fun item => item.number?.isSome
  allTexts || allNumbers || items.length ≤ 1

/-- The items in ascending order. -/
def sort (items : List Datum) : Except Fault (List Datum) :=
  if isSortable items then
    .ok (items.mergeSort fun first second => before? second first != some true)
  else
    .error (.misuse .operands)

/-- The items that are none of the given names, in ascending order. -/
def strangers (given : Datum) (names : List String) :
    Except Fault (List Datum) := do
  let items ← given.members
  sort (distinct (items.filter fun item => !names.any fun name =>
    same (text name) item))

end Datum

namespace Settings

/-- Puts given values into the settings, parameter by parameter. -/
def fill (given : List (Text × Datum)) :
    List Parameter → Settings Float → Except Fault (Settings Float)
  | [], settings => .ok settings
  | parameter :: rest, settings =>
      match Datum.lookup? parameter.name given with
      | none => fill given rest settings
      | some value =>
          match parameter.accept value with
          | .error fault => .error fault
          | .ok accepted => fill given rest (settings.put parameter accepted)

/-- The parameters of a level that are checked before the flip window. -/
def beforeWindow (level : Level) : List Parameter :=
  level.parameters.filter fun parameter =>
    parameter ≠ .rippleSpeed ∧ parameter ≠ .decayFloor

/-- The parameters of a level that are checked after the flip window. -/
def afterWindow (level : Level) : List Parameter :=
  level.parameters.filter fun parameter =>
    ¬(parameter ≠ .rippleSpeed ∧ parameter ≠ .decayFloor)

/-- The name under which a parameter set is known to callers. -/
def setName : Level → String
  | .direct => "pulsegrid.core.params.DirectParams"
  | .opacity => "pulsegrid.core.params.OpacityParams"
  | .smoothed => "pulsegrid.core.params.SmoothedParams"
  | .probabilistic => "pulsegrid.core.params.ProbabilisticParams"
  | .entropy => "pulsegrid.core.params.EntropyParams"
  | .rules => "pulsegrid.core.params.RuleParams"
  | .neighborhood => "pulsegrid.core.params.NeighborhoodParams"

/-- Puts the values of a checked record into the set of a level. -/
def fillLevel (settings : Settings Float) (level : Level)
    (given : List (Text × Datum)) : Except Fault (Settings Float) := do
  let first ← fill given (beforeWindow level) settings
  let window ← first.checkWindow
  fill given (afterWindow level) window

/--
The standard settings with given values in the set of a level, and no other
names.
-/
def construct (level : Level) (given : List (Text × Datum)) :
    Except Fault (Settings Float) :=
  if given.all fun (name, _) => (name.string?.bind level.parameter?).isSome then
    standard.fillLevel level given
  else
    .error (.misuse .unexpectedField)

/-- Reads the set of a level from a datum; null leaves the set as it is. -/
def readLevel (settings : Settings Float) (level : Level) (given : Datum) :
    Except Fault (Settings Float) :=
  match given with
  | .null => .ok settings
  | _ => do
      let unknown ← given.strangers (level.parameters.map Parameter.name)
      if unknown.isEmpty then
        match given with
        | .record fields => settings.fillLevel level fields
        | _ => throw (.misuse (.notAMapping (setName level) given))
      else
        throw (.rejected (.unknownFields level.key unknown))

/-- Reads the sets of the given levels from a record. -/
def readLevels (fields : List (Text × Datum)) :
    List Level → Settings Float → Except Fault (Settings Float)
  | [], settings => .ok settings
  | level :: rest, settings =>
      match settings.readLevel level
          ((Datum.lookup? level.key fields).getD .null) with
      | .error fault => .error fault
      | .ok next => readLevels fields rest next

/-- Reads settings from a document. -/
def ofDatum (given : Datum) : Except Fault (Settings Float) := do
  let unknown ← given.strangers (Level.all.map Level.key)
  if unknown.isEmpty then
    match given with
    | .record fields => readLevels fields Level.all standard
    | _ => throw (.misuse .noFields)
  else
    throw (.rejected (.unknownSets unknown))

/-- The parameters of a level as a record. -/
def levelDatum (settings : Settings Float) (level : Level) : Datum :=
  .record (level.parameters.map fun parameter =>
    (parameter.name, .ofNumber (parameter.toNumber (settings.get parameter))))

/-- Settings as a document, with every parameter written out. -/
def toDatum (settings : Settings Float) : Datum :=
  .record (Level.all.map fun level => (level.key, settings.levelDatum level))

end Settings

end SoundGrid

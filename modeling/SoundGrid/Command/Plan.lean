import SoundGrid.Command.Request
import SoundGrid.Configuration
import SoundGrid.Grid.Control
import SoundGrid.Location.Tree
import SoundGrid.Picture
import SoundGrid.Random.Twister
import SoundGrid.Recording.Wave
import SoundGrid.Rule.Standard

/-!
# Plans

What a request comes to in its surroundings, before any sound is loaded.  The
sound and the configuration have to be there, the configuration has to be
acceptable, and so do the options.  They are looked at in this order, and the
first one that is not acceptable is named in the refusal.

Whether the pictures can be saved is looked at when there is a first one.
-/

namespace SoundGrid

/-- What a session finds when it begins. -/
structure Surroundings where
  find : Location → Except Fault (Option Entry)
  /-- The seed that is used when none is asked for. -/
  entropy : Int
  /-- Whether the output is seen on a terminal. -/
  terminal : Bool
  /-- Reads the recording in the bytes of a sound. -/
  decode : List UInt8 → Except Fault Recording := Wave.load

/-- Why a request is not carried out. -/
inductive Refusal where
  | noAudio (place : Location)
  | noConfig (place : Location)
  | badConfig (place : Location) (cause : Fault)
  | badOption (cause : Fault)
  | noCells

namespace Refusal

/-- The wording of a refusal. -/
def message : Refusal → String
  | noAudio place => s!"Audio file not found: {place}"
  | noConfig place => s!"Config file not found: {place}"
  | badConfig place cause => s!"Invalid config {place}: {cause.text}"
  | badOption cause => cause.text
  | noCells => "Frame is smaller than one cell"

end Refusal

/-- Why there is no plan: a refusal, or a fault that nobody foresaw. -/
inductive Obstacle where
  | refused (refusal : Refusal)
  | failed (fault : Fault)

/-- What is to be done. -/
structure Plan where
  audio : Location
  /-- The folder for the pictures. -/
  output : Wish Location
  level : Level
  configuration : Configuration
  look : Look
  rows : Int
  columns : Int
  seed : Wish Int
  shuffleRules : Bool
  /-- Frames per second. -/
  rate : Int
  /-- Samples handed to the grid per frame. -/
  window : Int
  /-- The greatest length of the output, in seconds. -/
  maxDuration : Option Float
  verbose : Bool

namespace Plan

/--
Turns faults that lie in a value into refusals; other faults stay what they are.
-/
def orRefuse {Result : Type} (refusal : Fault → Refusal) :
    Except Fault Result → Except Obstacle Result
  | .ok result => .ok result
  | .error fault =>
      if fault.category.isValue then .error (.refused (refusal fault))
      else .error (.failed fault)

/-- The bytes at a location. -/
def readFile : Entry → Except Fault (List UInt8)
  | .file bytes => .ok bytes
  | .folder => .error (.misuse .unreadable)

/-- A result of which every fault is unforeseen. -/
def orFail {Result : Type} : Except Fault Result → Except Obstacle Result
  | .ok result => .ok result
  | .error fault => .error (.failed fault)

/-- What stands at the location of the sound. -/
def audioEntry (surroundings : Surroundings)
    (place : Location) : Except Obstacle Entry := do
  match ← orFail (surroundings.find place) with
  | some entry => pure entry
  | none => throw (.refused (.noAudio place))

/-- The configuration that is asked for, or else the standard one. -/
def configurationAt (surroundings : Surroundings) :
    Option (Wish Location) → Except Obstacle Configuration
  | none | some .dropped => pure .standard
  | some (.value place) => do
      match ← orFail (surroundings.find place) with
      | none => throw (.refused (.noConfig place))
      | some entry =>
          orRefuse (.badConfig place) do
            Configuration.ofBytes ((← readFile entry).map UInt8.toNat)

/-- Refuses rates, windows and lengths that cannot be played. -/
def checkTiming (wishes : Wishes) : Except Fault Unit := do
  let rate ← wishes.rate.get
  if rate ≤ 0 then
    throw (.rejected (.optionNotPositive "--fps" rate))
  let window ← wishes.window.get
  if window ≤ 0 then
    throw (.rejected (.optionNotPositive "--window" window))
  match wishes.maxDuration with
  | some duration =>
      let duration ← duration.get
      if duration < 0.0 then
        throw (.rejected (.optionNegative "--max-duration" duration))
  | none => pure ()

/-- The level that is asked for, or else the one of the configuration. -/
def levelOf (wishes : Wishes)
    (configuration : Configuration) : Except Fault Level :=
  match wishes.level with
  | some given =>
      Level.ofDatum (given.toDatum fun (level : String) => .text level)
  | none => .ok configuration.level

/-- The level and the look, when the options are acceptable. -/
def checkOptions (wishes : Wishes) (configuration : Configuration) :
    Except Fault (Level × Look) := do
  checkTiming wishes
  let level ← levelOf wishes configuration
  let look ← Look.ofFields [("cell_size", wishes.cellSize.toDatum .int)]
  pure (level, look)

/-- The rows and columns that fit the frame, of which there has to be one. -/
def cellsOf (wishes : Wishes) : Except Obstacle (Int × Int) := do
  let (rows, columns) ← orFail do
    viewportCells (← wishes.width.get) (← wishes.height.get)
      (← wishes.cellSize.get)
  if rows = 0 ∨ columns = 0 then throw (.refused .noCells)
  pure (rows, columns)

/--
The folder that is asked for, or else one beside the sound that is named after
it.
-/
def outputOf (request : Request) : Except Fault (Wish Location) :=
  match request.wishes.output with
  | some place => .ok place
  | none =>
      match request.audio.name? with
      | some name =>
          .ok (.value (request.audio.sibling (Location.stem name ++ "_frames")))
      | none => .error (.misuse .nameless)

/-- The plan for a request, and what stands at the location of the sound. -/
def make (surroundings : Surroundings) (request : Request) :
    Except Obstacle (Plan × Entry) := do
  let wishes := request.wishes
  let entry ← audioEntry surroundings request.audio
  let configuration ← configurationAt surroundings wishes.config
  let (level, look) ← orRefuse .badOption (checkOptions wishes configuration)
  let (rows, columns) ← cellsOf wishes
  let output ← orFail (outputOf request)
  let plan : Plan :=
    { audio := request.audio
      output, level, configuration, look, rows, columns
      seed := wishes.seed.getD (.value surroundings.entropy)
      shuffleRules := wishes.shuffleRules
      rate := ← orFail wishes.rate.get
      window := ← orFail wishes.window.get
      maxDuration := ← orFail (wishes.maxDuration.mapM Wish.get)
      verbose := wishes.verbose }
  pure (plan, entry)

/-- The new grid of a plan, with its rules in their order at the beginning. -/
def newGrid (plan : Plan) :
    Except Fault (Grid Float Sample Random.Twister) := do
  let seed ← plan.seed.get
  Grid.make (.int plan.rows) (.int plan.columns) (.int plan.level.number)
    (.ofNumber plan.configuration.connectivity) plan.configuration.settings
    Rule.Standard.rules (Random.Twister.ofSeed seed)

/-- The grid that is played, its rules shuffled if this is asked for. -/
def firstGrid (plan : Plan) (grid : Grid Float Sample Random.Twister) :
    Grid Float Sample Random.Twister :=
  if plan.shuffleRules then grid.shuffleRules else grid

/-- The number of frames in the greatest length, if there is one. -/
def frameLimit (plan : Plan) : Except Fault (Option Int) :=
  match plan.maxDuration with
  | none => .ok none
  | some duration => do
      let frames ← Number.mul (.double duration) (.int plan.rate)
      (Number.whole frames).map some

/-- The name of the picture of a frame: its index with at least five digits. -/
def frameName (index : Nat) : String :=
  let digits := toString index
  "frame_" ++ "".pushn '0' (5 - digits.length) ++ digits ++ ".png"

/--
What keeps a folder from being made on the way to the pictures, or at its end.
-/
def folderFault? (surroundings : Surroundings)
    (folder place : Location) : Option Fault :=
  if (place.name?.map Location.isLongName).getD false then
    some (.misuse .longName)
  else
    match surroundings.find place with
    | .error fault => some fault
    | .ok (some (.file _)) =>
        some (.misuse (if place = folder then .occupied else .fileOnTheWay))
    | .ok _ => none

/-- Refuses a folder that cannot be made. -/
def checkFolder (surroundings : Surroundings)
    (folder : Location) : Except Fault Unit :=
  if !folder.isWritable then .error (.misuse .unwritable)
  else if folder.isLong then .error (.misuse .longName)
  else
    match folder.way.findSome? (folderFault? surroundings folder) with
    | some fault => .error fault
    | none => .ok ()

/-- Refuses a location for a picture where there is a folder. -/
def checkPlace (surroundings : Surroundings)
    (place : Location) : Except Fault Unit := do
  match ← surroundings.find place with
  | some .folder => throw (.misuse .unreadable)
  | _ => pure ()

/-- The location of the picture of a frame, if it can be saved there. -/
def framePlace (plan : Plan) (surroundings : Surroundings) (index : Nat) :
    Except Fault Location := do
  let folder ← plan.output.get
  checkFolder surroundings folder
  let place := folder.child (frameName index)
  checkPlace surroundings place
  pure place

/-- The folder for the pictures as messages show it. -/
def outputText (plan : Plan) : String :=
  match plan.output with
  | .value place => place.toText
  | .dropped => "[]"

end Plan

end SoundGrid

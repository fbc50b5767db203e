import SoundGrid.Command.Session
import SoundGrid.Picture.Png

/-!
# The program

Carries out a command line: looks up the files that it names, and acts on the
events of its session as they come.
-/

namespace SoundGrid.Program

/-- What is shown when the command line is not understood. -/
def usage : String :=
  "usage: pulsegrid [-h] [-o OUTPUT] [-l LEVEL] [--config CONFIG] " ++
  "[--seed SEED]\n" ++
  "                 [--shuffle-rules] [--width WIDTH] [--height HEIGHT]\n" ++
  "                 [--cell-size CELL_SIZE] [-f FPS] [--window WINDOW]\n" ++
  "                 [--max-duration MAX_DURATION] [-v]\n" ++
  "                 audio\n"

/-- What is shown when help is asked for. -/
def help : String :=
  usage ++ "\n" ++
  "Audio-reactive cell grid rendered to a PNG frame sequence\n\n" ++
  "positional arguments:\n" ++
  "  audio                 Input audio file (wav)\n\n" ++
  "options:\n" ++
  "  -h, --help            show this help message and exit\n" ++
  "  -o OUTPUT, --output OUTPUT\n" ++
  "                        Output directory (default: <audio>_frames/)\n" ++
  "  -l LEVEL, --level LEVEL\n" ++
  "                        Mapping level 0-6 or name (overrides config)\n" ++
  "  --config CONFIG       JSON engine config file\n" ++
  "  --seed SEED           Random seed\n" ++
  "  --shuffle-rules       Randomize the rule order before rendering\n" ++
  "  --width WIDTH         Frame width (default: 480)\n" ++
  "  --height HEIGHT       Frame height (default: 270)\n" ++
  "  --cell-size CELL_SIZE\n" ++
  "                        Cell size in pixels (default: 24)\n" ++
  "  -f FPS, --fps FPS     Frames per second (default: 30)\n" ++
  "  --window WINDOW       Samples per frame handed to the grid " ++
  "(default: 1024)\n" ++
  "  --max-duration MAX_DURATION\n" ++
  "                        Limit output to N seconds\n" ++
  "  -v, --verbose         Debug logging\n"

/-- What stands at a location. -/
def lookUp (place : Location) : IO (Option Entry) := do
  try
    let bytes ← IO.FS.readBinFile place.toText
    pure (some (.file bytes.toList))
  catch
    | .noFileOrDirectory .. => pure none
    | _ => pure (some .folder)

/-- The locations on the way to the pictures of a request. -/
def wayOf (request : Request) : List Location :=
  match Plan.outputOf request with
  | .ok (.value folder) => folder.way
  | _ => []

/-- The locations that a request has to do with, apart from the pictures. -/
def placesOf (words : List String) : List Location :=
  match Request.ofLine words with
  | .ok request =>
      let configs :=
        match request.wishes.config with
        | some (.value place) => [place]
        | _ => []
      request.audio :: configs ++ wayOf request
  | .error _ => []

/-- What the program finds when it begins. -/
def surroundings (words : List String) : IO Surroundings := do
  let entries ← (placesOf words).mapM
    fun place => do pure (place, ← lookUp place)
  let noise ← IO.getRandomBytes 8
  let terminal ← (← IO.getStdout).isTty
  pure
    { find := fun place => .ok (entries.lookup place).join
      entropy := Wave.ofBytes noise.toList
      terminal }

/--
Acts on an event; `begun` is the time at which the frames were begun, in
milliseconds.
-/
def act (begun : Nat) : Event → IO Unit
  | .print text => do
      let output ← IO.getStdout
      output.putStr text
      output.flush
  | .log line => IO.eprintln line
  | .save place picture => do
      IO.FS.createDirAll place.parent.toText
      IO.FS.writeBinFile place.toText
        (ByteArray.mk (Picture.Png.encode picture).toArray)
  | .timing frames => do
      let milliseconds := (← IO.monoMsNow) - begun
      IO.println
        (Session.timingLine frames (Number.Double.ofNat milliseconds / 1000.0))

/-- Plays a session through; the fuel is the number of its stages. -/
def play (begun : Nat) : Nat → Stage → IO Ending
  | _, .ended ending => pure ending
  | 0, .playing _ => pure .done
  | fuel + 1, .playing session => do
      let (events, stage) := session.advance
      events.forM (act begun)
      play begun fuel stage

/-- Says what has to be said at the end, and answers with the exit status. -/
def close (ending : Ending) : IO UInt32 := do
  match ending with
  | .helped => IO.print help
  | .misused _ => IO.eprint usage
  | _ => pure ()
  match ending.message? with
  | some text => IO.eprintln text
  | none => pure ()
  pure (UInt32.ofNat ending.status)

/-- Carries out a command line. -/
def run (words : List String) : IO UInt32 := do
  let (events, stage) := Session.opening (← surroundings words) words
  let begun ← IO.monoMsNow
  events.forM (act begun)
  close (← play begun (Session.stagesOf stage) stage)

end SoundGrid.Program

/-- The program. -/
def main (words : List String) : IO UInt32 :=
  SoundGrid.Program.run words

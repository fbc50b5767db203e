import SoundGrid.Command.Plan
import SoundGrid.Playback
import SoundGrid.Progress

/-!
# Sessions

Carrying out a command line.  What a session does is a list of events: texts
that are printed, and pictures that are saved.  A session proceeds in stages,
so that events can be acted on as they come: the opening loads the sound and
sets up the grid, and every further stage makes one picture.  `transcript`
puts the events of all stages together.
-/

namespace SoundGrid

/-- What can be seen of a session. -/
inductive Event where
  | print (text : String)
  /-- A line for those who asked for all details. -/
  | log (line : String)
  | save (place : Location) (picture : Picture)
  /-- The time since the frames were begun is printed, for so many frames. -/
  | timing (frames : Nat)

/-- How a session ends. -/
inductive Ending where
  | done
  | helped
  | misused (complaint : Complaint)
  | refused (refusal : Refusal)
  | failed (fault : Fault)

namespace Ending

/-- The exit status for an ending. -/
def status : Ending → Nat
  | done | helped => 0
  | misused _ => 2
  | refused _ | failed _ => 1

/-- What is written on the error output. -/
def message? : Ending → Option String
  | done | helped => none
  | misused complaint => some s!"pulsegrid: error: {complaint.message}"
  | refused refusal => some s!"Error: {refusal.message}"
  | failed fault => some fault.text

end Ending

/-- A session in which frames are being made. -/
structure Session where
  surroundings : Surroundings
  plan : Plan
  recording : Recording
  playback : Playback
  run : Run Random.Twister

/-- How far a session is. -/
inductive Stage where
  | playing (session : Session)
  | ended (ending : Ending)

/-- Some events and the stage they lead to. -/
abbrev Passage := List Event × Stage

namespace Session

/-- A printed line. -/
def line (text : String) : Event :=
  .print (text ++ "\n")

/-- The lines that describe the sound. -/
def soundLine (recording : Recording) (duration : Float) : String :=
  s!"  Duration: {Number.fixed 1 duration}s @ {recording.rate.display} Hz"

/-- The line that describes what is played. -/
def planLine (plan : Plan) : String :=
  s!"\nRendering {plan.rows}x{plan.columns} grid, level {plan.level.number} " ++
    s!"({plan.level.label}) @ {plan.rate}fps"

/-- The line about the time that so many frames took. -/
def timingLine (frames : Nat) (seconds : Float) : String :=
  let divisor := if seconds < 0.01 then 0.01 else seconds
  let perSecond := Number.Double.ofNat frames / divisor
  s!"  Render took {Number.fixed 1 seconds}s ({Number.fixed 1 perSecond} fps)"

/-- The details about a new grid. -/
def gridLog (grid : Grid Float Sample Random.Twister) : String :=
  s!"DEBUG pulsegrid.core.grid: Resized grid to {grid.rows}x{grid.columns} " ++
    s!"({grid.cells.size} cells)"

/-- The details about shuffled rules. -/
def rulesLog (grid : Grid Float Sample Random.Twister) : String :=
  "DEBUG pulsegrid.core.rules: Rules randomized: " ++
    Rejection.nameList (grid.rules.map Rule.label)

/-- The details about the grid of a plan, for those who asked for them. -/
def details (plan : Plan)
    (grid : Grid Float Sample Random.Twister) : List Event :=
  let shuffled :=
    if plan.shuffleRules then [.log (rulesLog (plan.firstGrid grid))] else []
  if plan.verbose then .log (gridLog grid) :: shuffled else []

/-- The recording that stands at the location of the sound. -/
def load (surroundings : Surroundings) (entry : Entry) :
    Except Fault Recording := do
  surroundings.decode (← Plan.readFile entry)

/-- Events that end in a fault. -/
def failing (events : List Event) (fault : Fault) : Passage :=
  (events, .ended (.failed fault))

/--
Begins to play a recording on the grid of a plan, up to a number of frames.
-/
def begin (surroundings : Surroundings) (plan : Plan) (recording : Recording)
    (grid : Grid Float Sample Random.Twister) (limit : Option Int) :
    Except Fault Session := do
  let playback ← Playback.make .standard (.int plan.rate) plan.window
  let run ← Run.start playback recording (plan.firstGrid grid) limit
  pure ⟨surroundings, plan, recording, playback, run⟩

/-- Loads the sound of a plan, sets up its grid, and describes both. -/
def setUp (surroundings : Surroundings) (plan : Plan)
    (entry : Entry) : Passage :=
  let loading := [line s!"Loading audio: {plan.audio}"]
  match load surroundings entry with
  | .error fault => failing loading fault
  | .ok recording =>
      match recording.duration with
      | .error fault => failing loading fault
      | .ok duration =>
          let loaded := loading ++ [line (soundLine recording duration)]
          match plan.newGrid with
          | .error fault => failing loaded fault
          | .ok grid =>
              let detailed := loaded ++ details plan grid
              match plan.frameLimit with
              | .error fault => failing detailed fault
              | .ok limit =>
                  let described := detailed ++ [line (planLine plan)]
                  match begin surroundings plan recording grid limit with
                  | .error fault => failing described fault
                  | .ok session => (described, .playing session)

/-- The events up to the first frame, or up to an early end. -/
def opening (surroundings : Surroundings) (words : List String) : Passage :=
  match Request.ofLine words with
  | .error .helped => ([], .ended .helped)
  | .error (.misused complaint) => ([], .ended (.misused complaint))
  | .ok request =>
      match Plan.make surroundings request with
      | .error (.refused refusal) => ([], .ended (.refused refusal))
      | .error (.failed fault) => ([], .ended (.failed fault))
      | .ok (plan, entry) => setUp surroundings plan entry

/-- The report on the frame that was made last, if there is one. -/
def report (session : Session) : List Event :=
  if session.run.taken = 0 then []
  else
    [.print (Progress.text session.surroundings.terminal session.run.taken
      session.run.total)]

/-- The lines at the end of a session. -/
def closing (session : Session) : List Event :=
  [line s!"\nDone! {session.run.taken} frames", .timing session.run.taken,
    line s!"  Output: {session.plan.outputText}"]

/--
The picture of the frame that a run has come to, with the location for it.
-/
def picture (session : Session) (run : Run Random.Twister) (mark : FrameMark) :
    Except Fault (Location × Picture) := do
  let picture ← session.plan.look.render run.grid (.double mark.time)
  let place ← session.plan.framePlace session.surroundings session.run.taken
  pure (place, picture)

/-- Makes the next picture, or comes to an end. -/
def advance (session : Session) : Passage :=
  match session.run.next session.playback session.recording with
  | (.error fault, _) => failing session.report fault
  | (.ok none, _) => (session.report ++ session.closing, .ended .done)
  | (.ok (some mark), run) =>
      match session.picture run mark with
      | .error fault => failing session.report fault
      | .ok (place, picture) =>
          (session.report ++ [.save place picture],
            .playing { session with run })

/-- The number of stages after which a session has ended. -/
def stagesLeft (session : Session) : Nat :=
  (session.run.total - session.run.taken).toNat + 1

/-- The events of up to so many stages. -/
def finish : Nat → Stage → Passage
  | 0, stage => ([], stage)
  | _ + 1, .ended ending => ([], .ended ending)
  | fuel + 1, .playing session =>
      let (events, stage) := session.advance
      let (later, last) := finish fuel stage
      (events ++ later, last)

/-- The number of stages that are needed from a stage on. -/
def stagesOf : Stage → Nat
  | .playing session => session.stagesLeft
  | .ended _ => 0

/-- All events of a session, and the stage in which it stops. -/
def transcript (surroundings : Surroundings) (words : List String) : Passage :=
  let (events, stage) := opening surroundings words
  let (later, last) := finish (stagesOf stage) stage
  (events ++ later, last)

end Session

end SoundGrid

import SoundGrid.Playback
import SoundGrid.Proofs.Grid.SwitchOff

/-!
# Grids under playback

Recordings may drive a grid in many ways: in single frames, in runs of which all
frames are asked for or only some, one after the other or in turn, and the grid
may be controlled in between.  Whatever is done, a frame is handed out when the
grid has completed it, stamped with the time that it has within its recording.

`Shows` says which frames are handed out while a grid becomes another one.  What
a completed frame, a refused one and a control preserve is proved along it.
-/

namespace SoundGrid

open Grid (Operation Snapshot Tracked)

/-- A frame that was handed out, with the grid as it then was. -/
structure Shown (Source : Type) where
  mark : FrameMark
  grid : Grid Float Sample Source

/-- The time and the cells of a frame. -/
def Shown.snapshot {Source : Type} (shown : Shown Source) : Snapshot Sample :=
  ⟨.double shown.mark.time, shown.grid.cells⟩

variable {Source : Type}

namespace Run

@[simp]
theorem grid_report (run : Run Source) : run.report.grid = run.grid := by
  rw [report]
  split <;> rfl

@[simp]
theorem taken_report (run : Run Source) : run.report.taken = run.taken := by
  rw [report]
  split <;> rfl

@[simp]
theorem total_report (run : Run Source) : run.report.total = run.total := by
  rw [report]
  split <;> rfl

end Run

variable [RandomSource Source]

/-! ## Frames handed out -/

/-- Which frames are handed out while a grid becomes another one. -/
inductive Shows (grid : Grid Float Sample Source) :
    List (Shown Source) → Grid Float Sample Source → Prop where
  | start : Shows grid [] grid
  | frame {frames : List (Shown Source)}
    {between next : Grid Float Sample Source}
    {signal : Array Sample} {mark : FrameMark}
    (before : Shows grid frames between)
    (completed : between.advance signal (.double mark.time) =
      (.ok (), next)) :
      Shows grid (frames ++ [⟨mark, next⟩]) next
  | refused {frames : List (Shown Source)} {between : Grid Float Sample Source}
      (before : Shows grid frames between) {signal : Array Sample}
      {now : Number} {fault : Fault} {next : Grid Float Sample Source}
      (broken : between.advance signal now = (.error fault, next)) :
      Shows grid frames next
  | control {frames : List (Shown Source)} {between : Grid Float Sample Source}
      (before : Shows grid frames between) {operation : Operation Sample}
      (isControl : operation.IsControl) :
      Shows grid frames (between.perform operation).2

namespace Shows

variable {grid between last : Grid Float Sample Source}
  {frames others : List (Shown Source)}

/--
What is handed out first and what is handed out then is handed out in all.
-/
theorem trans (first : Shows grid frames between)
    (second : Shows between others last) :
    Shows grid (frames ++ others) last := by
  induction second with
  | start =>
      rw [List.append_nil]
      exact first
  | frame before completed ih =>
      rw [← List.append_assoc]
      exact ih.frame completed
  | refused before broken ih => exact ih.refused broken
  | control before isControl ih => exact ih.control isControl

/--
The frames up to one of them are handed out while the grid becomes that of this
frame.
-/
theorem upTo {earlier later : List (Shown Source)} {shown : Shown Source}
    (shows : Shows grid frames last)
    (split : frames = earlier ++ shown :: later) :
    Shows grid (earlier ++ [shown]) shown.grid := by
  induction shows generalizing later with
  | start => simp at split
  | @frame frames between next signal mark before completed ih =>
      rcases List.eq_nil_or_concat later with rfl | ⟨others, final, rfl⟩
      · rcases List.append_inj' split rfl with ⟨rfl, same⟩
        cases same
        exact before.frame completed
      · have joined : frames ++ [⟨mark, next⟩] =
            (earlier ++ shown :: others) ++ [final] := by
          rw [split]
          simp
        exact ih (List.append_inj' joined rfl).1
  | refused before broken ih => exact ih split
  | control before isControl ih => exact ih split

/-- The cells keep records of the frames that are handed out. -/
theorem tracked (shows : Shows grid frames last)
    {snapshots : List (Snapshot Sample)} (start : Tracked grid snapshots) :
    Tracked last (snapshots ++ frames.map Shown.snapshot) := by
  induction shows with
  | start => simpa using start
  | @frame frames between next signal mark before completed ih =>
      have advanced := ih.advance signal (.double mark.time)
      simp only [Grid.framesAfter, completed] at advanced
      rw [List.map_append, ← List.append_assoc]
      exact advanced
  | @refused frames between before signal now fault next broken ih =>
      have advanced := ih.advance signal now
      simpa only [Grid.framesAfter, broken] using advanced
  | @control frames between before operation isControl ih =>
      have controlled := ih.control isControl
      rwa [Grid.framesAfter_of_isControl isControl] at controlled

/-- The grid stays laid out. -/
theorem laidOut (shows : Shows grid frames last)
    (start : grid.LaidOut) : last.LaidOut := by
  induction shows with
  | start => exact start
  | @frame frames between next signal mark before completed ih =>
      have advanced := ih.advance signal (.double mark.time)
      rwa [completed] at advanced
  | @refused frames between before signal now fault next broken ih =>
      have advanced := ih.advance signal now
      rwa [broken] at advanced
  | control before isControl ih =>
      exact ih.of_sameCells (Grid.sameCells_perform _ isControl)

end Shows

/-! ## What can be done -/

namespace Playback

/--
What can be done with a grid that recordings drive, short of giving it new
cells.
-/
inductive Act where
  /-- A single frame of a recording. -/
  | step (playback : Playback) (recording : Recording) (frame : Number)
  /-- A run, of which so many frames are asked for. -/
  | run (playback : Playback) (recording : Recording) (limit : Option Int)
    (asked : Nat)
  /-- A change of the level, the settings, the rules or the source. -/
  | control (operation : Operation Sample) (isControl : operation.IsControl)

/--
The frames that are handed out when something is done, and the grid that it
leaves.
-/
def perform (grid : Grid Float Sample Source) :
    Act → List (Shown Source) × Grid Float Sample Source
  | .step playback recording frame =>
      match playback.step recording grid frame with
      | (.error _, next) => ([], next)
      | (.ok mark, next) => ([⟨mark, next⟩], next)
  | .run playback recording limit asked =>
      match Run.start playback recording grid limit with
      | .error _ => ([], grid)
      | .ok run =>
          let (outcome, taken) := run.takeUpTo playback recording asked
          (taken.map fun frame => ⟨frame.mark, frame.run.grid⟩, outcome.2.grid)
  | .control operation _ => ([], (grid.perform operation).2)

/-- The frames that are handed out when one thing is done after the other. -/
def performAll (grid : Grid Float Sample Source) :
    List Act → List (Shown Source) × Grid Float Sample Source
  | [] => ([], grid)
  | act :: rest =>
      let (frames, between) := perform grid act
      let (others, last) := performAll between rest
      (frames ++ others, last)

/--
The ways in which a step can end: without a signal, with a refused frame, or
with a frame.
-/
theorem step_cases (playback : Playback) (recording : Recording)
    (grid : Grid Float Sample Source) (frame : Number) :
    (∃ fault, playback.signal recording frame = .error fault ∧
        playback.step recording grid frame = (.error fault, grid)) ∨
      (∃ signal time fault next, playback.signal recording frame =
        .ok (signal, time) ∧
        grid.advance signal (.double time) = (.error fault, next) ∧
          playback.step recording grid frame = (.error fault, next)) ∨
      ∃ signal time next, playback.signal recording frame = .ok (signal, time) ∧
        grid.advance signal (.double time) = (.ok (), next) ∧
          playback.step recording grid frame = (.ok ⟨frame, time⟩, next) := by
  rw [step]
  cases prepared : playback.signal recording frame with
  | error fault => exact Or.inl ⟨fault, rfl, rfl⟩
  | ok signalled =>
      rcases signalled with ⟨signal, time⟩
      right
      dsimp only
      rcases outcome : grid.advance signal (.double time) with ⟨answer, next⟩
      cases answer with
      | error fault =>
          exact Or.inl ⟨signal, time, fault, next, rfl, outcome, rfl⟩
      | ok done => exact Or.inr ⟨signal, time, next, rfl, outcome, rfl⟩

/-- A step hands out its frame if it has one. -/
theorem shows_step (playback : Playback) (recording : Recording)
    (grid : Grid Float Sample Source) (frame : Number) :
    Shows grid (perform grid (.step playback recording frame)).1
      (perform grid (.step playback recording frame)).2 := by
  rcases playback.step_cases recording grid frame with
    ⟨fault, -, outcome⟩ | ⟨signal, time, fault, next, -, broken, outcome⟩ |
    ⟨signal, time, next, -, completed, outcome⟩
  · simp only [perform, outcome]
    exact .start
  · simp only [perform, outcome]
    exact .refused .start broken
  · simp only [perform, outcome]
    exact .frame .start completed

end Playback

namespace Run

/--
A run that is asked has no frame left, or it takes the step of the next one.
-/
theorem next_cases (playback : Playback) (recording : Recording)
    (run : Run Source) :
    (run.total ≤ run.taken ∧
      run.next playback recording = (.ok none, run.report)) ∨
      (run.taken < run.total ∧
        ((∃ fault grid,
            playback.step recording run.grid (.int run.taken) =
              (.error fault, grid) ∧
              run.next playback recording =
                (.error fault, { run.report with grid })) ∨
          ∃ mark grid, playback.step recording run.grid (.int run.taken) =
            (.ok mark, grid) ∧
            run.next playback recording =
              (.ok (some mark),
                { run.report with grid, taken := run.taken + 1 }))) := by
  rw [next]
  simp only [grid_report, taken_report, total_report]
  by_cases left : (run.taken : Int) < run.total
  · right
    refine ⟨left, ?_⟩
    rw [if_pos left]
    rcases outcome : playback.step recording run.grid (.int run.taken) with
      ⟨answer, grid⟩
    cases answer with
    | error fault => exact Or.inl ⟨fault, grid, rfl, rfl⟩
    | ok mark => exact Or.inr ⟨mark, grid, rfl, rfl⟩
  · left
    exact ⟨not_lt.mp left, if_neg left⟩

/-- A frame that was taken, with the grid as it then was. -/
def Taken.shown (taken : Taken Source) : Shown Source :=
  ⟨taken.mark, taken.run.grid⟩

/-- A run hands out the frames that are taken of it. -/
theorem shows_takeUpTo (playback : Playback) (recording : Recording)
    (asked : Nat) (run : Run Source) :
    Shows run.grid ((run.takeUpTo playback recording asked).2.map Taken.shown)
      (run.takeUpTo playback recording asked).1.2.grid := by
  induction asked generalizing run with
  | zero => exact .start
  | succ asked ih =>
      have step := playback.shows_step recording run.grid (.int run.taken)
      rcases run.next_cases playback recording with
        ⟨-, outcome⟩ | ⟨-,
          ⟨fault, grid, stepped, outcome⟩ | ⟨mark, grid, stepped, outcome⟩⟩
      · simp only [takeUpTo, outcome, grid_report]
        exact .start
      · simp only [Playback.perform, stepped] at step
        simp only [takeUpTo, outcome]
        exact step
      · simp only [Playback.perform, stepped] at step
        simp only [takeUpTo, outcome]
        exact step.trans (ih { run.report with grid, taken := run.taken + 1 })

end Run

namespace Playback

/-- What is done with a grid hands out its frames. -/
theorem shows_perform (grid : Grid Float Sample Source) (act : Act) :
    Shows grid (perform grid act).1 (perform grid act).2 := by
  cases act with
  | step playback recording frame =>
      exact playback.shows_step recording grid frame
  | run playback recording limit asked =>
      cases started : Run.start playback recording grid limit with
      | error fault =>
          simp only [perform, started]
          exact .start
      | ok run =>
          have sameGrid : run.grid = grid := by
            rcases bind_eq_ok_iff.mp started with ⟨count, -, made⟩
            cases made
            rfl
          simp only [perform, started]
          have shows := run.shows_takeUpTo playback recording asked
          rw [sameGrid] at shows
          exact shows
  | control operation isControl =>
      exact .control .start isControl

/-- What is done one after the other hands out the frames of all. -/
theorem shows_performAll (grid : Grid Float Sample Source) (acts : List Act) :
    Shows grid (performAll grid acts).1 (performAll grid acts).2 := by
  induction acts generalizing grid with
  | nil => exact .start
  | cons act rest ih => exact (shows_perform grid act).trans (ih _)

end Playback

end SoundGrid

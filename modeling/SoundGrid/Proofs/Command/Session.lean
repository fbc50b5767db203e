import SoundGrid.Command.Session
import SoundGrid.Proofs.Command.Plan

/-!
# Sessions that make frames

A session that has begun makes one frame after the other. A frame is made when
it `Fits`: its window and its picture have not too many bytes, and the picture
can be saved. With the first frame that does not fit the session fails, and
otherwise it is done when all frames are made. `Films` says what is saved until
then.
-/

namespace SoundGrid

/-- The picture that is saved in an event, with its location. -/
def Event.saved? : Event → Option (Location × Picture)
  | .save place picture => some (place, picture)
  | _ => none

/-- The pictures that are saved in a passage, in order. -/
def Passage.saves (passage : Passage) : List (Location × Picture) :=
  passage.1.filterMap Event.saved?

namespace Plan

variable {surroundings : Surroundings} {plan : Plan} {recording : Recording}

/-! ## Frames -/

/--
Rate, window, rows and columns are positive, and the look is the standard one
with some cells.
-/
structure IsSound (plan : Plan) : Prop where
  rate : 0 < plan.rate
  window : 0 < plan.window
  rows : 0 < plan.rows
  columns : 0 < plan.columns
  sized : ∃ size, 0 < size ∧ plan.look = .sized size

/-- The playback of a plan, with the standard loudness. -/
def playback (plan : Plan) : Playback :=
  ⟨.standard, .int plan.rate, plan.window⟩

/-- Nothing keeps the frame with an index from being made. -/
structure Fits (surroundings : Surroundings) (plan : Plan)
    (index : ℕ) : Prop where
  window : plan.window * 4 < countLimit
  picture : ∀ size, plan.look = .sized size →
    plan.rows * size * (plan.columns * size) * 12 < countLimit
  place : ∃ place, plan.framePlace surroundings index = .ok place

/--
The frame with an index leads from one grid to another, which is then drawn. The
grid is advanced once, with the levelled window of the frame, at the time that
the frame has, and the picture is drawn at this time.
-/
def Draws (plan : Plan) (recording : Recording) (index : ℕ)
    (before after : Grid Float Sample Random.Twister)
    (picture : Picture) : Prop :=
  ∃ signal time, plan.playback.signal recording (.int index) =
      .ok (signal, time) ∧
    Number.div (.int index) (.int plan.rate) = .ok time ∧
    before.advance signal (.double time) = (.ok (), after) ∧
    plan.look.render after (.double time) = .ok picture

/-- What is saved when frame after frame is made from an index and a grid on. -/
inductive Films (surroundings : Surroundings) (plan : Plan)
    (recording : Recording) :
    ℕ → Grid Float Sample Random.Twister → List (Location × Picture) →
    Prop where
  | nothing {index : ℕ} {grid : Grid Float Sample Random.Twister} :
      Films surroundings plan recording index grid []
  | frame {index : ℕ} {before after : Grid Float Sample Random.Twister}
    {picture : Picture} {place : Location}
    {saves : List (Location × Picture)}
    (draws : plan.Draws recording index before after picture)
    (placed : plan.framePlace surroundings index = .ok place)
    (rest : Films surroundings plan recording (index + 1) after saves) :
      Films surroundings plan recording index before ((place, picture) :: saves)

/-- The pictures one by one, with the grids that are drawn in them. -/
theorem Films.exists_grids {index : ℕ} {grid : Grid Float Sample Random.Twister}
    {saves : List (Location × Picture)}
    (films : plan.Films surroundings recording index grid saves) :
    ∃ grids : ℕ → Grid Float Sample Random.Twister, grids 0 = grid ∧
      ∀ offset < saves.length, ∃ place picture,
        saves[offset]? = some (place, picture) ∧
        plan.framePlace surroundings (index + offset) = .ok place ∧
        plan.Draws recording (index + offset) (grids offset)
          (grids (offset + 1)) picture := by
  induction films with
  | @nothing index grid =>
      exact ⟨fun _ => grid, rfl, fun _ impossible => nomatch impossible⟩
  | @frame index before after picture place saves draws placed rest ih =>
      rcases ih with ⟨grids, rfl, others⟩
      refine ⟨fun offset => offset.casesOn before grids, rfl, ?_⟩
      intro offset inside
      cases offset with
      | zero => exact ⟨place, picture, rfl, placed, draws⟩
      | succ offset =>
          rcases others offset (Nat.lt_of_succ_lt_succ inside) with
            ⟨otherPlace, otherPicture, found, otherPlaced, otherDraws⟩
          rw [show index + (offset + 1) = index + 1 + offset by omega]
          exact ⟨otherPlace, otherPicture, found, otherPlaced, otherDraws⟩

/--
Of so many frames from an index on, some are made, and these fit. Either they
are all of them and the session is done, or it fails because the next one does
not fit.
-/
def Concludes (surroundings : Surroundings) (plan : Plan) (index left made : ℕ)
    (ending : Ending) :
    Prop :=
  (∀ offset < made, plan.Fits surroundings (index + offset)) ∧
    (ending = .done ∧ made = left ∨
      (∃ fault, ending = .failed fault) ∧ made < left ∧
      ¬ plan.Fits surroundings (index + made))

theorem Concludes.frame {index left made : ℕ} {ending : Ending}
    (fits : plan.Fits surroundings index)
    (rest : plan.Concludes surroundings (index + 1) left made ending) :
    plan.Concludes surroundings index (left + 1) (made + 1) ending := by
  rcases rest with ⟨others, ends⟩
  have shifted (offset : ℕ) :
      index + (offset + 1) = index + 1 + offset := by omega
  refine ⟨?_, ?_⟩
  · intro offset inside
    cases offset with
    | zero => exact fits
    | succ offset =>
        rw [shifted]
        exact others offset (Nat.lt_of_succ_lt_succ inside)
  · rcases ends with ⟨done, all⟩ | ⟨failed, some, unfit⟩
    · exact Or.inl ⟨done, congrArg Nat.succ all⟩
    · rw [shifted]
      exact Or.inr ⟨failed, Nat.succ_lt_succ some, unfit⟩

end Plan

namespace Session

/-! ## Steps -/

/--
A session that has begun: it plays a loaded recording on a grid of its plan.
-/
structure IsPlaying (session : Session) : Prop where
  sound : session.plan.IsSound
  playback : session.playback = session.plan.playback
  loaded : session.recording.IsLoaded
  played : session.run.grid.IsPlayed
  rows : session.run.grid.rows = session.plan.rows
  columns : session.run.grid.columns = session.plan.columns
  counted :
    ∃ count, session.recording.frameCount (.int session.plan.rate) = .ok count ∧
    session.run.total ≤ count

/-- The session after one more frame, with the grid that the frame led to. -/
def after (session : Session)
    (grid : Grid Float Sample Random.Twister) : Session :=
  { session with
    run := { session.run.report with grid, taken := session.run.taken + 1 } }

variable {session : Session}

theorem IsPlaying.after (playing : session.IsPlaying)
    {grid : Grid Float Sample Random.Twister} (played : grid.IsPlayed)
    (rows : grid.rows = session.run.grid.rows)
    (columns : grid.columns = session.run.grid.columns) :
    (session.after grid).IsPlaying where
  sound := playing.sound
  playback := playing.playback
  loaded := playing.loaded
  played := played
  rows := (congrArg Nat.cast rows).trans playing.rows
  columns := (congrArg Nat.cast columns).trans playing.columns
  counted := by
    have same : (session.after grid).run.total = session.run.total :=
      session.run.total_report
    rw [same]
    exact playing.counted

/-- When all frames are made, the session is done. -/
theorem advance_of_all (all : session.run.total ≤ session.run.taken) :
    session.advance = (session.report ++ session.closing, .ended .done) := by
  have none : session.run.next session.playback session.recording =
      (.ok none, session.run.report) := by
    simp only [Run.next, Run.taken_report, Run.total_report]
    rw [if_neg (by omega)]
  rw [advance, none]

/-- A frame without a signal makes a session fail. -/
theorem advance_of_signal_error
    (left : (session.run.taken : ℤ) < session.run.total) {fault : Fault}
    (refused : session.playback.signal session.recording
      (.int session.run.taken) = .error fault) :
      session.advance = failing session.report fault := by
  have broken : session.run.next session.playback session.recording =
      (.error fault, { session.run.report with grid := session.run.grid }) := by
    simp only [Run.next, Run.taken_report, Run.total_report, Run.grid_report,
      Playback.step, refused]
    rw [if_pos left]
  rw [advance, broken]

/-- A frame with which the grid is advanced is drawn. -/
theorem advance_of_completed
    (left : (session.run.taken : ℤ) < session.run.total) {signal : Array Sample}
    {time : Float} {grid : Grid Float Sample Random.Twister}
    (signalled : session.playback.signal session.recording
      (.int session.run.taken) = .ok (signal, time))
    (completed :
      session.run.grid.advance signal (.double time) = (.ok (), grid)) :
    session.advance =
      match session.picture (session.after grid).run
        ⟨.int session.run.taken, time⟩ with
      | .error fault => failing session.report fault
      | .ok (place, picture) =>
          (session.report ++ [.save place picture],
            .playing (session.after grid)) := by
  have made : session.run.next session.playback session.recording =
      (.ok (some ⟨.int session.run.taken, time⟩),
        (session.after grid).run) := by
    simp only [Run.next, Run.taken_report, Run.total_report, Run.grid_report,
      Playback.step, signalled, completed, after]
    rw [if_pos left]
  rw [advance, made]
  rfl

theorem picture_eq_ok_iff {run : Run Random.Twister} {mark : FrameMark}
    {place : Location} {picture : Picture} :
    session.picture run mark = .ok (place, picture) ↔
      session.plan.look.render run.grid (.double mark.time) = .ok picture ∧
        session.plan.framePlace session.surroundings session.run.taken =
          .ok place := by
  simp only [Session.picture, bind_eq_ok_iff]
  constructor
  · rintro ⟨_, rendered, _, placed, ⟨⟩⟩
    exact ⟨rendered, placed⟩
  · rintro ⟨rendered, placed⟩
    exact ⟨picture, rendered, place, placed, rfl⟩

/--
The grid is advanced with every window of not too many bytes; whether it is
drawn is another matter.
-/
theorem IsPlaying.exists_completed (playing : session.IsPlaying)
    (left : (session.run.taken : ℤ) < session.run.total)
    (window : session.plan.window * 4 < countLimit) :
    ∃ signal time grid,
      session.plan.playback.signal session.recording
        (.int session.run.taken) = .ok (signal, time) ∧
      Number.div (.int session.run.taken) (.int session.plan.rate) = .ok time ∧
        session.run.grid.advance signal (.double time) = (.ok (), grid) ∧
        (session.after grid).IsPlaying ∧
        ((∃ picture, session.plan.look.render grid (.double time) =
          .ok picture) ↔
          ∀ size, session.plan.look = .sized size →
            session.plan.rows * size * (session.plan.columns * size) * 12 <
              countLimit) := by
  rcases playing.counted with ⟨count, counted, within⟩
  rcases playing.sound.sized with ⟨size, visible, isLook⟩
  have inside : (session.run.taken : ℤ) < count := left.trans_le within
  have signals : session.plan.playback.rate = .int session.plan.rate := rfl
  rcases Playback.exists_signal playing.loaded rfl signals
    playing.sound.rate playing.sound.window counted inside
    window with ⟨signal, time, signalled, timed, nonempty, floating⟩
  rcases playing.played.exists_advance nonempty floating time with
    ⟨grid, completed, played, rows, columns⟩
  have sameRows : (grid.rows : ℤ) = session.plan.rows :=
    (congrArg Nat.cast rows).trans playing.rows
  have sameColumns : (grid.columns : ℤ) = session.plan.columns :=
    (congrArg Nat.cast columns).trans playing.columns
  have someRows : 0 < grid.rows :=
    Int.natCast_pos.mp (sameRows ▸ playing.sound.rows)
  have someColumns : 0 < grid.columns :=
    Int.natCast_pos.mp (sameColumns ▸ playing.sound.columns)
  have drawn := Look.exists_render_iff visible played someRows someColumns time
  rw [sameRows, sameColumns, ← isLook] at drawn
  refine ⟨signal, time, grid, signalled, timed, completed,
    playing.after played rows columns, drawn.trans ⟨?_, ?_⟩⟩
  · intro fits other same
    rwa [← Look.sized_injective (isLook.symm.trans same)]
  · exact fun fits => fits size isLook

/--
The next frame is made if it fits, and leads to a session that has begun as
well; otherwise the session fails.
-/
theorem IsPlaying.advance_cases (playing : session.IsPlaying)
    (left : (session.run.taken : ℤ) < session.run.total) :
    (session.plan.Fits session.surroundings session.run.taken ∧
      ∃ grid picture place,
        session.plan.Draws session.recording session.run.taken session.run.grid
          grid picture ∧
        session.plan.framePlace session.surroundings session.run.taken =
          .ok place ∧
        session.advance =
          (session.report ++ [.save place picture],
            .playing (session.after grid)) ∧
        (session.after grid).IsPlaying) ∨
      (¬ session.plan.Fits session.surroundings session.run.taken ∧
        ∃ fault, session.advance =
          (session.report, .ended (.failed fault))) := by
  by_cases window : session.plan.window * 4 < countLimit
  · rcases playing.exists_completed left window with
      ⟨signal, time, grid, signalled, timed, completed, next, drawable⟩
    have made :=
      advance_of_completed left (by rw [playing.playback]; exact signalled)
        completed
    cases drawn : session.picture (session.after grid).run
        ⟨.int session.run.taken, time⟩ with
    | error fault =>
        rw [drawn] at made
        refine Or.inr ⟨fun fits => ?_, fault, made⟩
        rcases drawable.mpr fits.picture with ⟨picture, rendered⟩
        rcases fits.place with ⟨place, placed⟩
        have impossible : session.picture (session.after grid).run
            ⟨.int session.run.taken, time⟩ =
            .ok (place, picture) := picture_eq_ok_iff.mpr ⟨rendered, placed⟩
        rw [drawn] at impossible
        cases impossible
    | ok saved =>
        rcases saved with ⟨place, picture⟩
        rw [drawn] at made
        rcases picture_eq_ok_iff.mp drawn with ⟨rendered, placed⟩
        exact Or.inl ⟨⟨window, drawable.mp ⟨picture, rendered⟩, place, placed⟩,
          grid, picture, place, ⟨signal, time, signalled, timed, completed,
            rendered⟩, placed, made, next⟩
  · refine Or.inr ⟨fun fits => window fits.window, ?_⟩
    cases signalled :
        session.playback.signal session.recording (.int session.run.taken) with
    | ok prepared =>
        rw [playing.playback] at signalled
        exact absurd (Playback.fits_of_signal playing.loaded signalled) window
    | error fault => exact ⟨fault, advance_of_signal_error left signalled⟩

/-! ## Runs -/

/-- Nothing is saved while a session reports, or at its end. -/
theorem filterMap_saved?_report (session : Session) :
    session.report.filterMap Event.saved? = [] := by
  rw [report]
  split <;> rfl

theorem finish_of_advance (fuel : ℕ) {events : List Event} {stage : Stage}
    (advanced : session.advance = (events, stage)) :
    finish (fuel + 1) (.playing session) =
      (events ++ (finish fuel stage).1, (finish fuel stage).2) := by
  rw [finish, advanced]

theorem finish_ended (fuel : ℕ) (ending : Ending) :
    finish fuel (.ended ending) = ([], .ended ending) := by
  cases fuel <;> rfl

/--
A session that has begun makes the frames that are left one after the other,
until all of them are made or one does not fit.
-/
theorem IsPlaying.exists_finish (playing : session.IsPlaying) {left : ℕ}
    (isLeft : (session.run.total - session.run.taken).toNat = left) :
    ∃ events ending, finish (left + 1) (.playing session) =
        (events, .ended ending) ∧
      session.plan.Films session.surroundings session.recording
        session.run.taken session.run.grid (events.filterMap Event.saved?) ∧
      session.plan.Concludes session.surroundings session.run.taken left
        (events.filterMap Event.saved?).length ending := by
  induction left generalizing session with
  | zero =>
      have all : session.run.total ≤ session.run.taken := by omega
      have nothing :
          (session.report ++ session.closing).filterMap Event.saved? = [] := by
        rw [List.filterMap_append, filterMap_saved?_report]
        rfl
      refine ⟨session.report ++ session.closing, .done, ?_, ?_, ?_⟩
      · rw [finish_of_advance 0 (advance_of_all all), finish_ended,
          List.append_nil]
      · rw [nothing]
        exact .nothing
      · rw [nothing]
        exact ⟨fun _ impossible => absurd impossible (Nat.not_lt_zero _),
          Or.inl ⟨rfl, rfl⟩⟩
  | succ left ih =>
      have some : (session.run.taken : ℤ) < session.run.total := by omega
      rcases playing.advance_cases some with
        ⟨fits, grid, picture, place, draws, placed, advanced, next⟩ |
        ⟨unfit, fault, advanced⟩
      · have total : (session.after grid).run.total = session.run.total :=
          session.run.total_report
        have taken :
            (session.after grid).run.taken = session.run.taken + 1 := rfl
        have fewer : ((session.after grid).run.total -
              (session.after grid).run.taken).toNat = left := by
          rw [total, taken]
          omega
        rcases ih next fewer with ⟨events, ending, finished, films, concludes⟩
        have saves :
            (session.report ++ [Event.save place picture] ++ events).filterMap
              Event.saved? =
            (place, picture) :: events.filterMap Event.saved? := by
          rw [List.filterMap_append, List.filterMap_append,
            filterMap_saved?_report]
          rfl
        refine ⟨session.report ++ [.save place picture] ++ events, ending,
          ?_, ?_, ?_⟩
        · rw [finish_of_advance (left + 1) advanced, finished]
        · rw [saves]
          exact .frame draws placed films
        · rw [saves, List.length_cons]
          exact concludes.frame fits
      · refine ⟨session.report, .failed fault, ?_, ?_, ?_⟩
        · rw [finish_of_advance (left + 1) advanced, finish_ended,
            List.append_nil]
        · rw [filterMap_saved?_report]
          exact .nothing
        · rw [filterMap_saved?_report]
          exact ⟨fun _ impossible => absurd impossible (Nat.not_lt_zero _),
            Or.inr ⟨⟨fault, rfl⟩, Nat.succ_pos left, unfit⟩⟩

end Session

end SoundGrid

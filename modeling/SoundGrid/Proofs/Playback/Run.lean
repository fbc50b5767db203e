import SoundGrid.Proofs.Playback.Frame
import SoundGrid.Proofs.Recording.Window
import SoundGrid.Random.Twister

/-!
# Runs as steps in a row

A run does what steps of single frames do, beginning with frame zero, each when
it is asked for.  However many frames are asked for, what was handed out and the
grid are those of as many steps, of all frames of the run, or of the frames
before the one that is refused.  A limit therefore only cuts frames off at the
end.

A run reports on a frame when it is asked for the one behind it.  So there is a
report on each frame that was handed out before the last, and one on the last
frame when it is asked for more than there is.
-/

namespace SoundGrid

variable {Source : Type} [RandomSource Source]

/-! ## Steps in a row -/

namespace Playback

/-- The time of a signal is that of its frame. -/
theorem div_of_signal {playback : Playback} {recording : Recording}
    {frame : Number} {signal : Array Sample} {time : Float}
    (signalled : playback.signal recording frame = .ok (signal, time)) :
    frame.div playback.rate = .ok time := by
  rcases bind_eq_ok_iff.mp signalled with ⟨window, -, timed⟩
  rcases bind_eq_ok_iff.mp timed with ⟨own, divided, prepared⟩
  rcases bind_eq_ok_iff.mp prepared with ⟨doubles, -, levelling⟩
  rcases bind_eq_ok_iff.mp levelling with ⟨levelled, -, paired⟩
  cases paired
  exact divided

/--
The frames that a number of steps hand out, beginning with frame zero, and the
grid that they leave.  A step that is refused is the last one.
-/
def steps (playback : Playback) (recording : Recording)
    (grid : Grid Float Sample Source) :
    ℕ → Outcome (Grid Float Sample Source) Unit × List (Shown Source)
  | 0 => ((.ok (), grid), [])
  | count + 1 =>
      match playback.steps recording grid count with
      | ((.error fault, broken), frames) => ((.error fault, broken), frames)
      | ((.ok (), between), frames) =>
          match playback.step recording between (.int count) with
          | (.error fault, broken) => ((.error fault, broken), frames)
          | (.ok mark, next) => ((.ok (), next), frames ++ [⟨mark, next⟩])

variable {playback : Playback} {recording : Recording}
  {grid : Grid Float Sample Source} {count further : ℕ}

/-- The ways in which one step more can end. -/
theorem steps_succ_cases (playback : Playback) (recording : Recording)
    (grid : Grid Float Sample Source) (count : ℕ) :
    (∃ fault, (playback.steps recording grid count).1.1 = .error fault ∧
        playback.steps recording grid (count + 1) =
          playback.steps recording grid count) ∨
      ∃ between frames, playback.steps recording grid count =
        ((.ok (), between), frames) ∧
        ((∃ fault broken, playback.step recording between (.int count) =
          (.error fault, broken) ∧ playback.steps recording grid (count + 1) =
          ((.error fault, broken), frames)) ∨
          ∃ mark next, playback.step recording between (.int count) =
            (.ok mark, next) ∧
            playback.steps recording grid (count + 1) =
              ((.ok (), next), frames ++ [⟨mark, next⟩])) := by
  rw [steps]
  rcases playback.steps recording grid count with ⟨⟨answer, between⟩, frames⟩
  cases answer with
  | error fault => exact Or.inl ⟨fault, rfl, rfl⟩
  | ok done =>
      refine Or.inr ⟨between, frames, rfl, ?_⟩
      dsimp only
      rcases playback.step recording between (.int count) with ⟨answer, next⟩
      cases answer with
      | error fault => exact Or.inl ⟨fault, next, rfl, rfl⟩
      | ok mark => exact Or.inr ⟨mark, next, rfl, rfl⟩

/-- Every step hands out a frame until one is refused. -/
theorem length_steps (playback : Playback) (recording : Recording)
    (grid : Grid Float Sample Source) (count : ℕ) :
    (playback.steps recording grid count).2.length ≤ count ∧
      ((playback.steps recording grid count).2.length = count ↔
        (playback.steps recording grid count).1.1 = .ok ()) := by
  induction count with
  | zero => exact ⟨le_refl 0, iff_of_true rfl rfl⟩
  | succ count ih =>
      rcases playback.steps_succ_cases recording grid count with
        ⟨fault, broken, same⟩ | ⟨between, frames, before,
          ⟨fault, broken, -, after⟩ | ⟨mark, next, -, after⟩⟩
      · rw [same, broken]
        exact ⟨ih.1.trans (Nat.le_succ count),
          iff_of_false (by omega) (fun impossible => nomatch impossible)⟩
      · rw [before] at ih
        rw [after]
        exact ⟨ih.1.trans (Nat.le_succ count),
          iff_of_false (Nat.lt_succ_of_le ih.1).ne
            (fun impossible => nomatch impossible)⟩
      · rw [before] at ih
        have full : frames.length = count := ih.2.mpr rfl
        rw [after, List.length_append, List.length_singleton, full]
        exact ⟨le_refl _, iff_of_true rfl rfl⟩

/-- Fewer steps hand out the first frames of more. -/
theorem steps_eq_take (fewer : count ≤ further) :
    (playback.steps recording grid count).2 =
      (playback.steps recording grid further).2.take count := by
  induction further, fewer using Nat.le_induction with
  | base => exact (List.take_of_length_le
    (playback.length_steps recording grid count).1).symm
  | succ further fewer ih =>
      rcases playback.steps_succ_cases recording grid further with
        ⟨fault, -, same⟩ | ⟨between, frames, before,
          ⟨fault, broken, -, after⟩ | ⟨mark, next, -, after⟩⟩
      · rw [same]
        exact ih
      · rw [before] at ih
        rw [after]
        exact ih
      · have full := (playback.length_steps recording grid further).2
        rw [before] at ih full
        rw [after,
          List.take_append_of_le_length (fewer.trans (full.mpr rfl).ge)]
        exact ih

/-- A refused step is the last one. -/
theorem steps_eq_of_refused {fault : Fault} (fewer : count ≤ further)
    (refused : (playback.steps recording grid count).1.1 = .error fault) :
    playback.steps recording grid further =
      playback.steps recording grid count := by
  induction further, fewer using Nat.le_induction with
  | base => rfl
  | succ further fewer ih =>
      rcases playback.steps_succ_cases recording grid further with
        ⟨-, -, same⟩ | ⟨between, frames, before, -⟩
      · exact same.trans ih
      · rw [← ih, before] at refused
        cases refused

/--
A frame that steps hand out has its own index and time, and the grid of the
steps up to it.
-/
theorem steps_of_getElem? {index : ℕ} {shown : Shown Source}
    (found : (playback.steps recording grid count).2[index]? = some shown) :
    shown.mark.index = .int index ∧
      Number.div (.int index) playback.rate = .ok shown.mark.time ∧
      playback.steps recording grid (index + 1) =
        ((.ok (), shown.grid),
          (playback.steps recording grid count).2.take (index + 1)) := by
  induction count with
  | zero => cases found
  | succ count ih =>
      rcases playback.steps_succ_cases recording grid count with
        ⟨fault, -, same⟩ | ⟨between, frames, before,
          ⟨fault, broken, -, after⟩ | ⟨mark, next, stepped, after⟩⟩
      · rw [same] at found ⊢
        exact ih found
      · rw [before] at ih
        rw [after] at found ⊢
        exact ih found
      · have full : frames.length = count := by
          have length := (playback.length_steps recording grid count).2
          rw [before] at length
          exact length.mpr rfl
        rw [before] at ih
        rw [after] at found
        rcases lt_or_ge index frames.length with inside | last
        · rw [List.getElem?_append_left inside] at found
          rw [after, List.take_append_of_le_length inside]
          exact ih found
        · have isLast : index = count := by
            have within := (List.getElem?_eq_some_iff.mp found).1
            rw [List.length_append, List.length_singleton] at within
            omega
          rw [List.getElem?_append_right last, isLast, full,
            Nat.sub_self] at found
          cases found
          rw [isLast, after, List.take_of_length_le (by simp [full])]
          rcases playback.step_cases recording between (.int count) with
            ⟨fault, -, outcome⟩ | ⟨signal, time, fault, _, -, -, outcome⟩ |
            ⟨signal, time, _, signalled, -, outcome⟩
          · rw [stepped] at outcome
            cases outcome
          · rw [stepped] at outcome
            cases outcome
          · rw [stepped] at outcome
            cases outcome
            exact ⟨rfl, div_of_signal signalled, rfl⟩

/-! ## Steps that are not refused -/

/-- Each frame that is handed out has a signal. -/
theorem exists_signal_of_steps {index : ℕ} (inside : index < count)
    (completed : (playback.steps recording grid count).1.1 = .ok ()) :
    ∃ prepared, playback.signal recording (.int index) = .ok prepared := by
  cases signalled : playback.signal recording (.int index) with
  | ok prepared => exact ⟨prepared, rfl⟩
  | error fault =>
      have refused : ∃ fault, (playback.steps recording grid (index + 1)).1.1 =
          .error fault := by
        rcases playback.steps_succ_cases recording grid index with
          ⟨fault, broken, same⟩ | ⟨between, frames, -,
            ⟨fault, broken, -, after⟩ | ⟨mark, next, stepped, -⟩⟩
        · exact ⟨fault, by rw [same, broken]⟩
        · exact ⟨fault, by rw [after]⟩
        · rw [step, signalled] at stepped
          cases stepped
      rcases refused with ⟨last, isLast⟩
      rw [steps_eq_of_refused inside isLast, isLast] at completed
      cases completed

/--
With the standard rules, frames that have signals of doubles or singles are
handed out.
-/
theorem steps_completed (played : grid.IsPlayed)
    (signals : ∀ index < count, ∃ signal time,
      playback.signal recording (.int index) = .ok (signal, time) ∧
        0 < signal.size ∧ ∀ sample ∈ signal, sample.IsFloating) :
    (playback.steps recording grid count).1.1 = .ok () ∧
      (playback.steps recording grid count).1.2.IsPlayed := by
  induction count with
  | zero => exact ⟨rfl, played⟩
  | succ count ih =>
      have before :=
        ih fun index inside => signals index (Nat.lt_succ_of_lt inside)
      rcases signals count (Nat.lt_succ_self count) with
        ⟨signal, time, signalled, nonempty, floating⟩
      rcases before.2.exists_advance nonempty floating time with
        ⟨next, completed, further, -⟩
      rcases isBefore : playback.steps recording grid count with
        ⟨⟨answer, between⟩, frames⟩
      rw [isBefore] at before completed
      cases before.1
      have after : playback.steps recording grid (count + 1) =
          ((.ok (), next), frames ++ [⟨⟨.int count, time⟩, next⟩]) := by
        rw [steps, isBefore]
        dsimp only
        rw [step, signalled]
        dsimp only
        rw [completed]
      rw [after]
      exact ⟨rfl, further⟩

/-- So are those of a loaded recording, unless windows have too many bytes. -/
theorem steps_completed_iff (loaded : recording.IsLoaded)
    (standard : playback.loudness = .standard) {rate total : ℤ}
    (isRate : playback.rate = .int rate) (ratePositive : 0 < rate)
    (windowPositive : 0 < playback.window) (played : grid.IsPlayed)
    (counted : recording.frameCount playback.rate = .ok total)
    (within : count ≤ total.toNat) :
    (playback.steps recording grid count).1.1 = .ok () ↔
      count = 0 ∨ playback.window * 4 < countLimit := by
  rw [isRate] at counted
  constructor
  · intro completed
    rcases Nat.eq_zero_or_pos count with none | some
    · exact Or.inl none
    · rcases exists_signal_of_steps some completed with ⟨prepared, signalled⟩
      exact Or.inr (fits_of_signal loaded signalled)
  · rintro (none | fits)
    · rw [none]
      rfl
    · refine (steps_completed played fun index inside => ?_).1
      rcases exists_signal loaded standard isRate ratePositive windowPositive
          counted (show (index : ℤ) < total by omega) fits with
        ⟨signal, time, signalled, -, nonempty, floating⟩
      exact ⟨signal, time, signalled, nonempty, floating⟩

end Playback

namespace Run

/-! ## Runs -/

/-- The reports on the first frames of so many. -/
def reportsOn (total : ℤ) (done : ℕ) : List (ℕ × ℤ) :=
  (List.range done).map fun index => (index + 1, total)

/--
The frames of a run, given how many cover the recording and to how many it is
limited.
-/
def extent (count : ℤ) : Option ℤ → ℕ
  | none => count.toNat
  | some limit => (min count limit).toNat

variable {playback : Playback} {recording : Recording}
  {grid : Grid Float Sample Source} {frames : List (Shown Source)}
  {run : Run Source}

/--
A run that has taken steps from a grid: its grid is the one that they leave, and
it has reported on their frames except the last.
-/
structure HasTaken (playback : Playback) (recording : Recording)
    (grid : Grid Float Sample Source) (frames : List (Shown Source))
    (run : Run Source) : Prop where
  steps : playback.steps recording grid run.taken = ((.ok (), run.grid), frames)
  within : run.taken ≤ run.total.toNat
  reports : run.reports = reportsOn run.total (run.taken - 1)

/-- When it is asked, it has reported on the last one as well. -/
theorem HasTaken.reports_report
    (taken : run.HasTaken playback recording grid frames) :
    run.report.reports = reportsOn run.total run.taken := by
  rw [report]
  split
  · next none =>
    rw [taken.reports, none]
  · next some =>
    rcases Nat.exists_eq_add_one_of_ne_zero some with ⟨before, isTaken⟩
    simp only [taken.reports, isTaken, reportsOn, Nat.add_sub_cancel,
      List.range_succ, List.map_append, List.map_cons, List.map_nil]

/--
One ask ends the run, or does one step more, with a report on the last frame
either way.
-/
theorem HasTaken.next_cases
    (taken : run.HasTaken playback recording grid frames) :
    (run.taken = run.total.toNat ∧
      ∃ rest, run.next playback recording = (.ok none, rest) ∧
        rest.grid = run.grid ∧ rest.reports = reportsOn run.total run.taken) ∨
      (run.taken < run.total.toNat ∧ ∃ fault rest,
        run.next playback recording = (.error fault, rest) ∧
          playback.steps recording grid (run.taken + 1) =
            ((.error fault, rest.grid), frames) ∧
            rest.reports = reportsOn run.total run.taken) ∨
      ∃ mark rest, run.next playback recording = (.ok (some mark), rest) ∧
        rest.HasTaken playback recording grid (frames ++ [⟨mark, rest.grid⟩]) ∧
          rest.taken = run.taken + 1 ∧ rest.total = run.total := by
  have within := taken.within
  rcases run.next_cases playback recording with
    ⟨ended, outcome⟩ | ⟨left,
      ⟨fault, broken, stepped, outcome⟩ | ⟨mark, next, stepped, outcome⟩⟩
  · exact Or.inl ⟨by omega, run.report, outcome, run.grid_report,
      taken.reports_report⟩
  · refine Or.inr
      (Or.inl ⟨by omega, fault, _, outcome, ?_, taken.reports_report⟩)
    rw [Playback.steps, taken.steps]
    dsimp only
    rw [stepped]
  · refine Or.inr (Or.inr ⟨mark, _, outcome, ?_, rfl, run.total_report⟩)
    constructor
    · rw [Playback.steps, taken.steps]
      dsimp only
      rw [stepped]
    · rw [total_report]
      dsimp only
      omega
    · rw [total_report]
      exact taken.reports_report

/--
However many frames it is asked for, it goes on as the steps do, up to its own
end. Every ask but the first reports on the frame before it.
-/
theorem HasTaken.takeUpTo (taken : run.HasTaken playback recording grid frames)
    (asked : ℕ) :
    let result := run.takeUpTo playback recording asked
    playback.steps recording grid (min (run.taken + asked) run.total.toNat) =
        ((result.1.1, result.1.2.grid), frames ++ result.2.map Taken.shown) ∧
      result.1.2.reports =
        reportsOn run.total
          (min (run.taken + asked - 1) (run.taken + result.2.length)) ∧
      ∀ index frame, result.2[index]? = some frame →
        frame.run.reports = reportsOn run.total (run.taken + index) := by
  induction asked generalizing run frames with
  | zero =>
      have last :
          min (run.taken + 0 - 1) (run.taken + 0) = run.taken - 1 := by omega
      rw [Run.takeUpTo]
      refine ⟨?_, ?_, fun _ frame found =>
        absurd found.symm (Option.some_ne_none frame)⟩
      · rw [Nat.add_zero, min_eq_left taken.within, List.map_nil,
          List.append_nil]
        exact taken.steps
      · rw [List.length_nil, last]
        exact taken.reports
  | succ asked ih =>
      have last :
          min (run.taken + (asked + 1) - 1) (run.taken + 0) = run.taken := by
        omega
      rw [Run.takeUpTo]
      rcases taken.next_cases with
        ⟨all, rest, outcome, sameGrid, reports⟩ |
        ⟨left, fault, rest, outcome, refused, reports⟩ |
        ⟨mark, rest, outcome, further, isTaken, isTotal⟩
      · rw [outcome]
        refine ⟨?_, ?_, fun _ frame found =>
          absurd found.symm (Option.some_ne_none frame)⟩
        · rw [min_eq_right (by omega), ← all, taken.steps, List.map_nil,
            List.append_nil, sameGrid]
        · rw [List.length_nil, last]
          exact reports
      · rw [outcome]
        have refusedStep := congrArg (fun result => result.1.1) refused
        refine ⟨?_, ?_, fun _ frame found =>
          absurd found.symm (Option.some_ne_none frame)⟩
        · rw [Playback.steps_eq_of_refused (by omega) refusedStep, refused,
            List.map_nil, List.append_nil]
        · rw [List.length_nil, last]
          exact reports
      · rw [outcome]
        have reports := further.reports
        rcases ih further with ⟨sameSteps, lastReports, frameReports⟩
        rw [isTaken, isTotal] at sameSteps lastReports frameReports reports
        dsimp only
        refine ⟨?_, ?_, ?_⟩
        · rw [← Nat.add_assoc, Nat.add_right_comm, sameSteps, List.map_cons,
            List.append_assoc]
          rfl
        · rw [lastReports, List.length_cons]
          congr 1
          omega
        · intro index frame found
          cases index with
          | zero =>
              cases found
              exact reports
          | succ index =>
              rw [frameReports index frame found, Nat.add_right_comm,
                Nat.add_assoc]

/-- A run that was not asked yet has taken no step. -/
theorem exists_start (grid : Grid Float Sample Source) {count : ℤ}
    (counted : recording.frameCount playback.rate = .ok count)
    (limit : Option ℤ) :
    ∃ run, start playback recording grid limit = .ok run ∧
      run.total.toNat = extent count limit ∧ run.taken = 0 ∧
        run.HasTaken playback recording grid [] := by
  refine ⟨⟨grid, 0, (limit.map (min count)).getD count, []⟩,
    bind_eq_ok_iff.mpr ⟨count, counted, rfl⟩, ?_, rfl, rfl, Nat.zero_le _, rfl⟩
  cases limit <;> rfl

/-- A limit makes a run no longer. -/
theorem extent_le (count : ℤ) (limit : Option ℤ) :
    extent count limit ≤ extent count none := by
  cases limit with
  | none => exact le_refl _
  | some limit => exact Int.toNat_le_toNat (min_le_left count limit)

/--
Reports on frames of a run bear the number of its frames, which is not negative.
-/
theorem reportsOn_toNat {total : ℤ} {done : ℕ} (within : done ≤ total.toNat) :
    reportsOn total done = reportsOn total.toNat done := by
  rcases Nat.eq_zero_or_pos done with none | some
  · rw [none]
    rfl
  · rw [Int.toNat_of_nonneg (by omega)]

/--
What a run gives when it is asked for so many frames: what as many steps give,
or as many as the run has, with a report on each frame but the last, and on the
last frame as well when it is asked for more than there is.
-/
structure Gives (playback : Playback) (recording : Recording)
    (grid : Grid Float Sample Source) (total asked : ℕ)
    (result : Outcome (Run Source) Unit × List (Taken Source)) : Prop where
  steps : playback.steps recording grid (min asked total) =
    ((result.1.1, result.1.2.grid), result.2.map Taken.shown)
  reports :
    result.1.2.reports = reportsOn total (min (asked - 1) result.2.length)
  taken : ∀ (index : ℕ) (frame : Taken Source), result.2[index]? = some frame →
    frame.mark.index = .int index ∧
    Number.div (.int index) playback.rate = .ok frame.mark.time ∧
      playback.steps recording grid (index + 1) =
        ((.ok (), frame.run.grid),
          (result.2.take (index + 1)).map Taken.shown) ∧
      frame.run.reports = reportsOn total index

/-- A run that starts gives this. -/
theorem HasTaken.gives (taken : run.HasTaken playback recording grid [])
    (isNew : run.taken = 0) (asked : ℕ) :
    Gives playback recording grid run.total.toNat asked
      (run.takeUpTo playback recording asked) := by
  have result := taken.takeUpTo asked
  rw [isNew] at result
  simp only [Nat.zero_add, List.nil_append] at result
  rcases result with ⟨sameSteps, lastReports, frameReports⟩
  have few :=
    (playback.length_steps recording grid (min asked run.total.toNat)).1
  rw [sameSteps, List.length_map] at few
  constructor
  · exact sameSteps
  · rw [lastReports]
    exact reportsOn_toNat (by omega)
  · intro index frame found
    have shown :
        (playback.steps recording grid (min asked run.total.toNat)).2[index]? =
        some frame.shown := by
      rw [sameSteps, List.getElem?_map, found, Option.map_some]
    have inside := (List.getElem?_eq_some_iff.mp found).1
    rcases Playback.steps_of_getElem? shown with ⟨isIndex, isTime, stepped⟩
    rw [sameSteps] at stepped
    refine ⟨isIndex, isTime, ?_, ?_⟩
    · rw [List.map_take]
      exact stepped
    · rw [frameReports index frame found]
      exact reportsOn_toNat (by omega)

/--
A run gives what steps in a row give, for every number of frames that it is
asked for. All of it are as many frames as it has, with a report on each, unless
a step is refused; with a loaded recording and the standard rules and loudness
none is, unless windows have too many bytes. A limited run gives the first
frames of the unlimited one.
-/
theorem exists_gives (grid : Grid Float Sample Source) {count : ℤ}
    (counted : recording.frameCount playback.rate = .ok count)
    (limit : Option ℤ) :
    let total := extent count limit
    ∃ run, start playback recording grid limit = .ok run ∧
      (∀ asked,
        Gives playback recording grid total asked
          (run.takeUpTo playback recording asked)) ∧
      let all := run.takeAll playback recording
      Gives playback recording grid total (total + 1) all ∧
        (all.2.length = total ↔ all.1.1 = .ok ()) ∧
        (all.1.1 = .ok () → all.1.2.reports = reportsOn total total) ∧
        (∀ rate, recording.IsLoaded → playback.loudness = .standard →
          playback.rate = .int rate → 0 < rate → 0 < playback.window →
          grid.IsPlayed →
            (all.1.1 = .ok () ↔ total = 0 ∨ playback.window * 4 < countLimit)) ∧
        ∃ unlimited, start playback recording grid none = .ok unlimited ∧
          all.2.map Taken.shown =
            ((unlimited.takeAll playback recording).2.map Taken.shown).take
              total := by
  intro total
  rcases exists_start grid counted limit with
    ⟨run, started, isTotal, isNew, taken⟩
  rcases exists_start grid counted none with
    ⟨unlimited, startedToo, isWhole, isNewToo, takenToo⟩
  have gives := taken.gives isNew
  rw [isTotal] at gives
  have whole := takenToo.gives isNewToo (extent count none + 1)
  rw [isWhole] at whole
  have isAll : run.takeAll playback recording =
      run.takeUpTo playback recording (total + 1) := by
    rw [takeAll, isNew, Nat.cast_zero, sub_zero, isTotal]
  have isAllToo : unlimited.takeAll playback recording =
      unlimited.takeUpTo playback recording (extent count none + 1) := by
    rw [takeAll, isNewToo, Nat.cast_zero, sub_zero, isWhole]
  have all := gives (total + 1)
  have allSteps := all.steps
  have allReports := all.reports
  rw [min_eq_right (Nat.le_succ total)] at allSteps
  have lengths := (playback.length_steps recording grid total).2
  rw [allSteps, List.length_map] at lengths
  refine ⟨run, started, gives, ?_⟩
  rw [isAll]
  refine ⟨all, lengths, ?_, ?_, unlimited, startedToo, ?_⟩
  · intro completed
    rw [lengths.mpr completed, Nat.add_sub_cancel, min_self] at allReports
    exact allReports
  · intro rate loaded standard isRate ratePositive windowPositive played
    have completed :=
      Playback.steps_completed_iff loaded standard isRate ratePositive
      windowPositive played counted (extent_le count limit)
    rw [allSteps] at completed
    exact completed
  · have wholeSteps := whole.steps
    rw [min_eq_right (Nat.le_succ _)] at wholeSteps
    have cut : (playback.steps recording grid total).2 =
        (playback.steps recording grid (extent count none)).2.take total :=
      Playback.steps_eq_take (extent_le count limit)
    rw [allSteps, wholeSteps] at cut
    rw [isAllToo]
    exact cut

/-- Three samples of a loaded recording. -/
def click : Recording :=
  ⟨.single, #[.single (Number.Single.ofDouble 0.5),
    .single (Number.Single.ofDouble 0.25),
    .single (Number.Single.ofDouble 0.125)], .int Wave.recordingRate⟩

theorem isLoaded_click : click.IsLoaded where
  format := rfl
  rate := rfl
  samples := by
    simp only [click, List.mem_toArray, List.forall_mem_cons]
    exact ⟨⟨_, rfl⟩, ⟨_, rfl⟩, ⟨_, rfl⟩, fun _ impossible => nomatch impossible⟩
  few := by decide

/-- Two cells with the standard rules. -/
def pair : Grid Float Sample Random.Twister :=
  (Grid.empty .direct Settings.standard Rule.Standard.rules .diagonal
    (Random.Twister.ofSeed 0)).layOut 1 2

theorem isPlayed_pair : pair.IsPlayed :=
  Grid.isPlayed_layOut 1 2 .direct
    (rfl : Connectivity.numberOf (.ofNumber (.int 8)) = _) _ _

/--
Of the three frames a run that is limited to two hands out two, with reports on
both.
-/
theorem exists_gives_click :
    let playback : Playback := ⟨Loudness.standard, .int 22050, 4⟩
    click.frameCount playback.rate = .ok 3 ∧
      ∃ run, start playback click pair (some 2) = .ok run ∧
        let all := run.takeAll playback click
        all.2.length = 2 ∧ all.1.2.reports = [(1, 2), (2, 2)] := by
  intro playback
  have counted : click.frameCount playback.rate = .ok 3 :=
    eq_ok_of_toOption (by decide +kernel)
  rcases exists_gives pair counted (some 2) with
    ⟨run, started, -, -, lengths, reports, completed, -⟩
  have all := (completed 22050 isLoaded_click rfl rfl (by decide)
        (by decide) isPlayed_pair).mpr
    (Or.inr (by decide))
  exact ⟨counted, run, started, lengths.mpr all, reports all⟩

/-- A playback with windows of two to the power of sixty-one samples. -/
def broad : Playback :=
  ⟨.standard, .int 1, 2 ^ 61⟩

/--
If samples are doubles, the first step of such a playback is refused: no frame
is handed out.
-/
theorem exists_no_frame :
    ∃ (playback : Playback) (recording : Recording)
      (grid : Grid Float Sample Random.Twister) (run : Run Random.Twister),
      Playback.make .standard (.int 1) (2 ^ 61) = .ok playback ∧
        recording.frameCount playback.rate = .ok 2 ∧
        start playback recording grid none = .ok run ∧
        (run.takeAll playback recording).2 = [] := by
  have counted : Recording.brief.frameCount broad.rate = .ok 2 :=
    eq_ok_of_toOption (by decide +kernel)
  rcases exists_gives pair counted none with ⟨run, started, -, all, -⟩
  refine ⟨broad, Recording.brief, pair, run, rfl, counted, started, ?_⟩
  have lengths := broad.length_steps Recording.brief pair 1
  cases answer : (broad.steps Recording.brief pair 1).1.1 with
  | ok done =>
      rcases Playback.exists_signal_of_steps (Nat.lt_succ_self 0) answer with
        ⟨prepared, signalled⟩
      rcases bind_eq_ok_iff.mp signalled with ⟨window, cut, -⟩
      have rate : Recording.brief.rate = .int (2 : ℕ) := rfl
      have fits :=
        (Recording.isArray_brief.exists_window_iff rate (show 0 < 1 by decide)
          (show 0 * 2 < 2 ^ 53 by decide) (2 ^ 61)).mp ⟨window, cut⟩
      exact absurd fits (by decide)
  | error fault =>
      have shown := all.steps
      rw [answer] at lengths
      rw [Playback.steps_eq_of_refused (by decide) answer] at shown
      have nonempty := lengths.2.not.mpr fun impossible => nomatch impossible
      have empty : (broad.steps Recording.brief pair 1).2 = [] :=
        List.eq_nil_of_length_eq_zero (by omega)
      rw [shown] at empty
      exact List.map_eq_nil_iff.mp empty

end Run

end SoundGrid

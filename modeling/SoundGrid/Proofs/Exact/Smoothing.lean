import SoundGrid.Proofs.Exact.Value
import SoundGrid.Proofs.Grid.Hearing
import SoundGrid.Random.Twister

/-!
# Smoothing without rounding

At the smoothed level a frame moves the value of a cell by a fixed part of the
way to its sample. In exact arithmetic the distance to a constant sample
therefore shrinks by one factor with every frame, and the distance between two
values that move to the same samples does so too, whatever these are.

A value that moves to a constant sample never turns round, so it crosses a
threshold once at most, and a cell turns off once at most.
-/

namespace SoundGrid

variable {Real Source : Type} [Readable Real] [RandomSource Source]

namespace Grid

/-! ## One frame -/

section Frames

variable {grid : Grid Real (Exact Real) Source} {signal : Array (Exact Real)}

/--
A cell at the end of a frame at the smoothed level that brings it a sample.
-/
def smoothedCell (settings : SmoothedSettings Real) (sample : Exact Real)
    (now : Number) (cell : Cell (Exact Real)) : Cell (Exact Real) :=
  let value := Exact.smoothed settings cell.value sample
  (cell.keepValue.put value
    (decide (Readable.toRat settings.threshold < value.toRat))).settle now

/-- Nothing is refused, no neighbours are counted, and nothing is drawn. -/
theorem exists_mapCell_smoothed (level : grid.level = .smoothed)
    (nonempty : 0 < signal.size) (cell : Cell (Exact Real)) :
    ∃ sample, heardAt signal 0 cell.index = .ok sample ∧
      ∀ cells source,
        mapCell grid (grid.frame signal) cells cell.keepValue source =
          .ok (cell.keepValue.put
            (Exact.smoothed grid.settings.smoothed cell.value sample)
            (decide (Readable.toRat grid.settings.smoothed.threshold <
              (Exact.smoothed grid.settings.smoothed cell.value
                sample).toRat))) source := by
  have heard : ∃ sample, heardAt signal 0 cell.index = .ok sample := by
    rw [← sample_frame grid nonempty, Frame.sample]
    change ∃ sample, (if (signal.size : Int) = 0 then _ else
      pick signal (cell.index.fmod signal.size)) = Except.ok sample
    rw [if_neg (by omega)]
    exact (pick_of_isIndex (fmod_isIndex cell.index nonempty)).imp
      fun _ found => found.1
  rcases heard with ⟨sample, heard⟩
  refine ⟨sample, heard, fun cells source => ?_⟩
  have counted :
      seenNeighbours grid.level grid.connectivity grid.rows grid.columns cells
      cell.keepValue = .ok 0 := by
    rw [seenNeighbours, level]
    rfl
  refine mapCell_eq_ok_iff.mpr ⟨0, _, _, _, counted, ?_, Exact.store_eq _, rfl⟩
  rw [level]
  refine Chance.bind_eq_ok_iff.mpr
    ⟨sample, source, Chance.lift_eq_ok_iff.mpr ⟨?_, rfl⟩, ?_⟩
  · rw [sample_frame grid nonempty]
    exact heard
  · exact Chance.lift_eq_ok_iff.mpr ⟨Exact.smoothed_eq .., rfl⟩

/--
Every frame of samples is completed, and it moves every cell towards its own
sample.
-/
theorem advance_smoothed (level : grid.level = .smoothed)
    (nonempty : 0 < signal.size) (now : Number) :
    ∃ after, grid.advance signal now = (.ok (), after) ∧
      after.level = grid.level ∧ after.settings = grid.settings ∧
      ∀ (position : Nat) (cell : Cell (Exact Real)),
        grid.cells[position]? = some cell →
        ∃ sample, heardAt signal 0 cell.index = .ok sample ∧
          after.cells[position]? =
            some (smoothedCell grid.settings.smoothed sample now cell) := by
  rcases advance_cases grid signal now with
    ⟨empty, -⟩ | ⟨cells, source, swept, outcome⟩ |
    ⟨position, cell, cells, fault, rest, ⟨found, start, swept, refused⟩, -⟩
  · omega
  · refine ⟨_, outcome, rfl, rfl, ?_⟩
    intro position cell found
    have inside : position < grid.cells.size :=
      (Array.getElem?_eq_some_iff.mp found).1
    rcases swept.replay with ⟨sources, -, -, replayed⟩
    rcases replayed position inside with
      ⟨old, new, seen, oldFound, newFound, -, made⟩
    rw [found] at oldFound
    cases oldFound
    rcases exists_mapCell_smoothed level nonempty cell with
      ⟨sample, heard, maps⟩
    rw [maps] at made
    refine ⟨sample, heard, ?_⟩
    simp only [finished, Array.getElem?_map, newFound, Option.map_some]
    rw [← (EStateM.Result.ok.inj made).1]
    rfl
  · rcases exists_mapCell_smoothed level nonempty cell with ⟨sample, -, maps⟩
    rw [maps] at refused
    cases refused

end Frames

end Grid

/-! ## A cell over many frames -/

variable (Real Source) in
/--
A cell of a grid at the smoothed level, which is given one frame after another.
-/
structure Smoothing where
  grid : Grid Real (Exact Real) Source
  level : grid.level = .smoothed
  position : Nat
  inside : position < grid.cells.size
  /-- The signals of the frames and their times. -/
  frames : Nat → Array (Exact Real) × Number
  nonempty : ∀ count, 0 < (frames count).1.size

namespace Smoothing

variable {smoothing : Smoothing Real Source} {cells : Nat → Cell (Exact Real)}

/-- The part of the way that a frame goes. -/
def rate (smoothing : Smoothing Real Source) : ℚ :=
  Readable.toRat smoothing.grid.settings.smoothed.smoothing

/-- The grid after so many frames. -/
def after (smoothing : Smoothing Real Source) :
    Nat → Grid Real (Exact Real) Source
  | 0 => smoothing.grid
  | count + 1 =>
      ((smoothing.after count).advance (smoothing.frames count).1
        (smoothing.frames count).2).2

/-- The sample that a frame brings to a cell. -/
def heard (smoothing : Smoothing Real Source) (count : Nat)
    (cell : Cell (Exact Real)) : Except Fault (Exact Real) :=
  Grid.heardAt (smoothing.frames count).1 0 cell.index

/--
Every frame is completed, and this is what they make of the cell, one by one.
-/
structure Traces (smoothing : Smoothing Real Source)
    (cells : Nat → Cell (Exact Real)) : Prop where
  completed :
    ∀ count, ((smoothing.after count).advance (smoothing.frames count).1
      (smoothing.frames count).2).1 = .ok ()
  found : ∀ count, (smoothing.after count).cells[smoothing.position]? =
    some (cells count)

theorem controls_after (smoothing : Smoothing Real Source) (count : Nat) :
    (smoothing.after count).level = .smoothed ∧
      (smoothing.after count).settings = smoothing.grid.settings := by
  induction count with
  | zero => exact ⟨smoothing.level, rfl⟩
  | succ count ih =>
      rcases Grid.advance_smoothed ih.1 (smoothing.nonempty count)
          (smoothing.frames count).2 with
        ⟨after, advanced, level, settings, -⟩
      rw [Smoothing.after, advanced]
      exact ⟨level.trans ih.1, settings.trans ih.2⟩

/--
What a frame does to the cell, wherever the frames before it have brought it.
-/
theorem after_succ (smoothing : Smoothing Real Source) {count : Nat}
    {cell : Cell (Exact Real)}
    (found : (smoothing.after count).cells[smoothing.position]? = some cell) :
    ((smoothing.after count).advance (smoothing.frames count).1
        (smoothing.frames count).2).1 = .ok () ∧
      ∃ sample, smoothing.heard count cell = .ok sample ∧
        (smoothing.after (count + 1)).cells[smoothing.position]? =
          some (Grid.smoothedCell smoothing.grid.settings.smoothed sample
            (smoothing.frames count).2 cell) := by
  rcases smoothing.controls_after count with ⟨level, settings⟩
  rcases Grid.advance_smoothed level (smoothing.nonempty count)
      (smoothing.frames count).2 with
    ⟨after, advanced, -, -, moved⟩
  rw [Smoothing.after, advanced, ← settings]
  exact ⟨rfl, moved _ _ found⟩

theorem exists_traces (smoothing : Smoothing Real Source) :
    ∃ cells, smoothing.Traces cells := by
  have reached (count : Nat) :
      ∃ cell, (smoothing.after count).cells[smoothing.position]? =
        some cell := by
    induction count with
    | zero => exact ⟨_, Array.getElem?_eq_getElem smoothing.inside⟩
    | succ count ih =>
        rcases ih with ⟨cell, found⟩
        rcases (smoothing.after_succ found).2 with ⟨sample, -, moved⟩
        exact ⟨_, moved⟩
  choose cells found using reached
  exact ⟨cells, fun count => (smoothing.after_succ (found count)).1, found⟩

/-! ## Step by step -/

section Steps

variable (traces : smoothing.Traces cells)
include traces

theorem Traces.succ (count : Nat) :
    ∃ sample, smoothing.heard count (cells count) = .ok sample ∧
      cells (count + 1) =
        Grid.smoothedCell smoothing.grid.settings.smoothed sample
        (smoothing.frames count).2 (cells count) := by
  rcases (smoothing.after_succ (traces.found count)).2 with
    ⟨sample, heard, moved⟩
  rw [traces.found (count + 1)] at moved
  exact ⟨sample, heard, Option.some.inj moved⟩

theorem Traces.index (count : Nat) : (cells count).index = (cells 0).index := by
  induction count with
  | zero => rfl
  | succ count ih =>
      rcases traces.succ count with ⟨sample, -, moved⟩
      rw [moved]
      exact ih

/-- The value goes a part of the way to the sample. -/
theorem Traces.value_succ {count : Nat} {sample : Exact Real}
    (heard : smoothing.heard count (cells 0) = .ok sample) :
    (cells (count + 1)).value.toRat = (cells count).value.toRat +
      (sample.toRat - (cells count).value.toRat) * smoothing.rate := by
  rcases traces.succ count with ⟨own, ownHeard, moved⟩
  rw [Smoothing.heard, traces.index count] at ownHeard
  cases heard.symm.trans ownHeard
  rw [moved]
  rfl

/-- After a frame the cell is on when its value is above the threshold. -/
theorem Traces.state_succ (count : Nat) :
    (cells (count + 1)).state = true ↔
      Readable.toRat smoothing.grid.settings.smoothed.threshold <
        (cells (count + 1)).value.toRat := by
  rcases traces.succ count with ⟨sample, -, moved⟩
  rw [moved]
  exact decide_eq_true_iff

theorem Traces.previousState_succ (count : Nat) :
    (cells (count + 1)).previousState = (cells (count + 1)).state := by
  rcases traces.succ count with ⟨sample, -, moved⟩
  rw [moved]
  rfl

theorem Traces.lastOff_succ (count : Nat) :
    (cells (count + 1)).lastOff =
      if (cells count).previousState && !(cells (count + 1)).state then
        some (smoothing.frames count).2
      else (cells count).lastOff := by
  rcases traces.succ count with ⟨sample, -, moved⟩
  rw [moved]
  rfl

end Steps

/-! ## A constant sample -/

/-- The frame at which a trace turns the cell off. -/
def TurnsOff (cells : Nat → Cell (Exact Real)) (count : Nat) : Prop :=
  (cells count).previousState = true ∧ (cells (count + 1)).state = false

/--
How a cell settles at a sample that does not change.  The value comes closer to
it with every frame and never passes it; the state changes once at most when the
first frame is over; and the cell turns off once at most, which is what it
records.
-/
structure Settles (smoothing : Smoothing Real Source)
    (cells : Nat → Cell (Exact Real)) (target : ℚ) : Prop where
  value : ∀ count, (cells count).value.toRat =
    target + ((cells 0).value.toRat - target) * (1 - smoothing.rate) ^ count
  between : ∀ count, (cells (count + 1)).value.toRat ∈
    Set.uIcc (cells count).value.toRat target
  closer : ∀ count, (cells count).value.toRat ≠ target →
    |(cells (count + 1)).value.toRat - target| <
      |(cells count).value.toRat - target|
  atOnce :
    smoothing.rate = 1 → ∀ count, (cells (count + 1)).value.toRat = target
  changesOnce : ∀ first second, 1 ≤ first → 1 ≤ second →
    (cells (first + 1)).state ≠ (cells first).state →
      (cells (second + 1)).state ≠ (cells second).state → first = second
  offOnce : ∀ first second, TurnsOff cells first → TurnsOff cells second →
    first = second
  recorded : ∀ count, (cells (count + 1)).lastOff =
    if (cells count).previousState && !(cells (count + 1)).state then
      some (smoothing.frames count).2
    else (cells count).lastOff

/-- Of two states that differ the one that follows from the other is on. -/
theorem eq_true_of_ne {state other : Bool} (differ : state ≠ other)
    (implied : other = true → state = true) : state = true ∧ other = false := by
  cases other with
  | true => exact absurd (implied rfl) differ
  | false => exact ⟨Bool.eq_true_of_not_eq_false differ, rfl⟩

section Constant

variable {sample : Exact Real} (traces : smoothing.Traces cells)
  (constant : ∀ count, smoothing.heard count (cells 0) = .ok sample)
include traces constant

theorem Traces.distance_succ (count : Nat) :
    (cells (count + 1)).value.toRat - sample.toRat =
      ((cells count).value.toRat - sample.toRat) * (1 - smoothing.rate) := by
  rw [traces.value_succ (constant count)]
  ring

theorem Traces.value_eq (count : Nat) :
    (cells count).value.toRat =
      sample.toRat + ((cells 0).value.toRat - sample.toRat) *
        (1 - smoothing.rate) ^ count := by
  induction count with
  | zero => ring
  | succ count ih =>
      have distance := traces.distance_succ constant count
      have before : (cells count).value.toRat - sample.toRat =
          ((cells 0).value.toRat - sample.toRat) *
            (1 - smoothing.rate) ^ count := by
        rw [ih]
        ring
      rw [before, mul_assoc, ← pow_succ] at distance
      rw [← distance]
      ring

variable (positive : 0 < smoothing.rate) (atMostOne : smoothing.rate ≤ 1)
include positive atMostOne

theorem Traces.between (count : Nat) :
    (cells (count + 1)).value.toRat ∈
      Set.uIcc (cells count).value.toRat sample.toRat := by
  have moved := traces.value_succ (constant count)
  rw [Set.mem_uIcc]
  rcases le_total (cells count).value.toRat sample.toRat with below | above
  · left
    constructor <;> nlinarith
  · right
    constructor <;> nlinarith

theorem Traces.closer {count : Nat}
    (apart : (cells count).value.toRat ≠ sample.toRat) :
    |(cells (count + 1)).value.toRat - sample.toRat| <
      |(cells count).value.toRat - sample.toRat| := by
  have distance : 0 < |(cells count).value.toRat - sample.toRat| :=
    abs_pos.mpr (sub_ne_zero.mpr apart)
  have less : |1 - smoothing.rate| < 1 := by
    rw [abs_of_nonneg (by linarith)]
    linarith
  rw [traces.distance_succ constant count, abs_mul]
  exact mul_lt_of_lt_one_right distance less

/-- The values move in one direction. -/
theorem Traces.monotone_or_antitone :
    Monotone (fun count => (cells count).value.toRat) ∨
      Antitone (fun count => (cells count).value.toRat) := by
  have shrunk (count : Nat) : 0 ≤ (1 - smoothing.rate) ^ count :=
    pow_nonneg (by linarith) count
  rcases le_total (cells 0).value.toRat sample.toRat with below | above
  · left
    refine monotone_nat_of_le_succ fun count => ?_
    have moved := traces.value_succ (constant count)
    have value := traces.value_eq constant count
    have stays : (cells count).value.toRat ≤ sample.toRat := by
      nlinarith [shrunk count]
    nlinarith
  · right
    refine antitone_nat_of_succ_le fun count => ?_
    have moved := traces.value_succ (constant count)
    have value := traces.value_eq constant count
    have stays : sample.toRat ≤ (cells count).value.toRat := by
      nlinarith [shrunk count]
    nlinarith

/-- So after the first frame the states, too, change in one direction only. -/
theorem Traces.states_ordered :
    (∀ first second, 1 ≤ first → first ≤ second →
        (cells first).state = true → (cells second).state = true) ∨
      ∀ first second, 1 ≤ first → first ≤ second →
        (cells second).state = true → (cells first).state = true := by
  have above {count : Nat} (later : 1 ≤ count) : (cells count).state = true ↔
      Readable.toRat smoothing.grid.settings.smoothed.threshold <
        (cells count).value.toRat := by
    rcases Nat.exists_eq_add_of_le' later with ⟨before, rfl⟩
    exact traces.state_succ before
  rcases traces.monotone_or_antitone constant positive atMostOne with
    rising | falling
  · left
    intro first second later ordered on
    rw [above (later.trans ordered)]
    exact ((above later).mp on).trans_le (rising ordered)
  · right
    intro first second later ordered on
    rw [above later]
    exact ((above (later.trans ordered)).mp on).trans_le (falling ordered)

theorem Traces.not_changes_twice {first second : Nat} (later : 1 ≤ first)
    (ordered : first < second)
    (firstChange : (cells (first + 1)).state ≠ (cells first).state)
    (secondChange : (cells (second + 1)).state ≠ (cells second).state) :
    False := by
  rcases traces.states_ordered constant positive atMostOne with rising | falling
  · have on :=
      (eq_true_of_ne firstChange (rising first _ later (Nat.le_succ first))).1
    have off := (eq_true_of_ne secondChange
          (rising second _ (by omega) (Nat.le_succ second))).2
    rw [rising (first + 1) second (by omega) ordered on] at off
    cases off
  · have off :=
      (eq_true_of_ne firstChange.symm
        (falling first _ later (Nat.le_succ first))).2
    have on := (eq_true_of_ne secondChange.symm
      (falling second _ (by omega) (Nat.le_succ second))).1
    rw [falling (first + 1) second (by omega) ordered on] at off
    cases off

theorem Traces.not_turnsOff_twice {first second : Nat}
    (ordered : first < second) (firstOff : TurnsOff cells first)
    (secondOff : TurnsOff cells second) : False := by
  rcases Nat.exists_eq_add_of_lt ordered with ⟨between, rfl⟩
  have on : (cells (first + between + 1)).state = true := by
    rw [← traces.previousState_succ]
    exact secondOff.1
  rcases traces.states_ordered constant positive atMostOne with rising | falling
  · have still := rising (first + between + 1) (first + between + 1 + 1)
      (by omega) (by omega) on
    rw [secondOff.2] at still
    cases still
  · have already :=
      falling (first + 1) (first + between + 1) (by omega) (by omega) on
    rw [firstOff.2] at already
    cases already

theorem Traces.settles : Settles smoothing cells sample.toRat where
  value := traces.value_eq constant
  between := traces.between constant positive atMostOne
  closer count apart := traces.closer constant positive atMostOne apart
  atOnce whole count := by
    have distance := traces.distance_succ constant count
    rw [whole, sub_self, mul_zero] at distance
    exact sub_eq_zero.mp distance
  changesOnce first second firstLater secondLater firstChange secondChange := by
    rcases Nat.lt_trichotomy first second with before | same | behind
    · exact (traces.not_changes_twice constant positive atMostOne firstLater
        before firstChange secondChange).elim
    · exact same
    · exact (traces.not_changes_twice constant positive atMostOne secondLater
        behind secondChange firstChange).elim
  offOnce first second firstOff secondOff := by
    rcases Nat.lt_trichotomy first second with before | same | behind
    · exact (traces.not_turnsOff_twice constant positive atMostOne before
        firstOff secondOff).elim
    · exact same
    · exact (traces.not_turnsOff_twice constant positive atMostOne behind
        secondOff firstOff).elim
  recorded := traces.lastOff_succ

end Constant

/-! ## Two cells with the same samples -/

/--
The difference of two values that move alike to the same samples shrinks by one
factor.
-/
theorem Traces.difference_eq (traces : smoothing.Traces cells)
    {other : Smoothing Real Source} {others : Nat → Cell (Exact Real)}
    (otherTraces : other.Traces others) (rates : other.rate = smoothing.rate)
    (same : ∀ count, other.heard count (others 0) =
      smoothing.heard count (cells 0)) (count : Nat) :
    (cells count).value.toRat - (others count).value.toRat =
      ((cells 0).value.toRat - (others 0).value.toRat) *
        (1 - smoothing.rate) ^ count := by
  induction count with
  | zero => ring
  | succ count ih =>
      rcases traces.succ count with ⟨sample, heard, -⟩
      rw [Smoothing.heard, traces.index count] at heard
      rw [traces.value_succ heard,
        otherTraces.value_succ ((same count).trans heard), rates,
        pow_succ, ← mul_assoc, ← ih]
      ring

/--
Every frame at the smoothed level is completed. A cell settles at a sample that
does not change, and two cells that move at one rate to the same samples,
whatever these are, come closer to each other by one factor with every frame.
-/
theorem exists_settling (smoothing : Smoothing Real Source)
    (positive : 0 < smoothing.rate) (atMostOne : smoothing.rate ≤ 1) :
    ∃ cells, smoothing.Traces cells ∧
      (∀ sample, (∀ count, smoothing.heard count (cells 0) = .ok sample) →
        Settles smoothing cells sample.toRat) ∧
      ∀ (other : Smoothing Real Source) (others : Nat → Cell (Exact Real)),
        other.Traces others → other.rate = smoothing.rate →
          (∀ count, other.heard count (others 0) =
            smoothing.heard count (cells 0)) →
            ∀ count, (cells count).value.toRat - (others count).value.toRat =
              ((cells 0).value.toRat - (others 0).value.toRat) *
                (1 - smoothing.rate) ^ count := by
  rcases smoothing.exists_traces with ⟨cells, traces⟩
  exact ⟨cells, traces, fun sample constant => traces.settles constant positive
    atMostOne, fun other others otherTraces rates same =>
    traces.difference_eq otherTraces rates same⟩

/--
One cell that goes an eighth of the way to a sample of one with every frame.
-/
def toOne : Smoothing Float Random.Twister where
  grid := (Grid.empty .smoothed Settings.standard Rule.Standard.rules .diagonal
    (Random.Twister.ofSeed 0)).layOut 1 1
  level := rfl
  position := 0
  inside := by decide +kernel
  frames count := (#[⟨1⟩], .int count)
  nonempty _ := Nat.one_pos

/-- It settles at one. -/
theorem exists_settling_toOne :
    0 < toOne.rate ∧ toOne.rate ≤ 1 ∧ ∃ cells, toOne.Traces cells ∧
      Settles toOne cells 1 ∧
      ∀ (other : Smoothing Float Random.Twister)
        (others : Nat → Cell (Exact Float)),
        other.Traces others → other.rate = toOne.rate →
          (∀ count, other.heard count (others 0) =
            toOne.heard count (cells 0)) →
            ∀ count, (cells count).value.toRat - (others count).value.toRat =
              ((cells 0).value.toRat - (others 0).value.toRat) *
                (1 - toOne.rate) ^ count := by
  have positive : 0 < toOne.rate := by decide +kernel
  have atMostOne : toOne.rate ≤ 1 := by decide +kernel
  rcases exists_settling toOne positive atMostOne with
    ⟨cells, traces, settles, close⟩
  refine ⟨positive, atMostOne, cells, traces,
    settles ⟨1⟩ fun count => ?_, close⟩
  change pick (#[⟨1⟩] : Array (Exact Float))
    (((cells 0).index + (0 : Nat)) % 1) = _
  rw [Int.emod_one]
  rfl

end Smoothing

end SoundGrid

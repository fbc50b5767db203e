import SoundGrid.Proofs.Grid.Hearing
import SoundGrid.Proofs.Grid.IndexOrder
import SoundGrid.Proofs.Grid.Storing
import SoundGrid.Proofs.Sample.Meeting

/-!
# States and stored values

At two levels a cell is on when its new value is above a threshold.  The value
is compared before it is stored, in the format of the sample that it comes of.
The stored value is the double with the value of that sample, so it is the
threshold that can differ: a single is compared with the threshold that has
been narrowed to a single.

So the state of a cell says whether its stored value is above the threshold,
unless the samples are singles and the stored value is the narrowed threshold,
which is above the threshold but not above itself.
-/

namespace SoundGrid

/-- The threshold that states follow, at the levels at which they follow one. -/
def Level.threshold? {Real : Type}
    (settings : Settings Real) : Level → Option Real
  | .direct => some settings.direct.threshold
  | .smoothed => some settings.smoothed.threshold
  | _ => none

/--
Stored and compared, a floating value is above the threshold as it is met.
-/
theorem Sample.IsFloating.store_above {sample : Sample}
    (floating : sample.IsFloating) {threshold : Float}
    {state : Bool} {stored : Sample}
    (compared : Arithmetic.above sample (ofDouble threshold) = .ok state)
    (kept : Arithmetic.store sample = .ok stored) :
    ∃ value, sample.toDouble = .ok value ∧ stored = ofDouble value ∧
      state = decide (sample.thresholdFor threshold < value) := by
  rcases floating.above_eq threshold with ⟨value, converted, answer⟩
  rw [answer] at compared
  rcases map_eq_ok_iff.mp kept with ⟨double, again, rfl⟩
  rw [converted] at again
  cases again
  exact ⟨value, converted, rfl, (Except.ok.inj compared).symm⟩

namespace Level

variable {Source : Type} [RandomSource Source]

/--
At a level with a threshold a cell gets a value in the format of its sample, and
it is on when this value is above the threshold.
-/
theorem exists_compared {level : Level} {frame : Frame Float Sample Source}
    {threshold : Float}
    (thresholded : level.threshold? frame.settings = some threshold)
    {cell : Cell Sample} (stored : cell.value.IsStored) {sample : Sample}
    (heard : frame.sample cell.index = .ok sample)
    (floating : sample.IsFloating) {neighbours : Int} {value : Sample}
    {state : Bool} {source rest : Source}
    (mapped : level.map cell frame neighbours source =
      .ok (value, state) rest) :
    value.IsFloating ∧ value.isSingle = sample.isSingle ∧
      Arithmetic.above value (.ofDouble threshold) = .ok state := by
  cases level with
  | direct =>
      cases thresholded
      simp only [map, heard, Chance.bind_eq_ok_iff,
        Chance.lift_eq_ok_iff] at mapped
      rcases mapped with ⟨_, _, ⟨picked, rfl⟩, direct, rfl⟩
      cases picked
      rcases bind_eq_ok_iff.mp direct with ⟨answer, compared, paired⟩
      cases paired
      exact ⟨floating, rfl, compared⟩
  | smoothed =>
      cases thresholded
      simp only [map, heard, Chance.bind_eq_ok_iff,
        Chance.lift_eq_ok_iff] at mapped
      rcases mapped with ⟨_, _, ⟨picked, rfl⟩, smoothed, rfl⟩
      cases picked
      rcases stored with ⟨current, isCurrent⟩
      rcases floating.exists_toward current
          frame.settings.smoothed.smoothing with
        ⟨reached, moved, reachedFloating, format⟩
      rcases bind_eq_ok_iff.mp smoothed with ⟨value, toward, smoothed⟩
      rw [isCurrent] at toward
      cases moved.symm.trans toward
      rcases bind_eq_ok_iff.mp smoothed with ⟨answer, compared, paired⟩
      cases paired
      exact ⟨reachedFloating, format, compared⟩
  | opacity | probabilistic | entropy | rules | neighborhood =>
      cases thresholded

end Level

namespace Grid

/--
The cell at a position hears the sample at this position of the repeated signal.
-/
theorem exists_sample_frame {Real Value Source : Type}
    (grid : Grid Real Value Source) {signal : Array Value}
    (nonempty : 0 < signal.size) {index : Int} {position : Nat}
    (atPosition : index = position) :
    ∃ sample, signal[position % signal.size]? = some sample ∧
      (grid.frame signal).sample index = .ok sample := by
  have inside : position % signal.size < signal.size := Nat.mod_lt _ nonempty
  refine ⟨_, Array.getElem?_eq_getElem inside, ?_⟩
  rw [sample_frame grid nonempty, heardAt, atPosition, Int.natCast_zero,
    add_zero, ← Int.natCast_mod, pick_natCast inside]

/-- A frame that is completed has samples. -/
theorem nonempty_of_advance {Real Value Source : Type} [Arithmetic Real Value]
    [RandomSource Source] {grid after : Grid Real Value Source}
    {signal : Array Value} {now : Number}
    (completed : grid.advance signal now = (.ok (), after)) :
    0 < signal.size := by
  by_contra none
  have empty : signal.isEmpty = true := by simpa using none
  rw [advance, if_pos empty] at completed
  cases completed

variable {Source : Type} [RandomSource Source]
  {grid after : Grid Float Sample Source}

/--
After a frame at a level with a threshold a cell stores a double, and it is on
when this double is above the threshold as its sample meets it.  This is the
threshold that was set, unless the sample is a single and the stored double is
the narrowed threshold although it is above the threshold itself.
-/
theorem state_iff_above_threshold (reachable : Reachable grid)
    {signal : Array Sample}
    (floating : ∀ sample ∈ signal, sample.IsFloating) {threshold : Float}
    (thresholded : grid.level.threshold? grid.settings = some threshold)
    {now : Number} (completed : grid.advance signal now = (.ok (), after))
    {position : Nat} {cell : Cell Sample}
    (found : after.cells[position]? = some cell) :
    ∃ sample value, signal[position % signal.size]? = some sample ∧
      cell.value = .ofDouble value ∧
      (cell.state = true ↔ sample.thresholdFor threshold < value) ∧
      ((cell.state = true ↔ threshold < value) ↔
        ¬ (sample.isSingle = true ∧ threshold < value ∧
          value == Number.Single.toDouble
            (Number.Single.ofDouble threshold))) := by
  have nonempty := nonempty_of_advance completed
  rcases advance_cases grid signal now with
    ⟨-, outcome⟩ | ⟨cells, source, swept, outcome⟩ |
    ⟨stoppedAt, stopped, cells, fault, rest, stuck, outcome⟩
  · rw [outcome] at completed
    cases completed
  · rw [outcome] at completed
    cases completed
    simp only [finished, Array.getElem?_map, Option.map_eq_some_iff] at found
    rcases found with ⟨mapped, mappedFound, rfl⟩
    have inside : position < grid.cells.size := by
      rw [← swept.size]
      exact (Array.getElem?_eq_some_iff.mp mappedFound).1
    rcases swept.replay with ⟨sources, -, -, replayed⟩
    rcases replayed position inside with
      ⟨old, new, seen, oldFound, newFound, -, made⟩
    rw [mappedFound] at newFound
    cases newFound
    rcases mapCell_eq_ok_iff.mp made with
      ⟨neighbours, value, state, stored, -, returned, kept, rfl⟩
    have place := reachable.laidOut.places position old oldFound
    rcases exists_sample_frame grid nonempty place.index with
      ⟨sample, sampleFound, heard⟩
    have sampleFloating := floating sample (Array.mem_of_getElem? sampleFound)
    have oldStored : old.keepValue.value.IsStored :=
      reachable.storesOnly Sample.stores_isStored position old oldFound
    rcases Level.exists_compared thresholded oldStored heard sampleFloating
        returned with
      ⟨valueFloating, format, compared⟩
    rcases valueFloating.store_above compared kept with
      ⟨double, converted, rfl, rfl⟩
    have sameThreshold :
        value.thresholdFor threshold = sample.thresholdFor threshold := by
      rw [Sample.thresholdFor, Sample.thresholdFor, format]
    have settled : (((old.keepValue).put (.ofDouble double)
        (decide (value.thresholdFor threshold < double))).settle now).state =
        true ↔
          value.thresholdFor threshold < double := decide_eq_true_iff
    refine ⟨sample, double, sampleFound, rfl, ?_, ?_⟩
    · rw [settled, sameThreshold]
    · rw [settled, ← format]
      exact valueFloating.thresholdFor_lt_iff converted threshold
  · rw [outcome] at completed
    cases completed

/-- One cell, which is on when its sample is above the threshold. -/
def lone : Grid Float Sample Random.Twister :=
  (empty .direct Settings.standard Rule.Standard.rules .diagonal
    (Random.Twister.ofSeed 0)).layOut 1 1

theorem reachable_lone : Reachable lone :=
  .make ⟨1, rfl⟩ ⟨1, rfl⟩
    (rfl : make (.int 1) (.int 1) (.int 0) (.int 8) Settings.standard
      Rule.Standard.rules (Random.Twister.ofSeed 0) = .ok lone)

/-- The threshold of the lone cell, narrowed to a single. -/
def touching : Sample :=
  .single (Number.Single.ofDouble Settings.standard.direct.threshold)

theorem touching_floating : ∀ sample ∈ #[touching], sample.IsFloating := by
  intro sample member
  cases List.mem_singleton.mp (Array.mem_toList_iff.mpr member)
  exact .single _

/-- The lone cell compares a single that is the narrowed threshold. -/
theorem state_iff_above_threshold_lone :
    ∃ (after : Grid Float Sample Random.Twister) (cell : Cell Sample),
      Reachable lone ∧ (∀ sample ∈ #[touching], sample.IsFloating) ∧
        lone.level.threshold? lone.settings =
          some Settings.standard.direct.threshold ∧
        lone.advance #[touching] (.int 0) = (.ok (), after) ∧
        after.cells[0]? = some cell ∧
        ∃ sample value, #[touching][0 % 1]? = some sample ∧
          cell.value = .ofDouble value ∧
          (cell.state = true ↔
            sample.thresholdFor Settings.standard.direct.threshold < value) ∧
          ((cell.state = true ↔ Settings.standard.direct.threshold < value) ↔
            ¬ (sample.isSingle = true ∧
              Settings.standard.direct.threshold < value ∧
              value == Number.Single.toDouble
                (Number.Single.ofDouble
                  Settings.standard.direct.threshold))) := by
  have done : (lone.advance #[touching] (.int 0)).1.isOk = true := by
    decide +kernel
  have completed := eq_ok_of_isOk done
  have inside : 0 < (lone.advance #[touching] (.int 0)).2.cells.size := by
    decide +kernel
  have found := Array.getElem?_eq_getElem inside
  exact ⟨_, _, reachable_lone, touching_floating, rfl, completed, found,
    state_iff_above_threshold reachable_lone touching_floating rfl
      completed found⟩

/--
The lone cell stores a value above its threshold and is off: it was the
narrowed threshold that the single was compared with.
-/
theorem exists_above_threshold_off :
    ∃ (after : Grid Float Sample Random.Twister) (cell : Cell Sample)
      (value : Float),
      Reachable lone ∧ lone.level = .direct ∧
        lone.advance #[touching] (.int 0) = (.ok (), after) ∧
        after.cells[0]? = some cell ∧
        cell.value = .ofDouble value ∧ value.isFinite = true ∧
        lone.settings.direct.threshold < value ∧ cell.state = false := by
  have done : (lone.advance #[touching] (.int 0)).1.isOk = true := by
    decide +kernel
  have computed :
      ((lone.advance #[touching] (.int 0)).2.cells[0]?.map fun cell =>
        ((cell.value.toDouble.map fun value =>
          value.isFinite &&
            decide (lone.settings.direct.threshold < value)).toOption,
            cell.state)) = some (some true, false) := by
    decide +kernel
  rcases Option.map_eq_some_iff.mp computed with ⟨cell, found, compared⟩
  have after : Reachable (lone.advance #[touching] (.int 0)).2 :=
    reachable_lone.perform (.advance #[touching] (.int 0)) trivial
  rcases after.storesOnly Sample.stores_isStored 0 cell found with
    ⟨value, stored⟩
  rw [stored] at compared
  rcases Prod.mk.inj compared with ⟨above, off⟩
  rcases Bool.and_eq_true_iff.mp (Option.some.inj above) with ⟨finite, beyond⟩
  exact ⟨_, cell, value, reachable_lone, rfl, eq_ok_of_isOk done, found, stored,
    finite, of_decide_eq_true beyond, off⟩

end Grid

end SoundGrid

import SoundGrid.Proofs.Grid.Draws
import SoundGrid.Proofs.Grid.Edit
import SoundGrid.Proofs.Sample.Fraction

/-!
# Two grids on one random stream

At the probabilistic level a frame draws one fraction for every cell, whatever
the signal, and a cell is on when its fraction is below its scaled sample.  So
two grids of one size that start from the same source never drift apart, and
their cells at one position always draw the same fraction.

If the scaled samples of the second grid are nowhere below those of the first,
every cell that is on in the first grid is therefore on in the second.  The
exception is a cell of the second grid whose scaled sample is a single: it may
absorb a fraction that a double of the first grid is still above.
-/

namespace SoundGrid

open Number

namespace Random

variable {Source : Type} [RandomSource Source]

/-- The source that so many fractions leave. -/
def afterFractions (source : Source) : Nat → Source
  | 0 => source
  | count + 1 => (RandomSource.fraction (afterFractions source count)).2

/-- The fraction that is drawn after so many others. -/
def fractionAfter (source : Source) (count : Nat) : Fraction :=
  (RandomSource.fraction (afterFractions source count)).1

end Random

namespace Grid

variable {Source : Type}

/-! ## Scaled samples -/

/-- The sample of the cell at a position, scaled. -/
def scaledAt (grid : Grid Float Sample Source) (signal : Array Sample)
    (position : Nat) : Except Fault Sample := do
  Arithmetic.mul (← heardAt signal 0 position)
    (Arithmetic.setting grid.settings.probabilistic.scale)

/-- A signal without samples has none that is scaled. -/
theorem nonempty_of_scaledAt {grid : Grid Float Sample Source}
    {signal : Array Sample} {position : Nat} {product : Sample}
    (made : grid.scaledAt signal position = .ok product) : 0 < signal.size := by
  rcases bind_eq_ok_iff.mp made with ⟨sample, heard, -⟩
  have found := (pick_eq_ok_iff.mp heard).2
  by_contra none
  have empty : signal = #[] := Array.eq_empty_of_size_eq_zero (by omega)
  rw [empty] at found
  simp at found

/-! ## One frame -/

variable [RandomSource Source]

section Frames

variable {grid after : Grid Float Sample Source} {signal : Array Sample}
  {now : Number}

/--
A frame at the probabilistic level.  It draws a fraction for every cell, and the
cell is on when this fraction is below its scaled sample and is not absorbed.
-/
structure DrawsForEach (grid after : Grid Float Sample Source)
    (signal : Array Sample) : Prop where
  size : after.cells.size = grid.cells.size
  source : after.source = Random.afterFractions grid.source grid.cells.size
  states : ∀ (position : Nat) (cell : Cell Sample),
    after.cells[position]? = some cell →
    ∃ product value, grid.scaledAt signal position = .ok product ∧
      product.toDouble = .ok value ∧
      (cell.state = true ↔
        Sample.ofFraction (Random.fractionAfter grid.source position) < value ∧
        ¬ product.Absorbs (Random.fractionAfter grid.source position))

theorem Reachable.drawsForEach (reachable : Reachable grid)
    (level : grid.level = .probabilistic)
    (completed : grid.advance signal now = (.ok (), after)) :
    DrawsForEach grid after signal := by
  rcases reachable.exists_sources completed with
    ⟨size, sources, first, last, draws⟩
  have found {position : Nat} (inside : position < grid.cells.size) :
      ∃ old later, grid.cells[position]? = some old ∧
        after.cells[position]? = some later ∧
        DrawsAndTouches grid signal after.cells sources position old later := by
    have laterInside : position < after.cells.size := by omega
    exact ⟨_, _, Array.getElem?_eq_getElem inside,
      Array.getElem?_eq_getElem laterInside,
      draws _ _ _ (Array.getElem?_eq_getElem inside)
        (Array.getElem?_eq_getElem laterInside)⟩
  have chain (position : Nat) (reached : position ≤ grid.cells.size) :
      sources position = Random.afterFractions grid.source position := by
    induction position with
    | zero => exact first
    | succ position ih =>
        rcases found (Nat.lt_of_succ_le reached) with ⟨old, later, -, -, drawn⟩
        rw [(drawn.chance level).1, ih (by omega)]
        rfl
  refine ⟨size, by rw [← last, chain _ (Nat.le_refl _)], ?_⟩
  intro position cell cellFound
  have inside : position < grid.cells.size := by
    rw [← size]
    exact (Array.getElem?_eq_some_iff.mp cellFound).1
  rcases found inside with ⟨old, later, oldFound, laterFound, drawn⟩
  rw [laterFound] at cellFound
  cases cellFound
  rcases (drawn.chance level).2 with ⟨sample, product, heard, scaled, compared⟩
  rw [chain position inside.le] at compared
  rcases (Sample.isFloating_of_mul scaled).exists_fraction_less
    (Random.fractionAfter grid.source position) with ⟨value, answer, converted,
      answered, decided⟩
  rw [Except.ok.inj (answered.symm.trans compared)] at decided
  refine ⟨product, value, ?_, converted, decided⟩
  rw [(reachable.laidOut.places position old oldFound).index] at heard
  rw [scaledAt, heard]
  exact scaled

/-- If all samples that are heard can be scaled, the frame is completed. -/
theorem Reachable.exists_completed_of_scaled (reachable : Reachable grid)
    (level : grid.level = .probabilistic) (nonempty : 0 < signal.size)
    (scaled : ∀ position, position < grid.cells.size →
      ∃ product, grid.scaledAt signal position = .ok product) (now : Number) :
    ∃ after, grid.advance signal now = (.ok (), after) := by
  rcases advance_cases grid signal now with
    ⟨empty, -⟩ | ⟨cells, source, -, outcome⟩ |
    ⟨position, cell, cells, fault, rest, stuck, -⟩
  · omega
  · exact ⟨_, outcome⟩
  · exfalso
    rcases stuck with ⟨found, source, swept, refused⟩
    have oldFound : grid.cells[position]? = some cell := by
      rw [← swept.behind (Nat.le_refl position), found]
    have inside : position < grid.cells.size :=
      (Array.getElem?_eq_some_iff.mp oldFound).1
    rcases scaled position inside with ⟨product, made⟩
    rcases bind_eq_ok_iff.mp made with ⟨sample, heard, multiplied⟩
    rcases (Sample.isFloating_of_mul multiplied).exists_fraction_less
      (RandomSource.fraction source).1 with ⟨value, answer, -, answered, -⟩
    have sampled :
        (grid.frame signal).sample cell.keepValue.index = .ok sample := by
      rw [sample_frame grid nonempty]
      change heardAt signal 0 cell.index = _
      rw [(reachable.laidOut.places position cell oldFound).index]
      exact heard
    have counted :=
      reachable.laidOut.seenNeighbours_eq (swept.seen found) oldFound
    have mapped : grid.level.map cell.keepValue (grid.frame signal)
        (grid.neighboursInSweep cells position) source =
          .ok (cell.value, answer) (RandomSource.fraction source).2 := by
      rw [level]
      exact Level.map_probabilistic_eq_ok_iff.mpr
        ⟨sample, product, sampled, multiplied, answered, rfl, rfl⟩
    have succeeded := mapCell_eq_ok_iff.mpr
      ⟨_, _, _, _, counted, mapped, reachable.store_value oldFound, rfl⟩
    rw [refused] at succeeded
    cases succeeded

/--
So at least the source is left as after a whole frame, also where there are no
cells to map.
-/
theorem Reachable.advance_of_scaled (reachable : Reachable grid)
    (level : grid.level = .probabilistic)
    (scaled : ∀ position, position < grid.cells.size →
      ∃ product, grid.scaledAt signal position = .ok product) (now : Number) :
    (grid.advance signal now).2.cells.size = grid.cells.size ∧
      (grid.advance signal now).2.source =
        Random.afterFractions grid.source grid.cells.size := by
  by_cases nonempty : 0 < signal.size
  · rcases reachable.exists_completed_of_scaled level nonempty scaled now with
      ⟨after, completed⟩
    have draws := reachable.drawsForEach level completed
    rw [completed]
    exact ⟨draws.size, draws.source⟩
  · have noCells : grid.cells.size = 0 := by
      by_contra some
      rcases scaled 0 (Nat.pos_of_ne_zero some) with ⟨product, made⟩
      exact nonempty (nonempty_of_scaledAt made)
    have empty : signal.isEmpty = true := by simpa using nonempty
    rw [advance, if_pos empty, noCells]
    exact ⟨rfl, rfl⟩

theorem level_advance (grid : Grid Float Sample Source) (signal : Array Sample)
    (now : Number) : (grid.advance signal now).2.level = grid.level := by
  rcases advance_cases grid signal now with
    ⟨-, outcome⟩ | ⟨cells, source, -, outcome⟩ |
    ⟨position, cell, cells, fault, rest, -, outcome⟩
  · rw [outcome]
  · rw [outcome]
    rfl
  · rw [outcome]

end Frames

/-! ## Runs of two grids -/

section Pairs

/-- An operation that sets a parameter, or is refused. -/
def Operation.SetsParameter {Value : Type} : Operation Value → Prop
  | .setParameter .. | .assign .. => True
  | _ => False

theorem exists_settings_perform (grid : Grid Float Sample Source)
    {operation : Operation Sample} (sets : operation.SetsParameter) :
    ∃ settings, (grid.perform operation).2 = { grid with settings } := by
  cases operation with
  | setParameter name given level =>
      exact ⟨_, attempt_setParameter grid name given level⟩
  | assign key name given => exact ⟨_, attempt_assign grid ⟨key, name, given⟩⟩
  | advance | setLevel | shuffleRules | draw | resize | reset => exact sets.elim

theorem Operation.SetsParameter.isIntegral {operation : Operation Sample}
    (sets : operation.SetsParameter) : operation.IsIntegral := by
  cases operation with
  | resize => exact sets.elim
  | advance | setLevel | setParameter | assign | shuffleRules | draw | reset =>
      exact trivial

variable (Source) in
/-- Two grids. -/
structure Pair where
  first : Grid Float Sample Source
  second : Grid Float Sample Source

namespace Pair

/--
A step of two grids: a frame of each, with a signal and a time of its own, or an
operation on one of them.
-/
inductive Step where
  | frames (signal shown : Array Sample) (now later : Number)
  | first (operation : Operation Sample)
  | second (operation : Operation Sample)

/-- Carries out a step. -/
def act (pair : Pair Source) : Step → Pair Source
  | .frames signal shown now later =>
      ⟨(pair.first.advance signal now).2, (pair.second.advance shown later).2⟩
  | .first operation => ⟨(pair.first.perform operation).2, pair.second⟩
  | .second operation => ⟨pair.first, (pair.second.perform operation).2⟩

/-- The two grids that a run leaves. -/
def run (pair : Pair Source) : List Step → Pair Source
  | [] => pair
  | step :: rest => run (pair.act step) rest

/--
At every position the scaled sample of the first grid is at most that of the
second.
-/
def IsScaledBelow (pair : Pair Source) (signal shown : Array Sample) : Prop :=
  ∀ position, position < pair.first.cells.size → ∃ product bound value limit,
    pair.first.scaledAt signal position = .ok product ∧
      pair.second.scaledAt shown position = .ok bound ∧
      product.toDouble = .ok value ∧ bound.toDouble = .ok limit ∧ value ≤ limit

/--
A frame with ordered scaled samples, or an operation that sets a parameter.
-/
def Allows (pair : Pair Source) : Step → Prop
  | .frames signal shown _ _ => pair.IsScaledBelow signal shown
  | .first operation | .second operation => operation.SetsParameter

/-- A run all of whose steps are of this kind. -/
def AllowsAll (pair : Pair Source) : List Step → Prop
  | [] => True
  | step :: rest => pair.Allows step ∧ AllowsAll (pair.act step) rest

/-- Two grids of equal size at the probabilistic level with equal sources. -/
structure IsCoupled (pair : Pair Source) : Prop where
  firstReachable : Reachable pair.first
  secondReachable : Reachable pair.second
  firstLevel : pair.first.level = .probabilistic
  secondLevel : pair.second.level = .probabilistic
  size : pair.second.cells.size = pair.first.cells.size
  source : pair.second.source = pair.first.source

variable {pair : Pair Source} {signal shown : Array Sample}

/-- In two coupled grids with ordered scaled samples every cell has one. -/
theorem IsCoupled.exists_scaled (coupled : pair.IsCoupled)
    (ordered : pair.IsScaledBelow signal shown) :
    (∀ position, position < pair.first.cells.size →
        ∃ product, pair.first.scaledAt signal position = .ok product) ∧
      ∀ position, position < pair.second.cells.size →
        ∃ bound, pair.second.scaledAt shown position = .ok bound := by
  constructor
  · intro position inside
    rcases ordered position inside with ⟨product, _, _, _, made, _⟩
    exact ⟨product, made⟩
  · intro position inside
    rcases ordered position (coupled.size ▸ inside) with
      ⟨_, bound, _, _, _, made, _⟩
    exact ⟨bound, made⟩

/-- Two grids stay coupled. -/
theorem IsCoupled.act (coupled : pair.IsCoupled) {step : Step}
    (allowed : pair.Allows step) : (pair.act step).IsCoupled := by
  cases step with
  | frames signal shown now later =>
      rcases coupled.exists_scaled allowed with ⟨firstMade, secondMade⟩
      have firstScaled :=
        coupled.firstReachable.advance_of_scaled coupled.firstLevel
          firstMade now
      have secondScaled :=
        coupled.secondReachable.advance_of_scaled coupled.secondLevel
          secondMade later
      exact
        { firstReachable :=
          coupled.firstReachable.perform (.advance signal now) trivial
          secondReachable :=
            coupled.secondReachable.perform (.advance shown later) trivial
          firstLevel := (level_advance ..).trans coupled.firstLevel
          secondLevel := (level_advance ..).trans coupled.secondLevel
          size := by
            change (pair.second.advance shown later).2.cells.size = _
            rw [secondScaled.1, coupled.size]
            exact firstScaled.1.symm
          source := by
            change (pair.second.advance shown later).2.source = _
            rw [secondScaled.2, coupled.size, coupled.source]
            exact firstScaled.2.symm }
  | first operation =>
      rcases pair.first.exists_settings_perform allowed with
        ⟨settings, performed⟩
      have reachable :=
        coupled.firstReachable.perform operation allowed.isIntegral
      rw [performed] at reachable
      rw [Pair.act, performed]
      exact { coupled with firstReachable := reachable }
  | second operation =>
      rcases pair.second.exists_settings_perform allowed with
        ⟨settings, performed⟩
      have reachable :=
        coupled.secondReachable.perform operation allowed.isIntegral
      rw [performed] at reachable
      rw [Pair.act, performed]
      exact { coupled with secondReachable := reachable }

/-- Wherever a run of two coupled grids has come, they are coupled. -/
theorem IsCoupled.run (coupled : pair.IsCoupled) {before after : List Step}
    (allowed : pair.AllowsAll (before ++ after)) :
    (pair.run before).IsCoupled ∧ (pair.run before).AllowsAll after := by
  induction before generalizing pair with
  | nil => exact ⟨coupled, allowed⟩
  | cons step rest ih => exact ih (coupled.act allowed.1) allowed.2

/--
A frame of two grids. Their sources are equal afterwards, and a cell that is on
in the first grid is on in the second, unless its scaled sample there is a
single that absorbs the fraction and the one here is a double.
-/
structure FrameFollows (pair : Pair Source) (signal shown : Array Sample)
    (now later : Number) : Prop where
  source : (pair.second.advance shown later).2.source =
    (pair.first.advance signal now).2.source
  states : ∀ (position : Nat) (cell other : Cell Sample),
    (pair.first.advance signal now).2.cells[position]? = some cell →
      (pair.second.advance shown later).2.cells[position]? = some other →
        (pair.first.advance signal now).1 = .ok () ∧
          (pair.second.advance shown later).1 = .ok () ∧
          ∃ product bound, pair.first.scaledAt signal position = .ok product ∧
            pair.second.scaledAt shown position = .ok bound ∧
            ((cell.state = true → other.state = true) ↔
              ¬ (cell.state = true ∧ product.isSingle = false ∧
                bound.Absorbs
                  (Random.fractionAfter pair.first.source position)))

theorem IsCoupled.frameFollows (coupled : pair.IsCoupled)
    (ordered : pair.IsScaledBelow signal shown) (now later : Number) :
    pair.FrameFollows signal shown now later := by
  have next : (pair.act (.frames signal shown now later)).IsCoupled :=
    coupled.act ordered
  refine ⟨next.source, ?_⟩
  intro position cell other found otherFound
  rcases coupled.exists_scaled ordered with ⟨firstScaled, secondScaled⟩
  have inside : position < pair.first.cells.size := by
    rw [← (coupled.firstReachable.advance_of_scaled coupled.firstLevel
      firstScaled now).1]
    exact (Array.getElem?_eq_some_iff.mp found).1
  rcases ordered position inside with
    ⟨product, bound, value, limit, made, boundMade, converted,
      boundConverted, atMost⟩
  rcases coupled.firstReachable.exists_completed_of_scaled coupled.firstLevel
    (nonempty_of_scaledAt made) firstScaled now with ⟨after, completed⟩
  rcases coupled.secondReachable.exists_completed_of_scaled coupled.secondLevel
    (nonempty_of_scaledAt boundMade) secondScaled
      later with ⟨afterSecond, secondCompleted⟩
  rw [completed] at found ⊢
  rw [secondCompleted] at otherFound ⊢
  refine ⟨rfl, rfl, product, bound, made, boundMade, ?_⟩
  rcases (coupled.firstReachable.drawsForEach
    coupled.firstLevel completed).states position cell
    found with ⟨_, _, again, convertedAgain, state⟩
  rw [made] at again
  cases again
  rw [converted] at convertedAgain
  cases convertedAgain
  rcases (coupled.secondReachable.drawsForEach coupled.secondLevel
    secondCompleted).states position other
    otherFound with ⟨_, _, again, convertedAgain, otherState⟩
  rw [boundMade] at again
  cases again
  rw [boundConverted] at convertedAgain
  cases convertedAgain
  rw [coupled.source] at otherState
  constructor
  · rintro follows ⟨on, -, absorbs⟩
    exact (otherState.mp (follows on)).2 absorbs
  · intro noException on
    rcases state.mp on with ⟨below, kept⟩
    refine otherState.mpr ⟨Double.lt_of_lt_of_le below atMost,
      fun absorbs => ?_⟩
    cases single : product.isSingle with
    | false => exact noException ⟨on, single, absorbs⟩
    | true =>
        have floating : product.IsFloating := by
          rcases bind_eq_ok_iff.mp made with ⟨sample, -, scaled⟩
          exact Sample.isFloating_of_mul scaled
        exact kept
          (absorbs.of_le floating single converted below boundConverted atMost)

end Pair

/--
In a run of two coupled grids, in which the scaled samples of the first are
nowhere above those of the second, each frame leaves equal sources, and every
cell that is on in the first grid is on in the second, unless a single absorbs
there what a double is above here.

For every source a cell whose scaled sample is at least one is on, unless it is
a single that absorbs the fraction, and a cell whose scaled sample is at most
zero is off.
-/
theorem states_coupled :
    (∀ (pair : Pair Source) (steps : List Pair.Step), pair.IsCoupled →
      pair.AllowsAll steps →
      ∀ (before after : List Pair.Step) (signal shown : Array Sample)
        (now later : Number),
        steps = before ++ .frames signal shown now later :: after →
          (pair.run before).FrameFollows signal shown now later) ∧
      ∀ (grid after : Grid Float Sample Source) (signal : Array Sample)
        (now : Number),
        Reachable grid → grid.level = .probabilistic →
          grid.advance signal now = (.ok (), after) →
            ∀ (position : Nat) (cell : Cell Sample),
              after.cells[position]? = some cell →
              ∃ product value, grid.scaledAt signal position = .ok product ∧
                product.toDouble = .ok value ∧
                (1.0 ≤ value → (cell.state = true ↔
                  ¬ product.Absorbs
                    (Random.fractionAfter grid.source position))) ∧
                (value ≤ 0.0 → cell.state = false) := by
  constructor
  · rintro pair _ coupled allowed before after signal shown now later rfl
    rcases coupled.run allowed with ⟨coupledThere, ordered, -⟩
    exact coupledThere.frameFollows ordered now later
  · intro grid after signal now reachable level completed position cell found
    rcases (reachable.drawsForEach level completed).states position cell
        found with
      ⟨product, value, made, converted, state⟩
    refine ⟨product, value, made, converted, fun large => ?_, fun small => ?_⟩
    · have below := Double.lt_of_lt_of_le
        (Sample.ofFraction_lt_one (Random.fractionAfter grid.source position))
          large
      rw [state]
      exact and_iff_right below
    · rw [← Bool.not_eq_true, state]
      rintro ⟨below, -⟩
      exact Double.not_lt_of_le
        (Double.le_trans small (Sample.zero_le_ofFraction _)) below

end Pairs

/-! ## A fraction close to one -/

/--
One cell that is on as often as its sample says, with a source whose first
fraction is high.
-/
def gamble : Grid Float Sample Random.Twister :=
  (empty .probabilistic { Settings.standard with probabilistic.scale := 1.0 }
    Rule.Standard.rules .diagonal
    ⟨(0x16d50a91 :: 0xb33a5c3c :: List.replicate 622 0).toArray, 0⟩).layOut 1 1

theorem reachable_gamble : Reachable gamble :=
  .make ⟨1, rfl⟩ ⟨1, rfl⟩
    (rfl : make (.int 1) (.int 1) (.int 3) (.int 8) gamble.settings
      gamble.rules gamble.source = .ok gamble)

/-- The cell twice. -/
def gambles : Pair Random.Twister :=
  ⟨gamble, gamble⟩

theorem isCoupled_gambles : gambles.IsCoupled :=
  ⟨reachable_gamble, reachable_gamble, rfl, rfl, rfl, rfl⟩

/--
The first of two cells is given a lower scale.  Then a double here is scaled to
less than a single there, and at the end the single one there is above the
fraction by itself.
-/
theorem states_coupled_gambles :
    ∃ (steps before : List Pair.Step) (signal shown : Array Sample)
      (after : Grid Float Sample Random.Twister),
      gambles.IsCoupled ∧ gambles.AllowsAll steps ∧
        steps = before ++ [.frames signal shown (.int 0) (.int 0)] ∧
        (gambles.run before).FrameFollows signal shown (.int 0) (.int 0) ∧
        gamble.advance shown (.int 0) = (.ok (), after) ∧
        ∀ (position : Nat) (cell : Cell Sample),
          after.cells[position]? = some cell →
          ∃ product value, gamble.scaledAt shown position = .ok product ∧
            product.toDouble = .ok value ∧
            (1.0 ≤ value → (cell.state = true ↔
              ¬ product.Absorbs
                (Random.fractionAfter gamble.source position))) ∧
            (value ≤ 0.0 → cell.state = false) := by
  let edit : Pair.Step :=
    .first (.assign (.text "probabilistic") (.text "probability_scale")
      (.double 0.5))
  let signal : Array Sample := #[.ofDouble 0.75]
  let shown : Array Sample := #[.single 1.0, .ofInt 2]
  have inOrder : (gambles.act edit).IsScaledBelow signal shown := by
    intro position inside
    have size : (gambles.act edit).first.cells.size = 1 := by decide +kernel
    rw [size, Nat.lt_one_iff] at inside
    subst inside
    exact ⟨_, _, _, _, rfl, rfl, rfl, rfl, by decide +kernel⟩
  have allowed :
      gambles.AllowsAll [edit, .frames signal shown (.int 0) (.int 0)] :=
    ⟨trivial, inOrder, trivial⟩
  have completed := eq_ok_of_isOk
    (by decide +kernel : (gamble.advance shown (.int 0)).1.isOk = true)
  exact ⟨_, [edit], signal, shown, _, isCoupled_gambles, allowed, rfl,
    states_coupled.1 gambles _ isCoupled_gambles allowed
      [edit] [] signal shown _ _ rfl, completed,
    states_coupled.2 gamble _ shown _ reachable_gamble rfl completed⟩

/--
With one plain double and one single, which are the same number, the first cell
is on and the second is off, although its scaled sample is one.
-/
theorem exists_coupled_off :
    ∃ (signal shown : Array Sample) (now : Number) (cell other : Cell Sample)
      (product : Sample) (value : Float),
      gambles.IsCoupled ∧ gambles.IsScaledBelow signal shown ∧
        gambles.second.scaledAt shown 0 = .ok product ∧
        product.toDouble = .ok value ∧
        1.0 ≤ value ∧
        (gambles.first.advance signal now).2.cells[0]? = some cell ∧
        (gambles.second.advance shown now).2.cells[0]? = some other ∧
        cell.state = true ∧ other.state = false := by
  let signal : Array Sample := #[.ofDouble 1.0]
  let shown : Array Sample := #[.single 1.0]
  have inOrder : gambles.IsScaledBelow signal shown := by
    intro position inside
    have size : gambles.first.cells.size = 1 := by decide +kernel
    rw [size, Nat.lt_one_iff] at inside
    subst inside
    exact ⟨_, _, _, _, rfl, rfl, rfl, rfl, by decide +kernel⟩
  have on : ((gambles.first.advance signal (.int 0)).2.cells[0]?.map fun cell =>
        cell.state) =
      some true := by
    decide +kernel
  have off :
      ((gambles.second.advance shown (.int 0)).2.cells[0]?.map fun cell =>
        cell.state) =
      some false := by
    decide +kernel
  rcases Option.map_eq_some_iff.mp on with ⟨cell, found, isOn⟩
  rcases Option.map_eq_some_iff.mp off with ⟨other, otherFound, isOff⟩
  exact ⟨signal, shown, .int 0, cell, other, _, _, isCoupled_gambles, inOrder,
    rfl, rfl, by decide +kernel, found, otherFound, isOn, isOff⟩

end Grid

end SoundGrid

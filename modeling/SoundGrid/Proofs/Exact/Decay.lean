import SoundGrid.Proofs.Exact.Smoothing
import SoundGrid.Proofs.Grid.Ripple

/-!
# Decay without rounding

A rule that lets a cell decay multiplies its value by a factor, and it turns the
cell off when the product falls below a floor.  Every frame compares its own
product only.  In exact arithmetic the products never rise as long as the factor
is at most one, so the last comparison decides about all of them: after a number
of such frames the cell is on when it was on before them and its value has not
fallen below the floor.

A cell therefore turns off once at most, in the first frame that brings its
value below the floor.
-/

namespace SoundGrid

variable {Real Source : Type} [Readable Real] [RandomSource Source]

/-! ## One decay -/

/-- The value that a decay leaves of a value. -/
def Exact.faded (settings : RuleSettings Real)
    (value : Exact Real) : Exact Real :=
  ⟨value.toRat * Readable.toRat settings.decayFactor⟩

namespace Cell

/-- The state that a decay leaves a cell. -/
def fadedState (settings : RuleSettings Real)
    (cell : Cell (Exact Real)) : Bool :=
  if decide ((Exact.faded settings cell.value).toRat <
    Readable.toRat settings.decayFloor) then
    false
  else
    cell.state

/-- The cell at the end of a frame that let it decay. -/
def fade (settings : RuleSettings Real) (now : Number)
    (cell : Cell (Exact Real)) : Cell (Exact Real) :=
  (cell.keepValue.put (Exact.faded settings cell.value)
    (cell.fadedState settings)).settle now

theorem fadedState_eq_true_iff {settings : RuleSettings Real}
    {cell : Cell (Exact Real)} :
    cell.fadedState settings = true ↔ cell.state = true ∧
      Readable.toRat settings.decayFloor ≤
        (Exact.faded settings cell.value).toRat := by
  rw [fadedState]
  by_cases faint :
      (Exact.faded settings cell.value).toRat <
        Readable.toRat settings.decayFloor
  · rw [if_pos (decide_eq_true faint)]
    exact ⟨fun impossible => (Bool.false_ne_true impossible).elim,
      fun both => absurd faint (not_lt.mpr both.2)⟩
  · rw [if_neg (fun decided => faint (of_decide_eq_true decided))]
    exact (and_iff_left (not_lt.mp faint)).symm

end Cell

theorem Action.apply_decay (settings : RuleSettings Real)
    (cell : Cell (Exact Real)) :
    (decay.apply cell settings : Chance Source (Exact Real × Bool)) =
      pure (Exact.faded settings cell.value, cell.fadedState settings) :=
  rfl

/-! ## One frame -/

namespace Grid

section Frames

variable {grid : Grid Real (Exact Real) Source} {signal : Array (Exact Real)}
  {position : Nat}

/--
The rule that is found for the cell at a position when the sweep of a frame
comes to it.
-/
def FindsRule (grid : Grid Real (Exact Real) Source)
    (signal : Array (Exact Real)) (position : Nat)
    (rule : Rule Real (Exact Real) Source) : Prop :=
  ∃ cells source cell neighbours reading rest,
    Swept grid (grid.frame signal) position cells source ∧
    cells[position]? = some cell ∧
      seenNeighbours grid.level grid.connectivity grid.rows grid.columns
          (cells.setIfInBounds position cell.keepValue) cell.keepValue =
            .ok neighbours ∧
        (grid.frame signal).reading cell.keepValue neighbours = .ok reading ∧
          Rule.firstMatch reading grid.rules source = .ok (some rule) rest

/-- A frame in which the first rule that holds at a cell lets it decay. -/
structure Fades (grid : Grid Real (Exact Real) Source)
    (signal : Array (Exact Real)) (position : Nat) : Prop where
  level : grid.level = .rules
  decays : ∃ rule, grid.FindsRule signal position rule ∧ rule.action = .decay

/-- Wherever a sweep comes to such a cell, it maps it so. -/
theorem Fades.mapCell (fades : grid.Fades signal position)
    {cells : Array (Cell (Exact Real))} {source : Source}
    {cell : Cell (Exact Real)}
    (swept : Swept grid (grid.frame signal) position cells source)
    (found : cells[position]? = some cell) :
    ∃ rest, mapCell grid (grid.frame signal)
      (cells.setIfInBounds position cell.keepValue) cell.keepValue source =
        .ok (cell.keepValue.put (Exact.faded grid.settings.rules cell.value)
          (cell.fadedState grid.settings.rules)) rest := by
  rcases fades.decays with
    ⟨rule, ⟨others, draws, other, neighbours, reading, rest, otherSwept,
      otherFound, counted, read, searched⟩, decays⟩
  rcases swept.unique otherSwept with ⟨rfl, rfl⟩
  rw [found] at otherFound
  cases otherFound
  refine ⟨rest, mapCell_eq_ok_iff.mpr
    ⟨neighbours, _, _, _, counted, ?_, Exact.store_eq _, rfl⟩⟩
  rw [fades.level, Level.map_rules read]
  refine Chance.bind_eq_ok_iff.mpr ⟨some rule, rest, searched, ?_⟩
  rcases Frame.exists_view_of_reading read with ⟨-, rippled, -, rfl⟩
  change rule.action.apply _ _ _ = _
  rw [decays, Action.apply_decay]
  rfl

/-- A completed frame leaves such a cell faded. -/
theorem Fades.found_advance (fades : grid.Fades signal position) {now : Number}
    (completed : (grid.advance signal now).1 = .ok ())
    {cell : Cell (Exact Real)} (found : grid.cells[position]? = some cell) :
    (grid.advance signal now).2.cells[position]? =
      some (cell.fade grid.settings.rules now) := by
  rcases advance_cases grid signal now with
    ⟨-, outcome⟩ | ⟨cells, source, swept, outcome⟩ |
    ⟨place, stopped, cells, fault, rest, -, outcome⟩
  · rw [outcome] at completed
    cases completed
  · have inside : position < grid.cells.size :=
      (Array.getElem?_eq_some_iff.mp found).1
    rcases swept.exists_passed inside with
      ⟨earlier, draws, old, mapped, left, before, oldFound, made, passed⟩
    rw [before.behind (Nat.le_refl position), found] at oldFound
    cases oldFound
    have own : earlier[position]? = some cell := by
      rw [before.behind (Nat.le_refl position), found]
    rcases fades.mapCell before own with ⟨rest, faded⟩
    rw [faded] at made
    rw [outcome]
    simp only [finished, Array.getElem?_map, passed, Option.map_some]
    rw [← (EStateM.Result.ok.inj made).1]
    rfl
  · rw [outcome] at completed
    cases completed

end Frames

end Grid

/-! ## A cell over many frames -/

variable (Real Source) in
/--
A cell that fades in so many completed frames, one after another. Between two of
them anything may be done that leaves the cell alone; each frame finds the same
factor and the same floor.
-/
structure Decay where
  position : Nat
  count : Nat
  /--
  The grids at the starts of the frames, and the one that is left behind the
  last.
  -/
  starts : Nat → Grid Real (Exact Real) Source
  /-- The signals of the frames and their times. -/
  frames : Nat → Array (Exact Real) × Number
  factor : ℚ
  floor : ℚ
  inside : position < (starts 0).cells.size
  fades : ∀ index < count, (starts index).Fades (frames index).1 position
  constant : ∀ index < count,
    Readable.toRat (starts index).settings.rules.decayFactor = factor ∧
      Readable.toRat (starts index).settings.rules.decayFloor = floor
  completed : ∀ index < count,
    ((starts index).advance (frames index).1 (frames index).2).1 = .ok ()
  continued : ∀ index < count, (starts (index + 1)).cells[position]? =
    ((starts index).advance (frames index).1
      (frames index).2).2.cells[position]?

namespace Decay

open Smoothing (TurnsOff)

variable {decay : Decay Real Source} {cells : Nat → Cell (Exact Real)}

/-- This is the cell at the starts of the frames and behind the last one. -/
def Traces (decay : Decay Real Source)
    (cells : Nat → Cell (Exact Real)) : Prop :=
  ∀ index ≤ decay.count, (decay.starts index).cells[decay.position]? =
    some (cells index)

/--
What a frame makes of the cell, wherever the frames before it have brought it.
-/
theorem found_succ (decay : Decay Real Source) {index : Nat}
    (before : index < decay.count) {cell : Cell (Exact Real)}
    (found : (decay.starts index).cells[decay.position]? = some cell) :
    (decay.starts (index + 1)).cells[decay.position]? =
      some (cell.fade (decay.starts index).settings.rules
        (decay.frames index).2) := by
  rw [decay.continued index before]
  exact (decay.fades index before).found_advance
    (decay.completed index before) found

theorem exists_traces (decay : Decay Real Source) :
    ∃ cells, decay.Traces cells := by
  have reached (index : Nat) : ∃ cell, index ≤ decay.count →
      (decay.starts index).cells[decay.position]? = some cell := by
    induction index with
    | zero => exact ⟨_, fun _ => Array.getElem?_eq_getElem decay.inside⟩
    | succ index ih =>
        rcases ih with ⟨cell, found⟩
        exact ⟨_, fun within =>
          decay.found_succ within (found (Nat.le_of_succ_le within))⟩
  choose cells found using reached
  exact ⟨cells, found⟩

/-! ## Step by step -/

section Steps

variable (traces : decay.Traces cells)
include traces

theorem Traces.succ {index : Nat} (before : index < decay.count) :
    cells (index + 1) =
      (cells index).fade (decay.starts index).settings.rules
        (decay.frames index).2 := by
  have faded := decay.found_succ before (traces index before.le)
  rw [traces (index + 1) before] at faded
  exact Option.some.inj faded

theorem Traces.value_succ {index : Nat} (before : index < decay.count) :
    (cells (index + 1)).value.toRat =
      (cells index).value.toRat * decay.factor := by
  rw [traces.succ before, ← (decay.constant index before).1]
  rfl

theorem Traces.state_succ {index : Nat} (before : index < decay.count) :
    (cells (index + 1)).state = true ↔
      (cells index).state = true ∧
      decay.floor ≤ (cells (index + 1)).value.toRat := by
  rw [traces.succ before, ← (decay.constant index before).2]
  exact Cell.fadedState_eq_true_iff

theorem Traces.previousState_succ {index : Nat} (before : index < decay.count) :
    (cells (index + 1)).previousState = (cells (index + 1)).state := by
  rw [traces.succ before]
  rfl

theorem Traces.lastOff_succ {index : Nat} (before : index < decay.count) :
    (cells (index + 1)).lastOff =
      if (cells index).previousState && !(cells (index + 1)).state then
        some (decay.frames index).2
      else (cells index).lastOff := by
  rw [traces.succ before]
  rfl

end Steps

/-! ## All frames together -/

/-- The value after so many frames. -/
def product (decay : Decay Real Source) (cells : Nat → Cell (Exact Real))
    (index : Nat) : ℚ :=
  (cells 0).value.toRat * decay.factor ^ index

/-- The frames that leave the value below the floor, counted from one. -/
def below (decay : Decay Real Source)
    (cells : Nat → Cell (Exact Real)) : Set Nat :=
  { index | 1 ≤ index ∧ decay.product cells index < decay.floor }

theorem product_antitone (decay : Decay Real Source)
    (notNegative : 0 ≤ (cells 0).value.toRat)
    (factor : decay.factor ∈ Set.Icc (0 : ℚ) 1) :
    Antitone (decay.product cells) := by
  intro first second ordered
  exact mul_le_mul_of_nonneg_left
    (pow_le_pow_of_le_one factor.1 factor.2 ordered) notNegative

/--
The first of them is the one before which the value was not yet below the floor.
-/
theorem isLeast_below_iff (decay : Decay Real Source)
    (notNegative : 0 ≤ (cells 0).value.toRat)
    (factor : decay.factor ∈ Set.Icc (0 : ℚ) 1) {index : Nat} :
    IsLeast (decay.below cells) (index + 1) ↔
      decay.product cells (index + 1) < decay.floor ∧
      (index ≠ 0 → decay.floor ≤ decay.product cells index) := by
  constructor
  · rintro ⟨⟨-, low⟩, least⟩
    refine ⟨low, fun later => not_lt.mp fun earlier => ?_⟩
    exact absurd (least ⟨Nat.pos_of_ne_zero later, earlier⟩)
      (Nat.not_succ_le_self index)
  · rintro ⟨low, before⟩
    refine ⟨⟨Nat.le_add_left 1 index, low⟩, ?_⟩
    rintro other ⟨positive, otherLow⟩
    by_contra earlier
    have within : other ≤ index := by omega
    have lower := decay.product_antitone notNegative factor within
    exact absurd ((before (by omega)).trans lower) (not_le.mpr otherLow)

/-- A factor below one brings every value below every floor above zero. -/
theorem below_nonempty (decay : Decay Real Source)
    (notNegative : 0 ≤ (cells 0).value.toRat)
    (factor : decay.factor ∈ Set.Icc (0 : ℚ) 1) (less : decay.factor < 1)
    (positive : 0 < decay.floor) : (decay.below cells).Nonempty := by
  rcases notNegative.eq_or_lt with zero | more
  · exact ⟨1, le_refl 1, by rwa [product, ← zero, zero_mul]⟩
  · rcases exists_pow_lt_of_lt_one (div_pos positive more) less with
      ⟨index, small⟩
    refine ⟨index + 1, Nat.le_add_left 1 index, ?_⟩
    calc decay.product cells (index + 1)
        ≤ decay.product cells index :=
          decay.product_antitone notNegative factor (Nat.le_succ index)
      _ < decay.floor := by
          rw [product, mul_comm]
          exact (lt_div_iff₀ more).mp small

section Steps

variable (traces : decay.Traces cells)
include traces

theorem Traces.value_eq {index : Nat} (within : index ≤ decay.count) :
    (cells index).value.toRat = decay.product cells index := by
  induction index with
  | zero => rw [product, pow_zero, mul_one]
  | succ index ih =>
      rw [traces.value_succ within, ih (Nat.le_of_succ_le within), product,
        product, pow_succ, mul_assoc]

/-- Once the cell is off it stays off. -/
theorem Traces.off_of_le {first second : Nat} (ordered : first ≤ second)
    (within : second ≤ decay.count) (off : (cells first).state = false) :
    (cells second).state = false := by
  induction second, ordered using Nat.le_induction with
  | base => exact off
  | succ second ordered ih =>
      have before := ih (Nat.le_of_succ_le within)
      rw [Bool.eq_false_iff, Ne, traces.state_succ within, before]
      exact fun both => Bool.false_ne_true both.1

variable (notNegative : 0 ≤ (cells 0).value.toRat)
  (factor : decay.factor ∈ Set.Icc (0 : ℚ) 1)
include notNegative factor

/--
The last product decides for those before it, since none of them is lower.
-/
theorem Traces.state_iff {index : Nat} (later : 1 ≤ index)
    (within : index ≤ decay.count) :
    (cells index).state = true ↔
      (cells 0).state = true ∧ decay.floor ≤ decay.product cells index := by
  induction index, later using Nat.le_induction with
  | base => rw [traces.state_succ within, traces.value_eq within]
  | succ index later ih =>
      rw [traces.state_succ within, traces.value_eq within,
        ih (Nat.le_of_succ_le within)]
      constructor
      · exact fun both => ⟨both.1.1, both.2⟩
      · intro both
        have lower :=
          decay.product_antitone notNegative factor (Nat.le_succ index)
        exact ⟨⟨both.1, both.2.trans lower⟩, both.2⟩

/--
So the cell turns off in the first frame that brings its value below the floor.
-/
theorem Traces.turnsOff_iff (on : (cells 0).state = true) {index : Nat}
    (before : index < decay.count) :
    TurnsOff cells index ↔ IsLeast (decay.below cells) (index + 1) ∧
      (index = 0 → (cells 0).previousState = true) := by
  have off {later : Nat} (within : later + 1 ≤ decay.count) :
      (cells (later + 1)).state = false ↔
        decay.product cells (later + 1) < decay.floor := by
    rw [Bool.eq_false_iff, Ne,
      traces.state_iff notNegative factor (Nat.le_add_left 1 later) within,
      not_and, not_le]
    exact forall_prop_of_true on
  rw [TurnsOff, off before, decay.isLeast_below_iff notNegative factor]
  cases index with
  | zero => exact ⟨fun both =>
      ⟨⟨both.2, fun later => absurd rfl later⟩, fun _ => both.1⟩,
        fun both => ⟨both.2 rfl, both.1.1⟩⟩
  | succ index =>
      have still : (cells (index + 1)).previousState = true ↔
          decay.floor ≤ decay.product cells (index + 1) := by
        rw [traces.previousState_succ (Nat.le_of_succ_le before), ← not_lt,
          ← off (Nat.le_of_succ_le before), Bool.not_eq_false]
      rw [still]
      exact ⟨fun both => ⟨⟨both.2, fun _ => both.1⟩, fun first => by omega⟩,
        fun both => ⟨both.1.2 (Nat.succ_ne_zero index), both.1.1⟩⟩

end Steps

/-- No cell turns off twice, for it would have to be on again. -/
theorem Traces.not_turnsOff_twice (traces : decay.Traces cells)
    {first second : Nat} (ordered : first < second)
    (within : second < decay.count) (firstOff : TurnsOff cells first)
    (secondOff : TurnsOff cells second) : False := by
  rcases Nat.exists_eq_add_of_lt ordered with ⟨between, rfl⟩
  have already :=
    traces.off_of_le (Nat.succ_le_of_lt ordered) within.le firstOff.2
  have on := secondOff.1
  rw [traces.previousState_succ (Nat.lt_of_succ_lt within), already] at on
  cases on

/--
How a cell fades. Its value is a product in closed form, which alone decides
whether the cell is still on; off it stays off. It turns off once at most, in
the first frame that brings its value below the floor, and that is what it
records. Without a floor nothing turns it off.
-/
structure Fading (decay : Decay Real Source)
    (cells : Nat → Cell (Exact Real)) : Prop where
  value :
    ∀ index ≤ decay.count, (cells index).value.toRat = decay.product cells index
  state : ∀ index, 1 ≤ index → index ≤ decay.count →
    ((cells index).state = true ↔
      (cells 0).state = true ∧ decay.floor ≤ decay.product cells index)
  staysOff : ∀ first second, first ≤ second → second ≤ decay.count →
    (cells first).state = false → (cells second).state = false
  offOnce : ∀ first < decay.count, ∀ second < decay.count,
    TurnsOff cells first → TurnsOff cells second → first = second
  offFirst : (cells 0).state = true → ∀ index < decay.count,
    (TurnsOff cells index ↔ IsLeast (decay.below cells) (index + 1) ∧
      (index = 0 → (cells 0).previousState = true))
  recorded : ∀ index < decay.count, (cells (index + 1)).lastOff =
    if (cells index).previousState && !(cells (index + 1)).state then
      some (decay.frames index).2
    else (cells index).lastOff
  vanishes : decay.factor < 1 → 0 < decay.floor → (decay.below cells).Nonempty ∧
    ∀ index ∈ decay.below cells, index ≤ decay.count →
      (cells index).state = false
  lasts : decay.floor = 0 →
    ∀ index ≤ decay.count, (cells index).state = (cells 0).state

/-- Every cell that is not below zero fades so. -/
theorem exists_fading (decay : Decay Real Source)
    (factor : decay.factor ∈ Set.Icc (0 : ℚ) 1)
    (notNegative : ∀ cell, (decay.starts 0).cells[decay.position]? = some cell →
      0 ≤ cell.value.toRat) :
    ∃ cells, decay.Traces cells ∧ decay.Fading cells := by
  rcases decay.exists_traces with ⟨cells, traces⟩
  have start : 0 ≤ (cells 0).value.toRat :=
    notNegative _ (traces 0 (Nat.zero_le _))
  have state (index : Nat) (later : 1 ≤ index) (within : index ≤ decay.count) :=
    traces.state_iff start factor later within
  refine ⟨cells, traces, fun index => traces.value_eq, state,
    fun first second => traces.off_of_le, ?_, fun on index =>
    traces.turnsOff_iff start factor on, fun index => traces.lastOff_succ,
    ?_, ?_⟩
  · intro first firstBefore second secondBefore firstOff secondOff
    rcases Nat.lt_trichotomy first second with before | same | behind
    · exact (traces.not_turnsOff_twice before secondBefore firstOff
        secondOff).elim
    · exact same
    · exact (traces.not_turnsOff_twice behind firstBefore secondOff
        firstOff).elim
  · intro less positive
    refine ⟨decay.below_nonempty start factor less positive, ?_⟩
    rintro index ⟨later, low⟩ within
    rw [Bool.eq_false_iff, Ne, state index later within]
    exact fun both => absurd low (not_lt.mpr both.2)
  · intro noFloor index within
    rcases index.eq_zero_or_pos with rfl | later
    · rfl
    · have above : decay.floor ≤ decay.product cells index := by
        rw [noFloor]
        exact mul_nonneg start (pow_nonneg factor.1 index)
      rw [Bool.eq_iff_iff, state index later within]
      exact and_iff_left above

/--
Settings with which values fade to a half, and a quarter is the least that is
on.
-/
def halving : Settings Float :=
  { Settings.standard with
    rules :=
      { Settings.standard.rules with decayFactor := 0.5, decayFloor := 0.25 } }

/-- A grid of one cell that fades. -/
def glowing (cell : Cell (Exact Float)) :
    Grid Float (Exact Float) Random.Twister :=
  { Grid.empty .rules halving [⟨"fade", .decay, fun _ => pure true⟩] .orthogonal
      (Random.Twister.ofSeed 0) with
    rows := 1, columns := 1
    cells := #[{ cell with index := 0, row := 0, column := 0 }] }

theorem fades_glowing (cell : Cell (Exact Float)) :
    (glowing cell).Fades #[⟨0⟩] 0 where
  level := rfl
  decays := ⟨_, ⟨_, _, _, 0, _, _, .start, rfl, rfl, rfl, rfl⟩, rfl⟩

theorem found_glowing (cell : Cell (Exact Float)) (now : Number) :
    ((glowing cell).advance #[⟨0⟩] now).2.cells[0]? =
      (glowing (cell.fade halving.rules now)).cells[0]? :=
  (fades_glowing cell).found_advance rfl rfl

/-- The cell after so many frames; at first it is on with a value of one. -/
def glow : Nat → Cell (Exact Float)
  | 0 => { Cell.fresh ⟨1⟩ 0 1 with state := true, previousState := true }
  | count + 1 => (glow count).fade halving.rules (.int count)

/-- Four frames. -/
def glowingOut : Decay Float Random.Twister where
  position := 0
  count := 4
  starts index := glowing (glow index)
  frames index := (#[⟨0⟩], .int index)
  factor := 1 / 2
  floor := 1 / 4
  inside := Nat.one_pos
  fades _ _ := fades_glowing _
  constant _ _ := by
    have factor : Readable.toRat (0.5 : Float) = 1 / 2 := by decide +kernel
    have floor : Readable.toRat (0.25 : Float) = 1 / 4 := by decide +kernel
    exact ⟨factor, floor⟩
  completed _ _ := rfl
  continued index _ := (found_glowing (glow index) (.int index)).symm

/-- The third frame turns the cell off, and that is recorded. -/
theorem exists_fading_glowingOut :
    glowingOut.factor ∈ Set.Icc (0 : ℚ) 1 ∧
      (∀ cell, (glowingOut.starts 0).cells[glowingOut.position]? = some cell →
        0 ≤ cell.value.toRat) ∧
      ∃ cells, glowingOut.Traces cells ∧ glowingOut.Fading cells ∧
        (cells 4).value.toRat = 1 / 16 ∧ TurnsOff cells 2 ∧
        (cells 3).lastOff = some (.int 2) := by
  have factor : glowingOut.factor ∈ Set.Icc (0 : ℚ) 1 := by
    constructor <;> norm_num [glowingOut]
  have notNegative :
      ∀ cell, (glowingOut.starts 0).cells[glowingOut.position]? = some cell →
      0 ≤ cell.value.toRat := by
    intro cell found
    cases found
    change (0 : ℚ) ≤ 1
    exact zero_le_one
  rcases exists_fading glowingOut factor notNegative with
    ⟨cells, traces, fading⟩
  have start : cells 0 = glow 0 :=
    (Option.some.inj (traces 0 (Nat.zero_le 4))).symm
  have product (index : Nat) :
      glowingOut.product cells index = (1 / 2) ^ index := by
    rw [Decay.product, start]
    exact one_mul _
  have on : (cells 0).state = true := by
    rw [start]
    rfl
  have least : IsLeast (glowingOut.below cells) 3 := by
    refine (glowingOut.isLeast_below_iff
      (notNegative _ (traces 0 (Nat.zero_le 4))) factor).mpr ?_
    rw [product, product]
    norm_num [glowingOut]
  have off : TurnsOff cells 2 :=
    (fading.offFirst on 2 (by decide)).mpr
      ⟨least, fun first => absurd first (by decide)⟩
  refine ⟨factor, notNegative, cells, traces, fading, ?_, off, ?_⟩
  · rw [fading.value 4 (Nat.le_refl 4), product]
    norm_num
  · rw [fading.recorded 2 (by decide), off.1, off.2]
    rfl

end Decay

end SoundGrid

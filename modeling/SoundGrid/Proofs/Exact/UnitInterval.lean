import SoundGrid.Proofs.Exact.Value
import SoundGrid.Proofs.Grid.Draws
import SoundGrid.Proofs.Grid.Edit

/-!
# Values between zero and one

No frame looks at whether a value lies between zero and one. In exact arithmetic
all values do when all samples do. A level keeps a value, replaces it by a
sample, goes a part of the way from it to a sample, or lets a rule multiply it
by a factor, and settings that were accepted have a part and a factor between
zero and one.

A frame that is refused leaves cells that it has mapped, one that has only kept
its value, and cells of the frame before.  So nothing needs to be completed for
this to hold, and it holds in the middle of a sweep as well.
-/

namespace SoundGrid

/-! ## New values -/

section Levels

variable {Real Value Source : Type} {frame : Frame Real Value Source}
  {cell : Cell Value} {neighbours : Int} {source rest : Source}
  {sample value : Value} {state : Bool}

theorem Frame.mem_of_sample {index : Int}
    (heard : frame.sample index = .ok sample) : sample ∈ frame.signal := by
  rw [Frame.sample] at heard
  split at heard
  · cases heard
  · exact mem_of_pick heard

variable [Arithmetic Real Value]

/-- Neighbours decide about the state only. -/
theorem Mapping.value_neighborhood
    {settings : NeighborhoodSettings Real} {before : Bool}
    (mapped : neighborhood settings sample before neighbours =
      .ok (value, state)) : value = sample := by
  rcases bind_eq_ok_iff.mp mapped with ⟨active, -, mapped⟩
  -- Whether the sample is loud decides only how the neighbours are compared.
  cases active
  all_goals
    rcases bind_eq_ok_iff.mp mapped with ⟨few, -, mapped⟩
    cases few with
    | true =>
        cases mapped
        rfl
    | false =>
        rcases bind_eq_ok_iff.mp mapped with ⟨inactive, -, mapped⟩
        cases inactive
        all_goals
          rcases bind_eq_ok_iff.mp mapped with ⟨many, -, mapped⟩
          cases mapped
          rfl

variable [RandomSource Source]

open Arithmetic (mul setting toward)

theorem Rule.value_step {rules : List (Rule Real Value Source)}
    {result : Value × Bool}
    (returned : step rules cell frame.signal frame.length frame.offset
      neighbours frame.settings.rules source = .ok result rest) :
    result.1 = cell.value ∨
      mul cell.value (setting frame.settings.rules.decayFactor) =
        .ok result.1 := by
  rw [step_eq] at returned
  rcases Chance.bind_eq_ok_iff.mp returned with
    ⟨reading, middle, lifted, followed⟩
  rcases Frame.exists_view_of_reading (Chance.lift_eq_ok_iff.mp lifted).1 with
    ⟨-, rippled, -, rfl⟩
  exact (value_follow followed).imp id And.left

/-- What the new value of a cell can be, whatever the level. -/
theorem Level.value_cases {level : Level}
    (mapped : level.map cell frame neighbours source =
      .ok (value, state) rest) :
    value = cell.value ∨ value ∈ frame.signal ∨
      (∃ sample ∈ frame.signal,
        toward cell.value sample (setting frame.settings.smoothed.smoothing) =
          .ok value) ∨
      mul cell.value (setting frame.settings.rules.decayFactor) =
        .ok value := by
  cases level with
  | direct =>
      rcases Chance.bind_eq_ok_iff.mp mapped with
        ⟨sample, middle, sampled, returned⟩
      have heard := frame.mem_of_sample (Chance.lift_eq_ok_iff.mp sampled).1
      rcases bind_eq_ok_iff.mp (Chance.lift_eq_ok_iff.mp returned).1 with
        ⟨isAbove, -, same⟩
      cases same
      exact Or.inr (Or.inl heard)
  | opacity =>
      rcases Chance.bind_eq_ok_iff.mp mapped with
        ⟨sample, middle, sampled, returned⟩
      have heard := frame.mem_of_sample (Chance.lift_eq_ok_iff.mp sampled).1
      cases (Chance.pure_eq_ok_iff.mp returned).1
      exact Or.inr (Or.inl heard)
  | smoothed =>
      rcases Chance.bind_eq_ok_iff.mp mapped with
        ⟨sample, middle, sampled, returned⟩
      have heard := frame.mem_of_sample (Chance.lift_eq_ok_iff.mp sampled).1
      rcases bind_eq_ok_iff.mp (Chance.lift_eq_ok_iff.mp returned).1 with
        ⟨moved, went, compared⟩
      rcases bind_eq_ok_iff.mp compared with ⟨isAbove, -, same⟩
      cases same
      exact Or.inr (Or.inr (Or.inl ⟨sample, heard, went⟩))
  | probabilistic =>
      rcases Level.map_probabilistic_eq_ok_iff.mp mapped with
        ⟨_, _, -, -, -, same, -⟩
      exact Or.inl same
  | entropy => exact Or.inl (Level.value_map_entropy mapped)
  | rules =>
      rcases Rule.value_step mapped with same | multiplied
      · exact Or.inl same
      · exact Or.inr (Or.inr (Or.inr multiplied))
  | neighborhood =>
      rcases Chance.bind_eq_ok_iff.mp mapped with
        ⟨sample, middle, sampled, returned⟩
      have heard := frame.mem_of_sample (Chance.lift_eq_ok_iff.mp sampled).1
      rw [Mapping.value_neighborhood (Chance.lift_eq_ok_iff.mp returned).1]
      exact Or.inr (Or.inl heard)

end Levels

/-! ## The unit interval -/

/-- A value from zero to one. -/
def Exact.InUnit {Real : Type} (value : Exact Real) : Prop :=
  value.toRat ∈ Set.Icc (0 : ℚ) 1

instance {Real : Type} (value : Exact Real) : Decidable value.InUnit :=
  inferInstanceAs (Decidable (value.toRat ∈ Set.Icc (0 : ℚ) 1))

/--
A cell whose value lies between zero and one, as it does now and as it did
before.
-/
structure Cell.InUnit {Real : Type} (cell : Cell (Exact Real)) : Prop where
  value : cell.value.InUnit
  previousValue : cell.previousValue.InUnit

theorem Cell.fresh_inUnit {Real : Type} [Readable Real] (index columns : Int) :
    (fresh (Arithmetic.zero : Exact Real) index columns).InUnit := by
  have zero : (Arithmetic.zero : Exact Real).InUnit :=
    Set.left_mem_Icc.mpr zero_le_one
  exact ⟨zero, zero⟩

namespace Exact

variable {Real : Type} [Readable Real] {current sample value : Exact Real}
  {given : Real}

open Arithmetic (mul setting toward)

/-- Between two numbers of the interval there are no others. -/
theorem InUnit.toward (part : Readable.toRat given ∈ Set.Icc (0 : ℚ) 1)
    (inUnit : current.InUnit) (heard : sample.InUnit)
    (went : toward current sample (setting given) = .ok value) :
    value.InUnit := by
  cases went
  have between := (convex_Icc (0 : ℚ) 1).add_smul_sub_mem inUnit heard part
  rwa [smul_eq_mul, mul_comm] at between

theorem InUnit.mul (factor : Readable.toRat given ∈ Set.Icc (0 : ℚ) 1)
    (inUnit : current.InUnit)
    (multiplied : mul current (setting given) = .ok value) : value.InUnit := by
  cases multiplied
  exact ⟨mul_nonneg inUnit.1 factor.1, mul_le_one₀ inUnit.2 factor.1 factor.2⟩

end Exact

namespace Settings

variable {settings : Settings Float}

theorem Valid.toRat_smoothing (valid : settings.Valid) :
    Readable.toRat settings.smoothed.smoothing ∈ Set.Icc (0 : ℚ) 1 := by
  rcases valid.admitted .smoothing with ⟨number, taken, same⟩
  change number = settings.smoothed.smoothing at same
  rw [← same]
  have positive : 0.0 < number := taken.inRange.1
  exact Number.Double.toRat_mem_Icc taken.finite
    ⟨Number.Double.le_of_lt positive, taken.inRange.2⟩

theorem Valid.toRat_decayFactor (valid : settings.Valid) :
    Readable.toRat settings.rules.decayFactor ∈ Set.Icc (0 : ℚ) 1 := by
  rcases valid.admitted .decayFactor with ⟨number, taken, same⟩
  change number = settings.rules.decayFactor at same
  rw [← same]
  exact Number.Double.toRat_mem_Icc taken.finite taken.inRange

end Settings

/-! ## Frames and operations -/

namespace Grid

variable {Source : Type} [RandomSource Source]
  {grid : Grid Float (Exact Float) Source}

theorem frameKeeps_inUnit (valid : grid.settings.Valid)
    {signal : Array (Exact Float)}
    (samples : ∀ sample ∈ signal, sample.InUnit) :
    FrameKeeps Cell.InUnit grid (grid.frame signal) where
  keepValue _ inUnit := ⟨inUnit.value, inUnit.value⟩
  settle _ _ inUnit := ⟨inUnit.value, inUnit.previousValue⟩
  mapped {seen old new source rest} inUnit made := by
    rcases mapCell_eq_ok_iff.mp made with
      ⟨neighbours, value, state, stored, -, mapped, kept, rfl⟩
    rw [Exact.store_eq] at kept
    cases kept
    refine ⟨?_, inUnit.value⟩
    change value.InUnit
    rcases Level.value_cases mapped with
      same | heard | ⟨sample, heard, went⟩ | multiplied
    · rw [same]
      exact inUnit.value
    · exact samples value heard
    · exact Exact.InUnit.toward valid.toRat_smoothing inUnit.value
        (samples sample heard) went
    · exact Exact.InUnit.mul valid.toRat_decayFactor inUnit.value multiplied

/-- An operation that brings no samples but those between zero and one. -/
def Operation.HearsUnit : Operation (Exact Float) → Prop
  | .advance signal _ => ∀ sample ∈ signal, sample.InUnit
  | _ => True

instance (operation : Operation (Exact Float)) :
    Decidable operation.HearsUnit :=
  match operation with
  | .advance signal _ =>
      inferInstanceAs (Decidable (∀ sample ∈ signal, sample.InUnit))
  | .setLevel _ | .setParameter .. | .assign .. | .shuffleRules | .draw
    | .resize .. | .reset =>
        .isTrue trivial

/--
The grids that come of a new one with valid settings if all samples lie between
zero and one.  The rules may be any, and they may be exchanged.
-/
inductive HeardUnit : Grid Float (Exact Float) Source → Prop where
  | make {rows columns level connectivity : Datum} {settings : Settings Float}
      {rules : List (Rule Float (Exact Float) Source)} {source : Source}
      {grid : Grid Float (Exact Float) Source} (valid : settings.Valid)
      (made : Grid.make rows columns level connectivity settings rules source =
        .ok grid) :
      HeardUnit grid
  | perform {grid : Grid Float (Exact Float) Source} (before : HeardUnit grid)
      (operation : Operation (Exact Float)) (hears : operation.HearsUnit) :
      HeardUnit (grid.perform operation).2
  | exchange {grid : Grid Float (Exact Float) Source} (before : HeardUnit grid)
      (rules : List (Rule Float (Exact Float) Source)) :
      HeardUnit { grid with rules }

theorem HeardUnit.run (heard : HeardUnit grid)
    {operations : List (Operation (Exact Float))}
    (hears : ∀ operation ∈ operations, operation.HearsUnit) :
    HeardUnit (grid.run operations) := by
  induction operations generalizing grid with
  | nil => exact heard
  | cons operation rest ih =>
      rcases List.forall_mem_cons.mp hears with ⟨own, others⟩
      exact ih (heard.perform operation own) others

theorem HeardUnit.valid (heard : HeardUnit grid) : grid.settings.Valid := by
  induction heard with
  | make valid made =>
      rw [settings_of_make made]
      exact valid
  | perform before operation hears ih =>
      rw [settings_perform]
      exact ih.edits _
  | exchange before rules ih => exact ih

theorem HeardUnit.everywhere (heard : HeardUnit grid) :
    Everywhere Cell.InUnit grid.cells := by
  induction heard with
  | make valid made =>
      rcases layOut_of_make made with ⟨before, newRows, newColumns, rfl⟩
      exact everywhere_newCells Cell.fresh_inUnit newRows newColumns
  | perform before operation hears ih =>
      refine ih.perform Cell.fresh_inUnit fun signal now advances => ?_
      rw [advances] at hears
      exact frameKeeps_inUnit before.valid hears
  | exchange before rules ih => exact ih

/--
Values lie between zero and one, and so do the values before them: in every grid
that comes of a new one, and wherever a sweep has come in its next frame.
-/
theorem everywhere_inUnit (heard : HeardUnit grid) :
    Everywhere Cell.InUnit grid.cells ∧
      ∀ signal : Array (Exact Float), (∀ sample ∈ signal, sample.InUnit) →
        ∀ (position : Nat) (cells : Array (Cell (Exact Float)))
          (source : Source),
          Swept grid (grid.frame signal) position cells source →
            Everywhere Cell.InUnit cells ∧
              ∀ cell, cells[position]? = some cell →
                Everywhere Cell.InUnit
                  (cells.setIfInBounds position cell.keepValue) := by
  refine ⟨heard.everywhere, ?_⟩
  intro signal samples position cells source swept
  have keeps := frameKeeps_inUnit heard.valid samples
  have mapped := swept.everywhere keeps heard.everywhere
  refine ⟨mapped, fun cell found => ?_⟩
  exact mapped.setIfInBounds
    (keeps.keepValue cell (mapped position cell found)) position

/-- Two new cells with smoothing, and a rule that lets every value decay. -/
def fading : Grid Float (Exact Float) Random.Twister :=
  (empty .smoothed .standard [⟨"fade", .decay, fun _ => pure true⟩] .orthogonal
    (Random.Twister.ofSeed 0)).layOut 1 2

/--
What is done to them.  Two changes of parameters are refused, and so are the
columns of the new shape, whose rows no longer fit the cells; the last frame
therefore gets stuck in its first cell.
-/
def fadingRun : List (Operation (Exact Float)) :=
  [.advance #[⟨1⟩, ⟨1 / 2⟩] (.int 0), .setLevel (.int 5), .shuffleRules,
    .setParameter (.text "decay_factor") (.double 0.5) .null,
    .setParameter (.text "decay_factor") (.double 1.5) .null,
    .assign (.text "smoothed") (.text "smoothing") (.int 0),
    .advance #[⟨1⟩] (.int 1), .resize (.int 3) (.undefined 0),
    .advance #[⟨0⟩] (.int 2)]

/--
The first cell has kept its value before it got stuck, and the second is as it
was.
-/
theorem everywhere_inUnit_fading :
    HeardUnit (fading.run fadingRun) ∧
      ((fading.run fadingRun).cells[0]?.map fun cell =>
        (cell.value.toRat, cell.previousValue.toRat)) = some (1 / 16, 1 / 16) ∧
      ((fading.run fadingRun).cells[1]?.map fun cell =>
        (cell.value.toRat, cell.previousValue.toRat)) = some (1 / 32, 1 / 16) ∧
      Everywhere Cell.InUnit (fading.run fadingRun).cells ∧
        ∀ signal : Array (Exact Float), (∀ sample ∈ signal, sample.InUnit) →
          ∀ (position : Nat) (cells : Array (Cell (Exact Float)))
            (source : Random.Twister),
            Swept (fading.run fadingRun) ((fading.run fadingRun).frame signal)
                position cells source →
              Everywhere Cell.InUnit cells ∧
                ∀ cell, cells[position]? = some cell →
                  Everywhere Cell.InUnit
                    (cells.setIfInBounds position cell.keepValue) := by
  have made :
      make (.int 1) (.int 2) (.int 2) (.int 4) fading.settings fading.rules
      fading.source = .ok fading := rfl
  have new : HeardUnit fading := .make Settings.valid_standard made
  have heard : HeardUnit (fading.run fadingRun) := new.run (by decide +kernel)
  exact ⟨heard, by decide +kernel, by decide +kernel, everywhere_inUnit heard⟩

end Grid

end SoundGrid

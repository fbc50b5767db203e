import SoundGrid.Proofs.Fault
import SoundGrid.Proofs.Grid.Call
import SoundGrid.Proofs.Grid.IndexOrder
import SoundGrid.Proofs.Number.Double

/-!
# Refused calls

Which calls leave a grid as it was when they are refused.  All calls but one
make their demands before they write, so their procedures are atomic.  A change
of shape sets the rows before it knows the columns, and so it breaks off with
new rows and old cells when the columns are a number without a whole part.
-/

namespace SoundGrid.Grid

/-! ## Dimensions -/

/-- A number without a whole part that is not below zero: a NaN, or infinity. -/
def IsBoundless (given : Datum) : Prop :=
  ∃ value : Float, given.number? = some (.double value) ∧
    (value.isNaN = true ∨ value.isInf = true ∧
      Number.Double.isNegative value = false)

/-- Dimensions pass the check when neither is below zero. -/
theorem checkDimensions_eq_ok_iff {rows columns : Datum} :
    checkDimensions rows columns = .ok () ↔
      isBelowZero rows = .ok false ∧ isBelowZero columns = .ok false := by
  rw [checkDimensions]
  cases isBelowZero rows with
  | error fault => simp [bind, Except.bind]
  | ok rowsBelow =>
      cases rowsBelow with
      | true => simp [bind, Except.bind, pure, Except.pure, throw, throwThe,
        MonadExceptOf.throw]
      | false =>
          cases isBelowZero columns with
          | error fault => simp [bind, Except.bind]
          | ok columnsBelow =>
              cases columnsBelow <;>
                simp [bind, Except.bind, pure, Except.pure, throw, throwThe,
                  MonadExceptOf.throw]

/-- Doubles without an exact value are the ones that have no extent. -/
theorem extent_double_refused_iff {given : Datum} {value : Float}
    (number : given.number? = some (.double value)) :
    (∃ fault, extent given = .error fault) ↔
      Number.Double.scaled? value = none := by
  rw [← Number.whole_refused_iff, extent, number]
  simp only [map_eq_error_iff]

/-- Of what is not below zero, the boundless numbers have no whole part. -/
theorem isBoundless_iff {given : Datum} :
    IsBoundless given ↔
      isBelowZero given = .ok false ∧ ∃ fault, extent given = .error fault := by
  constructor
  · rintro ⟨value, number, kind⟩
    have inexact : Number.Double.scaled? value = none :=
      Number.Double.scaled?_eq_none_iff.mpr (kind.imp id And.left)
    refine ⟨?_, (extent_double_refused_iff number).mpr inexact⟩
    rw [isBelowZero, number]
    simp only [Number.isBelow_zero_of_scaled?_eq_none inexact]
    rcases kind with undefined | ⟨-, positive⟩
    · rw [undefined]
      rfl
    · rw [positive, Bool.and_false]
  · rintro ⟨notBelow, refused⟩
    rcases number : given.number? with _ | ⟨value⟩ | ⟨value⟩
    · rw [isBelowZero, number] at notBelow
      cases notBelow
    · rcases extent_of_isInteger ⟨value, number⟩ with ⟨taken, extended⟩
      rcases refused with ⟨fault, impossible⟩
      rw [extended] at impossible
      cases impossible
    · have inexact := (extent_double_refused_iff number).mp refused
      refine ⟨value, number, ?_⟩
      rw [isBelowZero, number] at notBelow
      simp only [Number.isBelow_zero_of_scaled?_eq_none inexact,
        Except.ok.injEq] at notBelow
      rcases Number.Double.scaled?_eq_none_iff.mp inexact with
        undefined | infinite
      · exact Or.inl undefined
      · cases undefined : value.isNaN with
        | true => exact Or.inl rfl
        | false =>
            rw [undefined] at notBelow
            exact Or.inr ⟨infinite, by simpa using notBelow⟩

/-! ## Demands before writes -/

open Procedure

section Atomic

variable {Real Value Source : Type}

theorem isAtomic_levelling (level : Datum) :
    IsAtomic (levelling level :
      Procedure (Grid Real Value Source) (Answer Value)) := by
  refine (isReading_demand _).bind fun level => IsSafe.isAtomic ?_
  exact (isSafe_write _).bind fun _ => isSafe_pure _

theorem isAtomic_assigning (key name given : Datum) :
    IsAtomic (assigning key name given :
      Procedure (Grid Float Value Source) (Answer Value)) := by
  refine (isReading_demand _).bind fun level => ?_
  refine (isReading_demand _).bind fun parameter => ?_
  refine (isReading_demand _).bind fun settings => IsSafe.isAtomic ?_
  exact (isSafe_write _).bind fun _ => isSafe_pure _

theorem isAtomic_assigningAt (name given level : Datum) :
    IsAtomic
      (assigningAt name given level :
        Procedure (Grid Float Value Source) (Answer Value)) :=
  (isReading_demand _).bind fun level =>
    isAtomic_assigning (.text level.key) name given

end Atomic

variable {Value Source : Type} [Arithmetic Float Value]

/-- A call that asks for no other shape. -/
def Call.KeepsShape : Call Value → Prop
  | .resize .. => False
  | _ => True

/-- All calls but a change of shape are atomic. -/
theorem isAtomic_procedure {call : Call Value} (keepsShape : call.KeepsShape) :
    IsAtomic (call.procedure :
      Procedure (Grid Float Value Source) (Answer Value)) := by
  cases call with
  | resize rows columns => exact keepsShape.elim
  | setLevel level => exact isAtomic_levelling level
  | setParameter name given level => exact isAtomic_assigningAt name given level
  | assign key name given => exact isAtomic_assigning key name given
  | cellAt row column => exact (isReading_demand _).isAtomic
  | neighbourCount cell connectivity => exact (isReading_demand _).isAtomic
  | advanceEmpty now => exact (isReading_demand _).isAtomic

/-! ## Broken changes of shape -/

/-- A change of shape with new rows that can be set and columns that cannot. -/
def BreaksOff (grid : Grid Float Value Source) : Call Value → Prop
  | .resize rows columns =>
      ∃ newRows, isBelowZero rows = .ok false ∧ extent rows = .ok newRows ∧
        newRows ≠ grid.rows ∧ IsBoundless columns
  | _ => False

variable [RandomSource Source] {grid after : Grid Float Value Source}
  {call : Call Value} {fault : Fault}

/-- A change of shape that breaks off is refused, and leaves other rows. -/
theorem respond_of_breaksOff (breaksOff : grid.BreaksOff call) :
    ∃ fault after, grid.respond call = (.error fault, after) ∧
      after.rows ≠ grid.rows := by
  cases call with
  | resize rows columns =>
      rcases breaksOff with ⟨newRows, rowsNotBelow, rowsTaken, other, boundless⟩
      rcases isBoundless_iff.mp boundless with
        ⟨columnsNotBelow, fault, columnsRefused⟩
      have checked :=
        checkDimensions_eq_ok_iff.mpr ⟨rowsNotBelow, columnsNotBelow⟩
      have broken : grid.resize rows columns =
          (.error fault, { grid with rows := newRows }) := by
        simp only [resize, checked, rowsTaken, columnsRefused]
      refine ⟨fault, { grid with rows := newRows }, ?_, other⟩
      simp only [respond, carryOut, perform, broken]
      rfl
  | _ => exact breaksOff.elim

/-- A refused change of shape leaves everything, or everything but the rows. -/
theorem eq_or_breaksOff_of_resize {rows columns : Datum}
    (refused : grid.respond (.resize rows columns) = (.error fault, after)) :
    after = grid ∨ grid.BreaksOff (.resize rows columns) ∧
      ∃ newRows, after = { grid with rows := newRows } := by
  simp only [respond, carryOut, perform] at refused
  rcases grid.resize_cases rows columns with
    ⟨cause, outcome⟩ |
    ⟨newRows, cause, checked, rowsTaken, columnsRefused, outcome⟩ |
    ⟨newRows, newColumns, rowsTaken, columnsTaken, outcome⟩
  · rw [outcome] at refused
    cases refused
    exact Or.inl rfl
  · rw [outcome] at refused
    cases refused
    rcases checkDimensions_eq_ok_iff.mp checked with
      ⟨rowsNotBelow, columnsNotBelow⟩
    -- New rows that are the old ones do not show.
    by_cases same : newRows = grid.rows
    · subst same
      exact Or.inl rfl
    · right
      refine ⟨⟨newRows, rowsNotBelow, rowsTaken, same, ?_⟩, newRows, rfl⟩
      exact isBoundless_iff.mpr ⟨columnsNotBelow, _, columnsRefused⟩
  · rw [outcome] at refused
    cases refused

/--
A refused call leaves everything, or it is a change of shape that has broken
off.
-/
theorem eq_or_breaksOff_of_refused
    (refused : grid.respond call = (.error fault, after)) :
    after = grid ∨ grid.BreaksOff call ∧
      ∃ newRows, after = { grid with rows := newRows } := by
  by_cases keepsShape : call.KeepsShape
  · left
    rw [← outcome_procedure] at refused
    exact isAtomic_procedure keepsShape grid fault after refused
  · cases call with
    | resize rows columns => exact eq_or_breaksOff_of_resize refused
    | _ => exact absurd trivial keepsShape

/--
A refused call leaves the grid as it was, unless it is a change of shape that
breaks off; of that one nothing remains but another number of rows.
-/
theorem refused_unchanged_iff (grid : Grid Float Value Source)
    (call : Call Value) :
    ((∀ fault after, grid.respond call = (.error fault, after) → after = grid) ↔
        ¬ grid.BreaksOff call) ∧
      ∀ fault after, grid.respond call = (.error fault, after) →
        { after with rows := grid.rows } = grid := by
  constructor
  · constructor
    · intro unchanged breaksOff
      rcases respond_of_breaksOff breaksOff with ⟨fault, after, refused, other⟩
      rw [unchanged fault after refused] at other
      exact other rfl
    · intro whole fault after refused
      rcases eq_or_breaksOff_of_refused refused with same | ⟨breaksOff, -⟩
      · exact same
      · exact absurd breaksOff whole
  · intro fault after refused
    rcases eq_or_breaksOff_of_refused refused with rfl | ⟨-, newRows, rfl⟩
    · rfl
    · rfl

/--
Three rows and an undefined number of columns leave the square with three rows.
-/
theorem exists_refused_changed :
    ∃ fault after, Reachable square ∧
      square.respond (.resize (.int 3) (.double Number.Double.undefined)) =
        (.error fault, after) ∧ after ≠ square := by
  have breaksOff :
      square.BreaksOff (.resize (.int 3) (.double Number.Double.undefined)) :=
    ⟨3, rfl, rfl, by decide, _, rfl, Or.inl (by decide +kernel)⟩
  rcases respond_of_breaksOff breaksOff with ⟨fault, after, refused, other⟩
  refine ⟨fault, after, reachable_square, refused, ?_⟩
  intro same
  rw [same] at other
  exact other rfl

end SoundGrid.Grid

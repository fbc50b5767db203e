import SoundGrid.Grid

/-!
# Procedures

A procedure works on a state step by step.  It demands something of the state,
which may be refused, or it writes to the state.  Where it is refused it leaves
the state as far as it has been written, so the order of its steps can be seen
from outside.

A procedure is atomic when a refusal leaves the state that it was started on.
This is so when all of its demands stand before all of its writes, and the
lemmas of this module say just that for one step at a time.
-/

namespace SoundGrid

/-- A computation that writes to a state and may be refused on the way. -/
abbrev Procedure (State Result : Type) :=
  ExceptT Fault (StateM State) Result

namespace Procedure

variable {State First Second : Type}

/-- The result of a procedure and the state that it leaves. -/
def outcome (procedure : Procedure State First)
    (state : State) : Outcome State First :=
  procedure.run.run state

/-- Reads a result off the state, or is refused. -/
def demand (reading : State → Except Fault First) : Procedure State First :=
  ExceptT.mk fun state => (reading state, state)

/-- Changes the state. -/
def write (change : State → State) : Procedure State Unit :=
  ExceptT.mk fun state => (.ok (), change state)

@[simp]
theorem outcome_demand (reading : State → Except Fault First) (state : State) :
    outcome (demand reading) state = (reading state, state) :=
  rfl

@[simp]
theorem outcome_write (change : State → State) (state : State) :
    outcome (write change) state = (.ok (), change state) :=
  rfl

@[simp]
theorem outcome_pure (result : First) (state : State) :
    outcome (pure result : Procedure State First) state = (.ok result, state) :=
  rfl

/-- What follows a refused step is not carried out. -/
theorem outcome_bind (first : Procedure State First)
    (second : First → Procedure State Second) (state : State) :
    outcome (first >>= second) state =
      match outcome first state with
      | (.ok result, middle) => outcome (second result) middle
      | (.error fault, middle) => (.error fault, middle) := by
  unfold outcome
  rw [ExceptT.run_bind, StateT.run_bind]
  rcases first.run.run state with ⟨reply, middle⟩
  cases reply with
  | ok result => rfl
  | error fault => rfl

/-- A procedure that leaves every state alone. -/
def IsReading (procedure : Procedure State First) : Prop :=
  ∀ state, (outcome procedure state).2 = state

/-- A procedure that is never refused. -/
def IsSafe (procedure : Procedure State First) : Prop :=
  ∀ state, ∃ result after, outcome procedure state = (.ok result, after)

/-- A procedure that leaves the state alone when it is refused. -/
def IsAtomic (procedure : Procedure State First) : Prop :=
  ∀ state fault after, outcome procedure state = (.error fault, after) →
    after = state

theorem isReading_demand (reading : State → Except Fault First) :
    IsReading (demand reading) :=
  fun _ => rfl

theorem isSafe_write (change : State → State) : IsSafe (write change) :=
  fun state => ⟨(), change state, rfl⟩

theorem isSafe_pure (result : First) :
    IsSafe (pure result : Procedure State First) :=
  fun state => ⟨result, state, rfl⟩

variable {first : Procedure State First}
  {second : First → Procedure State Second}

theorem IsReading.isAtomic (reading : IsReading first) : IsAtomic first := by
  intro state fault after refused
  have left := reading state
  rw [refused] at left
  exact left

theorem IsSafe.isAtomic (safe : IsSafe first) : IsAtomic first := by
  intro state fault after refused
  rcases safe state with ⟨result, left, returned⟩
  rw [refused] at returned
  cases returned

theorem IsSafe.bind (safe : IsSafe first)
    (rest : ∀ result, IsSafe (second result)) : IsSafe (first >>= second) := by
  intro state
  rcases safe state with ⟨result, middle, returned⟩
  rw [outcome_bind, returned]
  exact rest result middle

/-- Demands may stand before anything that is atomic. -/
theorem IsReading.bind (reading : IsReading first)
    (rest : ∀ result, IsAtomic (second result)) :
    IsAtomic (first >>= second) := by
  intro state fault after refused
  have left := reading state
  rw [outcome_bind] at refused
  rcases started : outcome first state with ⟨reply, middle⟩
  rw [started] at left refused
  cases left
  cases reply with
  | ok result => exact rest result middle fault after refused
  | error cause =>
      cases refused
      rfl

end Procedure

end SoundGrid

import SoundGrid.Proofs.Fault
import SoundGrid.Sample

/-!
# Values without refusals

A value of a grid may be refused by the arithmetic: a text has no difference,
and some integers have no nearest double.  `Arithmetic.Total` says of a kind of
values that nothing which a mapping does with them is ever refused, and that
whatever a cell stores is of this kind.  Doubles and singles are such a kind,
whether they are given as they are or as elements of an array, and whether
they are finite or not.
-/

namespace SoundGrid

variable {Real Value : Type}

/-- A kind of values to which all belongs that a cell can store. -/
structure Arithmetic.Stores [Arithmetic Real Value]
    (sound : Value → Prop) : Prop where
  zero : sound Arithmetic.zero
  stored (value result : Value) :
    Arithmetic.store value = .ok result → sound result

/-- A kind of values on which the arithmetic of mappings is never refused. -/
structure Arithmetic.Total [Arithmetic Real Value] (sound : Value → Prop) : Prop
    extends Arithmetic.Stores sound where
  setting (given : Real) : sound (Arithmetic.setting given)
  fraction (drawn : Fraction) : sound (Arithmetic.fraction drawn)
  add (first second : Value) : sound first → sound second →
    ∃ result, Arithmetic.add first second = .ok result ∧ sound result
  sub (first second : Value) : sound first → sound second →
    ∃ result, Arithmetic.sub first second = .ok result ∧ sound result
  mul (first second : Value) : sound first → sound second →
    ∃ result, Arithmetic.mul first second = .ok result ∧ sound result
  less (first second : Value) : sound first → sound second →
    ∃ answer, Arithmetic.less first second = .ok answer
  countLess (number : Int) (given : Real) :
    ∃ answer, Arithmetic.less (Arithmetic.count number : Value)
      (Arithmetic.setting given) = .ok answer
  lessCount (given : Real) (number : Int) :
    ∃ answer, Arithmetic.less (Arithmetic.setting given : Value)
      (Arithmetic.count number) = .ok answer
  storable (value : Value) :
    sound value → ∃ stored, Arithmetic.store value = .ok stored

namespace Sample

/-- A double or a single, plain or from an array. -/
inductive IsFloating : Sample → Prop where
  | double (value : Float) : IsFloating (ofDouble value)
  | wide (value : Float) : IsFloating (.wide value)
  | single (value : Float32) : IsFloating (.single value)

theorem IsFloating.apply {first second : Sample} (operation : Operation)
    (firstFloating : first.IsFloating) (secondFloating : second.IsFloating) :
    ∃ result, Sample.apply operation first second = .ok result ∧
      result.IsFloating := by
  cases firstFloating with
  | double left =>
      cases secondFloating with
      | double right => exact ⟨_, rfl, .double _⟩
      | wide right => exact ⟨_, rfl, .wide _⟩
      | single right => exact ⟨_, rfl, .single _⟩
  | wide left =>
      cases secondFloating with
      | double right => exact ⟨_, rfl, .wide _⟩
      | wide right => exact ⟨_, rfl, .wide _⟩
      | single right => exact ⟨_, rfl, .wide _⟩
  | single left =>
      cases secondFloating with
      | double right => exact ⟨_, rfl, .single _⟩
      | wide right => exact ⟨_, rfl, .wide _⟩
      | single right => exact ⟨_, rfl, .single _⟩

theorem IsFloating.less {first second : Sample}
    (firstFloating : first.IsFloating) (secondFloating : second.IsFloating) :
    ∃ answer, Sample.less first second = .ok answer := by
  cases firstFloating with
  | double left => cases secondFloating <;> exact ⟨_, rfl⟩
  | wide left => cases secondFloating <;> exact ⟨_, rfl⟩
  | single left => cases secondFloating <;> exact ⟨_, rfl⟩

/-- A plain double, as cells store it. -/
def IsStored (sample : Sample) : Prop :=
  ∃ value : Float, sample = ofDouble value

theorem IsStored.isFloating {sample : Sample} (isStored : sample.IsStored) :
    sample.IsFloating := by
  rcases isStored with ⟨value, rfl⟩
  exact .double value

/-- Cells store plain doubles only. -/
theorem stores_isStored : Arithmetic.Stores IsStored where
  zero := ⟨_, rfl⟩
  stored value result kept := by
    rcases map_eq_ok_iff.mp kept with ⟨double, -, rfl⟩
    exact ⟨double, rfl⟩

/-- Among doubles and singles nothing is refused. -/
theorem total_isFloating : Arithmetic.Total IsFloating where
  zero := .double _
  setting given := .double given
  fraction drawn := .double _
  add _ _ first second := first.apply _ second
  sub _ _ first second := first.apply _ second
  mul _ _ first second := first.apply _ second
  less _ _ first second := first.less second
  countLess number given := ⟨_, rfl⟩
  lessCount given number := ⟨_, rfl⟩
  storable value floating := by cases floating <;> exact ⟨_, rfl⟩
  stored value result kept :=
    (stores_isStored.stored value result kept).isFloating

end Sample

end SoundGrid

import SoundGrid.Number.Arithmetic

/-!
# Doubles without an exact value

The NaN and the infinities are the doubles that are no number of halves and
doublings.  They have no whole part either, and among them only the negative
infinity is below zero.
-/

namespace SoundGrid.Number

namespace Double

/-- The doubles without an exact value are the NaN and the infinities. -/
theorem scaled?_eq_none_iff {value : Float} :
    scaled? value = none ↔ value.isNaN = true ∨ value.isInf = true := by
  change _ ↔ value.toModel.unpack.isNaN = true ∨
    value.toModel.unpack.isInf = true
  rw [scaled?]
  cases value.toModel.unpack with
  | finite sign mantissa exponent bounds =>
      constructor
      · intro impossible
        cases sign <;> cases impossible
      · rintro (impossible | impossible)
        · cases impossible
        · cases impossible
  | zero sign =>
      constructor
      · intro impossible
        cases impossible
      · rintro (impossible | impossible)
        · cases impossible
        · cases impossible
  | infinity sign => exact ⟨fun _ => Or.inr rfl, fun _ => rfl⟩
  | notANumber => exact ⟨fun _ => Or.inl rfl, fun _ => rfl⟩

/-- The others have one. -/
theorem isFinite_iff_scaled? {value : Float} :
    value.isFinite = true ↔ ∃ exact, scaled? value = some exact := by
  change value.toModel.unpack.isFinite = true ↔ _
  rw [scaled?]
  cases value.toModel.unpack with
  | finite sign mantissa exponent bounds =>
      refine iff_of_true rfl ?_
      cases sign
      · exact ⟨_, rfl⟩
      · exact ⟨_, rfl⟩
  | zero sign => exact iff_of_true rfl ⟨_, rfl⟩
  | infinity sign =>
      exact iff_of_false Bool.false_ne_true fun ⟨_, impossible⟩ =>
        nomatch impossible
  | notANumber => exact iff_of_false Bool.false_ne_true fun ⟨_, impossible⟩ =>
      nomatch impossible

end Double

/-- A whole part is refused where there is no exact value. -/
theorem whole_refused_iff {value : Float} :
    (∃ fault, (Number.double value).whole = .error fault) ↔
      Double.scaled? value = none := by
  simp only [whole, Double.truncate?]
  cases Double.scaled? value with
  | none => simp
  | some exact => simp

/--
Without an exact value a double is below zero when it is the negative infinity.
-/
theorem isBelow_zero_of_scaled?_eq_none {value : Float}
    (inexact : Double.scaled? value = none) :
    (Number.double value).isBelow (.int 0) =
      (!value.isNaN && Double.isNegative value) := by
  change (Double.compareInt value 0 == some .lt) = _
  rw [Double.compareInt]
  rw [inexact]
  cases value.isNaN with
  | true => rfl
  | false =>
      cases Double.isNegative value with
      | true => rfl
      | false => rfl

end SoundGrid.Number

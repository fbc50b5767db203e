import Mathlib

/-!
# Numerals in alphabetical order

Numerals of equal length are in alphabetical order as their numbers are by size,
and what stands behind them decides between equal ones. A numeral that is longer
than another one is compared by its first digits only, and these denote a
quotient.
-/

namespace SoundGrid.Text

/-- The number that some digits denote. -/
abbrev valueOf (digits : List Char) : ℕ :=
  Nat.ofDigitChars 10 digits 0

/-- All characters are decimal digits. -/
def AreDigits (digits : List Char) : Prop :=
  ∀ character ∈ digits, character.isDigit = true

variable {digits first second : List Char}

theorem AreDigits.of_cons {digit : Char}
    (areDigits : AreDigits (digit :: digits)) : AreDigits digits :=
  fun character isIn => areDigits character (List.mem_cons_of_mem digit isIn)

theorem AreDigits.append (areFirst : AreDigits first)
    (areSecond : AreDigits second) : AreDigits (first ++ second) := by
  intro character isIn
  rcases List.mem_append.mp isIn with isFirst | isSecond
  · exact areFirst character isFirst
  · exact areSecond character isSecond

theorem areDigits_toDigits (number : ℕ) : AreDigits (Nat.toDigits 10 number) :=
  fun _ isIn => Nat.isDigit_of_mem_toDigits (by decide) (by decide) isIn

/-- The number that one digit denotes. -/
def digitOf (digit : Char) : ℕ :=
  digit.toNat - '0'.toNat

theorem toNat_of_isDigit {digit : Char} (isDigit : digit.isDigit = true) :
    digit.toNat = 48 + digitOf digit ∧ digitOf digit ≤ 9 := by
  have inside : 48 ≤ digit.toNat ∧ digit.toNat ≤ 57 :=
    Char.isDigit_iff_toNat.mp isDigit
  have zero : '0'.toNat = 48 := rfl
  rw [digitOf]
  omega

theorem valueOf_cons (digit : Char) (digits : List Char) :
    valueOf (digit :: digits) =
      10 ^ digits.length * digitOf digit + valueOf digits := by
  rw [valueOf, Nat.ofDigitChars_cons, Nat.ofDigitChars_eq_ofDigitChars_zero,
    Nat.mul_zero, Nat.zero_add, digitOf]

theorem valueOf_append (first second : List Char) :
    valueOf (first ++ second) =
      10 ^ second.length * valueOf first + valueOf second := by
  rw [valueOf, Nat.ofDigitChars_append, Nat.ofDigitChars_eq_ofDigitChars_zero]

theorem valueOf_lt (areDigits : AreDigits digits) :
    valueOf digits < 10 ^ digits.length := by
  induction digits with
  | nil => exact Nat.one_pos
  | cons digit rest ih =>
      have small := (toNat_of_isDigit (areDigits digit List.mem_cons_self)).2
      have others := ih areDigits.of_cons
      rw [valueOf_cons, List.length_cons, Nat.pow_succ]
      have leading := Nat.mul_le_mul_left (10 ^ rest.length) small
      omega

/-- The first digits denote the quotient by the power of ten of the others. -/
theorem valueOf_take (areDigits : AreDigits digits) {count further : ℕ}
    (length : digits.length = count + further) :
    valueOf (digits.take count) = valueOf digits / 10 ^ further := by
  have areOthers : AreDigits (digits.drop count) := fun character isIn =>
    areDigits character (List.mem_of_mem_drop isIn)
  have others := valueOf_lt areOthers
  have isFurther : (digits.drop count).length = further := by
    rw [List.length_drop, length, Nat.add_sub_cancel_left]
  have split := valueOf_append (digits.take count) (digits.drop count)
  rw [List.take_append_drop, isFurther] at split
  rw [isFurther] at others
  rw [split, Nat.mul_add_div (by positivity), Nat.div_eq_of_lt others,
    Nat.add_zero]

/-! ## Order -/

/--
Of two numbers with the same last places the leading ones decide, and then the
last ones.
-/
theorem mul_add_lt_iff {size leading other last otherLast : ℕ}
    (small : last < size) (otherSmall : otherLast < size) :
    size * leading + last < size * other + otherLast ↔
      leading < other ∨ leading = other ∧ last < otherLast := by
  rcases lt_trichotomy leading other with less | rfl | greater
  · have apart := Nat.mul_le_mul_left size (Nat.succ_le_of_lt less)
    rw [Nat.mul_succ] at apart
    omega
  · omega
  · have apart := Nat.mul_le_mul_left size (Nat.succ_le_of_lt greater)
    rw [Nat.mul_succ] at apart
    omega

theorem mul_add_eq_iff {size leading other last otherLast : ℕ}
    (small : last < size) (otherSmall : otherLast < size) :
    size * leading + last = size * other + otherLast ↔
      leading = other ∧ last = otherLast := by
  constructor
  · intro equal
    have notLess : ¬ (leading < other ∨ leading = other ∧ last < otherLast) :=
      mt (mul_add_lt_iff small otherSmall).mpr equal.not_lt
    have notGreater :
        ¬ (other < leading ∨ other = leading ∧ otherLast < last) :=
      mt (mul_add_lt_iff otherSmall small).mpr equal.not_gt
    omega
  · rintro ⟨rfl, rfl⟩
    rfl

theorem lt_iff_digitOf_lt {digit other : Char} (isDigit : digit.isDigit = true)
    (otherIsDigit : other.isDigit = true) :
    digit < other ↔ digitOf digit < digitOf other := by
  have own := (toNat_of_isDigit isDigit).1
  have others := (toNat_of_isDigit otherIsDigit).1
  have byNumber : digit < other ↔ digit.toNat < other.toNat := Iff.rfl
  rw [byNumber]
  omega

theorem eq_iff_digitOf_eq {digit other : Char} (isDigit : digit.isDigit = true)
    (otherIsDigit : other.isDigit = true) :
    digit = other ↔ digitOf digit = digitOf other := by
  have own := (toNat_of_isDigit isDigit).1
  have others := (toNat_of_isDigit otherIsDigit).1
  rw [← Char.toNat_inj]
  omega

/--
Numerals of equal length are ordered by their numbers, and equal ones by what is
behind.
-/
theorem append_lt_append_iff (same : first.length = second.length)
    (areFirst : AreDigits first) (areSecond : AreDigits second)
    {behind other : List Char} :
    first ++ behind < second ++ other ↔
      valueOf first < valueOf second ∨ valueOf first = valueOf second ∧
      behind < other := by
  induction first generalizing second with
  | nil =>
      rw [List.length_nil, eq_comm, List.length_eq_zero_iff] at same
      rw [same]
      simp
  | cons digit rest ih =>
      cases second with
      | nil => cases same
      | cons otherDigit otherRest =>
          have sameRest : rest.length = otherRest.length := Nat.succ.inj same
          have isDigit := areFirst digit List.mem_cons_self
          have otherIsDigit := areSecond otherDigit List.mem_cons_self
          have small := valueOf_lt areFirst.of_cons
          have otherSmall := valueOf_lt areSecond.of_cons
          rw [sameRest] at small
          rw [List.cons_append, List.cons_append, List.cons_lt_cons_iff,
            ih sameRest areFirst.of_cons areSecond.of_cons,
            lt_iff_digitOf_lt isDigit otherIsDigit, eq_iff_digitOf_eq isDigit
              otherIsDigit, valueOf_cons, valueOf_cons, sameRest,
            mul_add_lt_iff small otherSmall, mul_add_eq_iff small otherSmall]
          tauto

end SoundGrid.Text

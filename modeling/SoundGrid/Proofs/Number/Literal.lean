import SoundGrid.Number.Literal
import SoundGrid.Proofs.Text.Numeral

/-!
# Digits that are read

Among the ASCII characters only the digits from zero to nine count as digits,
and they keep their meaning while a text is prepared for reading. So a text of
such digits is read as the number that it denotes, with zeros in front or
without, unless it has too many of them.
-/

namespace SoundGrid

/-! ## ASCII digits -/

namespace Text

/-- A range that is found is one of those searched, and holds the code point. -/
theorem Ranges.mem_of_findBetween {ranges : Ranges}
    {code low high : Nat} {range : Nat × Nat}
    (found : ranges.findBetween code low high = some range) :
    range ∈ ranges ∧ range.1 ≤ code ∧ code ≤ range.2 := by
  fun_induction Ranges.findBetween ranges code low high with
  | case1 => cases found
  | case2 low high further middle first last here before ih => exact ih found
  | case3 low high further middle first last here notBefore behind ih =>
      exact ih found
  | case4 low high further middle first last here notBefore notBehind =>
      cases found
      exact ⟨Array.mem_of_getElem? here, Nat.le_of_not_lt notBefore,
        Nat.le_of_not_lt notBehind⟩
  | case5 => cases found

/-- The digits that are no decimal digits lie beyond ASCII. -/
theorem otherDigits_holds_of_ascii {character : Char}
    (ascii : character.toNat < 128) : otherDigits.holds character = false := by
  have beyond : ∀ range ∈ otherDigits, 128 ≤ range.1 := by decide +kernel
  rw [Ranges.holds]
  cases found : otherDigits.find? character with
  | none => rfl
  | some range =>
      rcases Ranges.mem_of_findBetween found with ⟨isOther, starts, -⟩
      exact absurd (beyond range isOther) (by omega)

theorem digitValue?_of_isDigit {character : Char}
    (digit : character.isDigit = true) :
    digitValue? character = some (digitOf character) := by
  have inside : '0' ≤ character ∧ character ≤ '9' :=
    Char.isDigit_iff_toNat.mp digit
  rw [digitValue?, if_pos inside, digitOf]

theorem isDigit_of_ascii {character : Char} (ascii : character.toNat < 128) :
    isDigit character = character.isDigit := by
  rw [isDigit, otherDigits_holds_of_ascii ascii, Bool.or_false]
  cases digit : character.isDigit with
  | true =>
      rw [digitValue?_of_isDigit digit]
      rfl
  | false =>
      have outside : ¬ ('0' ≤ character ∧ character ≤ '9') := fun inside =>
        absurd (Char.isDigit_iff_toNat.mpr inside)
          (by rw [digit]; exact Bool.false_ne_true)
      rw [digitValue?, if_neg outside, if_pos ascii]
      rfl

theorem isBlank_of_isDigit {character : Char}
    (digit : character.isDigit = true) : isBlank character = false := by
  have inside := toNat_of_isDigit digit
  simp only [isBlank, Bool.or_eq_false_iff, Bool.and_eq_false_iff,
    decide_eq_false_iff_not, beq_eq_false_iff_ne]
  omega

/-- There is nothing to take away from the ends of digits. -/
theorem trim_of_digits {text : List Char}
    (digits : AreDigits text) : trim text = text := by
  have stays {text : List Char} (digits : AreDigits text) :
      text.dropWhile isBlank = text := by
    rw [List.dropWhile_eq_self_iff]
    intro nonempty
    rw [isBlank_of_isDigit (digits _ (List.getElem_mem nonempty))]
    exact Bool.false_ne_true
  have backwards : AreDigits text.reverse := fun character isIn =>
    digits character (List.mem_reverse.mp isIn)
  rw [trim, stays digits, stays backwards, List.reverse_reverse]

end Text

/-! ## Integers -/

namespace Number.Literal

open SoundGrid.Text

variable {text : List Char}

theorem plainDigits_of_digits (digits : AreDigits text) :
    plainDigits text = text := by
  rw [plainDigits, List.map_congr_left (g := id), List.map_id]
  intro character isIn
  have digit := digits character isIn
  have inside := toNat_of_isDigit digit
  rw [digitValue?_of_isDigit digit]
  apply Char.toNat_inj.mp
  change (Nat.digitChar (digitOf character)).toNat = character.toNat
  rw [Nat.toNat_digitChar_of_lt_ten (by omega), inside.1]

theorem takeSign_of_digits (digits : AreDigits text) :
    takeSign text = (false, text) := by
  unfold takeSign
  split
  · exact absurd (digits '-' List.mem_cons_self) (by decide)
  · exact absurd (digits '+' List.mem_cons_self) (by decide)
  · rfl

theorem dropUnderscores_of_digits {previous : Char}
    (notUnderscore : previous ≠ '_') (digits : AreDigits text) :
    dropUnderscores previous text = some text := by
  induction text generalizing previous with
  | nil => rw [dropUnderscores, if_neg (by simpa using notUnderscore)]
  | cons character rest ih =>
      have notThis : character ≠ '_' := by
        rintro rfl
        exact absurd (digits '_' List.mem_cons_self) (by decide)
      rw [dropUnderscores.eq_3 previous character rest notThis,
        ih notThis digits.of_cons]
      simp [notUnderscore]

/-- Digits that are not too many are read as the number that they denote. -/
theorem integer_of_digits {text : String} (nonempty : text ≠ "")
    (digits : AreDigits text.toList) (short : text.length ≤ longestInteger) :
    integer text = .ok (valueOf text.toList) := by
  have allInRun : ∀ character ∈ text.toList, isInRun character = true :=
    fun character isIn => by
    rw [isInRun, digits character isIn, Bool.true_or]
  have run : text.toList.takeWhile isInRun = text.toList :=
    List.takeWhile_eq_self_iff.mpr allInRun
  have notEmpty : text.toList.isEmpty = false := by simpa using nonempty
  have inRun : text.toList.all isInRun = true := List.all_eq_true.mpr allInRun
  rw [integer, trim_of_digits digits, plainDigits_of_digits digits,
    takeSign_of_digits digits]
  dsimp only
  rw [run, dropUnderscores_of_digits (by decide) digits]
  dsimp only
  rw [if_neg (by rw [String.length_toList]; omega), notEmpty, inRun]
  rfl

end Number.Literal

end SoundGrid

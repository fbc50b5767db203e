import SoundGrid.Command.Plan
import SoundGrid.Proofs.Datum.Record
import SoundGrid.Proofs.Text.Numeral

/-!
# Names of pictures

The name of a picture has five digits for the index of the frame, and more when
five do not suffice. So the names are different, and they are in the order of
the frames as long as five digits suffice, and among names of equal length. A
longer name is compared by its leading digits with a shorter one, and comes too
early if these denote less.
-/

namespace SoundGrid.Plan

open SoundGrid.Text

/--
The digits in the name of a picture: those of the index, with zeros in front.
-/
def paddedDigits (index : ℕ) : List Char :=
  List.replicate (5 - (Nat.toDigits 10 index).length) '0' ++
    Nat.toDigits 10 index

/-- The number of digits in the name of a picture. -/
def nameWidth (index : ℕ) : ℕ :=
  max 5 (Nat.toDigits 10 index).length

theorem length_paddedDigits (index : ℕ) :
    (paddedDigits index).length = nameWidth index := by
  rw [paddedDigits, List.length_append, List.length_replicate, nameWidth]
  omega

theorem areDigits_paddedDigits (index : ℕ) :
    AreDigits (paddedDigits index) := by
  refine AreDigits.append (fun character isIn => ?_) (areDigits_toDigits index)
  rw [List.eq_of_mem_replicate isIn]
  rfl

theorem valueOf_paddedDigits (index : ℕ) :
    valueOf (paddedDigits index) = index := by
  rw [paddedDigits, valueOf, Nat.ofDigitChars_append,
    Nat.ofDigitChars_replicate_zero, mul_zero, Nat.ofDigitChars_ten_toDigits]

theorem toList_frameName (index : ℕ) :
    (frameName index).toList =
      "frame_".toList ++ (paddedDigits index ++ ".png".toList) := by
  have digits : (toString index).toList = Nat.toDigits 10 index := by simp
  have length : (toString index).length = (Nat.toDigits 10 index).length := by
    rw [← String.length_toList, digits]
  simp only [frameName, String.toList_append, Document.toList_pushn, digits,
    length, String.toList_empty, List.nil_append, paddedDigits,
    List.append_assoc]

/-- Different frames have pictures with different names. -/
theorem frameName_injective : Function.Injective frameName := by
  intro index other same
  have texts := congrArg String.toList same
  rw [toList_frameName, toList_frameName, List.append_cancel_left_eq,
    List.append_cancel_right_eq] at texts
  rw [← valueOf_paddedDigits index, texts, valueOf_paddedDigits]

/-! ## Order -/

theorem frameName_lt_iff_digits {index later : ℕ} :
    frameName index < frameName later ↔
      paddedDigits index ++ ".png".toList <
        paddedDigits later ++ ".png".toList := by
  rw [String.lt_iff, toList_frameName, toList_frameName]
  simp

/-- Names have at most so many digits as long as these suffice for the index. -/
theorem nameWidth_le_iff {index count : ℕ} (enough : 5 ≤ count) :
    nameWidth index ≤ count ↔ index < 10 ^ count := by
  rw [nameWidth, max_le_iff, and_iff_right enough,
    Nat.length_toDigits_le_iff (by decide) (by omega)]

theorem five_le_nameWidth (index : ℕ) : 5 ≤ nameWidth index :=
  le_max_left 5 _

/-- Later frames have names that are no shorter. -/
theorem nameWidth_mono {index later : ℕ} (ordered : index ≤ later) :
    nameWidth index ≤ nameWidth later :=
  (nameWidth_le_iff (five_le_nameWidth later)).mpr
    (ordered.trans_lt
      ((nameWidth_le_iff (five_le_nameWidth later)).mp (le_refl _)))

theorem nameWidth_eq_five {index : ℕ}
    (few : index < 100000) : nameWidth index = 5 :=
  le_antisymm ((nameWidth_le_iff (le_refl 5)).mpr few) (five_le_nameWidth index)

/--
What follows the digits of a shorter name comes before every further digit.
-/
theorem ending_lt_iff {further : List Char} (areDigits : AreDigits further) :
    ".png".toList < further ++ ".png".toList ↔ further ≠ [] := by
  cases further with
  | nil => simp
  | cons digit rest =>
      have isDigit := (toNat_of_isDigit (areDigits digit List.mem_cons_self)).1
      have before : '.' < digit := by
        have byNumber : '.' < digit ↔ '.'.toNat < digit.toNat := Iff.rfl
        have dot : '.'.toNat = 46 := rfl
        rw [byNumber, isDigit]
        omega
      have dotted : ".png".toList = '.' :: "png".toList := rfl
      rw [dotted, List.cons_append, List.cons_lt_cons_iff]
      exact iff_of_true (Or.inl before) (List.cons_ne_nil digit rest)

/--
A later frame has a later name exactly if its leading digits do not denote less.
-/
theorem frameName_lt_iff {index later : ℕ} (ordered : index < later) :
    frameName index < frameName later ↔
      index ≤ later / 10 ^ (nameWidth later - nameWidth index) := by
  have wider := nameWidth_mono ordered.le
  have length : (paddedDigits later).length =
      nameWidth index + (nameWidth later - nameWidth index) := by
    rw [length_paddedDigits, Nat.add_sub_cancel' wider]
  have areDigits := areDigits_paddedDigits later
  have areLeading : AreDigits ((paddedDigits later).take (nameWidth index)) :=
    fun character isIn =>
    areDigits character (List.mem_of_mem_take isIn)
  have areFurther : AreDigits ((paddedDigits later).drop (nameWidth index)) :=
    fun character isIn =>
    areDigits character (List.mem_of_mem_drop isIn)
  have same : (paddedDigits index).length =
      ((paddedDigits later).take (nameWidth index)).length := by
    rw [length_paddedDigits, List.length_take, length]
    omega
  rw [frameName_lt_iff_digits,
    ← List.take_append_drop (nameWidth index) (paddedDigits later),
    List.append_assoc,
    append_lt_append_iff same (areDigits_paddedDigits index) areLeading,
    valueOf_paddedDigits, valueOf_take areDigits length, valueOf_paddedDigits,
    ending_lt_iff areFurther, ne_eq, List.drop_eq_nil_iff, length_paddedDigits]
  -- names of equal length are ordered anyway, and a longer one goes on where
  -- the other ends
  rcases Nat.eq_or_lt_of_le wider with equal | less
  · rw [equal, Nat.sub_self, pow_zero, Nat.div_one]
    omega
  · rw [and_iff_left (by omega), le_iff_lt_or_eq]

/-! ## Listings -/

/--
The names of the first frames are in alphabetical order as long as five digits
suffice.
-/
theorem sorted_frameNames_iff {total : ℕ} :
    ((List.range total).map frameName).mergeSort =
        (List.range total).map frameName ↔
      total ≤ 100000 := by
  constructor
  · intro sorted
    by_contra more
    have pairwise :=
      List.pairwise_mergeSort' (· ≤ ·) ((List.range total).map frameName)
    rw [sorted, List.pairwise_map, List.pairwise_iff_getElem] at pairwise
    have after :=
      pairwise 99999 100000 (by simp; omega) (by simp; omega) (by decide)
    rw [List.getElem_range, List.getElem_range] at after
    have strictly := lt_of_le_of_ne after (frameName_injective.ne (by decide))
    rw [frameName_lt_iff (by decide)] at strictly
    revert strictly
    decide +kernel
  · intro few
    refine List.mergeSort_eq_self (· ≤ ·) ?_
    rw [List.pairwise_map]
    refine List.pairwise_lt_range.imp_of_mem fun firstIn laterIn ordered => ?_
    have first := nameWidth_eq_five ((List.mem_range.mp firstIn).trans_le few)
    have later := nameWidth_eq_five ((List.mem_range.mp laterIn).trans_le few)
    refine le_of_lt ((frameName_lt_iff ordered).mpr ?_)
    rw [first, later, Nat.sub_self, pow_zero, Nat.div_one]
    exact ordered.le

end SoundGrid.Plan

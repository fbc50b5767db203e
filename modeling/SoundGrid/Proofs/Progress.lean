import Mathlib
import SoundGrid.Progress
import SoundGrid.Proofs.Datum.Record
import SoundGrid.Proofs.Playback.Run
import SoundGrid.Proofs.Text.Numeral

/-!
# What is printed in a run

A run reports on each of its frames, in order. Where a line is printed for every
tenth part of them, the lines are those of the multiples of one number, and one
of the last frame. On a terminal the bar grows from report to report, is full
with the last frame and not before, and only then the line ends.
-/

namespace SoundGrid.Progress

/-- What is printed for some reports. -/
def printed (terminal : Bool) (reports : List (ℕ × ℤ)) : String :=
  String.join (reports.map fun report => text terminal report.1 report.2)

variable {done total : ℕ}

/-! ## Lines -/

/-- The line for a number of frames. -/
def line (total done : ℕ) : String :=
  s!"  frames {done}/{total}\n"

/-- The distance of the frames with lines. -/
def stride (total : ℕ) : ℕ :=
  max 1 (total / 10)

theorem stride_pos (total : ℕ) : 0 < stride total :=
  lt_max_of_lt_left Nat.one_pos

theorem interval_natCast (total : ℕ) : interval total = stride total := by
  rw [interval, stride, Nat.cast_max]
  rfl

theorem isReported_iff :
    isReported done total = true ↔ total ≤ done ∨ stride total ∣ done := by
  rw [isReported, Bool.or_eq_true, decide_eq_true_eq, beq_iff_eq,
    interval_natCast, ← Int.dvd_iff_emod_eq_zero]
  norm_cast

/--
A line is printed for the frames that are reported, and nothing for the others.
-/
theorem text_false (positive : 0 < total) :
    text false done total = if total ≤ done ∨
      stride total ∣ done then line total done else "" := by
  have same : max (total : ℤ) 1 = total := max_eq_left (by omega)
  rw [text, same, if_neg Bool.false_ne_true]
  simp only [isReported_iff]
  rfl

/--
Texts that are printed under a condition are the texts of those that meet it.
-/
theorem join_map_ite {Item : Type} (items : List Item) (isMet : Item → Prop)
    [DecidablePred isMet] (write : Item → String) :
    String.join (items.map fun item => if isMet item then write item else "") =
      String.join ((items.filter isMet).map write) := by
  induction items with
  | nil => rfl
  | cons item rest ih =>
      rw [List.map_cons, String.join_cons, ih, List.filter_cons]
      by_cases met : isMet item
      · simp [met]
      · simp [met]

/-- The multiples among the first numbers. -/
theorem filter_dvd_range' (step count : ℕ) :
    (List.range' 1 count).filter (step ∣ ·) =
      (List.range' 1 (count / step)).map (step * ·) := by
  induction count with
  | zero => simp
  | succ count ih =>
      rw [List.range'_1_concat, List.filter_append, ih, Nat.succ_div,
        Nat.add_comm 1 count]
      by_cases divides : step ∣ count + 1
      · have next : step * (1 + count / step) = count + 1 := by
          have same := Nat.mul_div_cancel' divides
          rw [Nat.succ_div, if_pos divides] at same
          rw [Nat.add_comm 1]
          exact same
        simp [divides, List.range'_1_concat, next]
      · simp [divides]

/--
The frames with lines: the multiples before the last frame, and the last frame.
-/
def reported (total : ℕ) : List ℕ :=
  (List.range' 1 ((total - 1) / stride total)).map (stride total * ·) ++ [total]

theorem filter_reported (positive : 0 < total) :
    (List.range' 1 total).filter
      (fun done => total ≤ done ∨ stride total ∣ done) =
      reported total := by
  obtain ⟨before, rfl⟩ : ∃ before, total = before + 1 := ⟨total - 1, by omega⟩
  have early : (List.range' 1 before).filter
        (fun done => before + 1 ≤ done ∨ stride (before + 1) ∣ done) =
      (List.range' 1 before).filter (stride (before + 1) ∣ ·) := by
    refine List.filter_congr fun done isIn => ?_
    have small : ¬ before + 1 ≤ done := by
      rw [List.mem_range'_1] at isIn
      omega
    simp [small]
  rw [reported, List.range'_1_concat, List.filter_append, early,
    filter_dvd_range', Nat.add_comm 1, Nat.add_sub_cancel]
  simp

/-- A run prints the lines of its reported frames. -/
theorem printed_false (positive : 0 < total) :
    printed false (Run.reportsOn total total) =
      String.join ((reported total).map (line total)) := by
  have reports : Run.reportsOn total total =
      (List.range' 1 total).map fun done => (done, (total : ℤ)) := by
    rw [Run.reportsOn, List.range'_eq_map_range, List.map_map]
    exact List.map_congr_left fun index _ => by
      rw [Function.comp_apply, Nat.add_comm]
  rw [printed, reports, List.map_map, ← filter_reported positive,
    ← join_map_ite]
  exact congrArg String.join (List.map_congr_left fun done _ =>
    text_false positive)

/--
What is known of the frames with lines: there is a part of all frames for each
of them, they ascend, all but the last one are multiples of the part, and the
last one is the last of all frames.
-/
structure IsLog (total : ℕ) (counts : List ℕ) : Prop where
  length : counts.length = total ⌈/⌉ stride total
  ascending : counts.Pairwise (· < ·)
  multiples : ∀ count ∈ counts.dropLast, stride total ∣ count
  last : counts.getLast? = some total
  once : counts.count total = 1
  all_of_few : total < 10 → counts = List.range' 1 total
  length_of_many : 10 ≤ total → 10 ≤ counts.length ∧ counts.length ≤ 19

theorem length_reported (positive : 0 < total) :
    (reported total).length = total ⌈/⌉ stride total := by
  have wide := stride_pos total
  have shifted : total + stride total - 1 = total - 1 + stride total := by omega
  rw [Nat.ceilDiv_eq_add_pred_div, shifted, Nat.add_div_right _ wide, reported]
  simp

theorem pairwise_reported (positive : 0 < total) :
    (reported total).Pairwise (· < ·) := by
  have wide := stride_pos total
  rw [reported, List.pairwise_append, List.pairwise_map]
  refine ⟨?_, List.pairwise_singleton _ _, ?_⟩
  · exact (List.pairwise_lt_range').imp fun less =>
      Nat.mul_lt_mul_of_pos_left less wide
  · intro count isMultiple last isLast
    rcases List.mem_map.mp isMultiple with ⟨factor, isIn, rfl⟩
    rw [List.mem_range'_1] at isIn
    rw [List.mem_singleton.mp isLast]
    have within : stride total * factor ≤ total - 1 :=
      (Nat.mul_le_mul_left _ (by omega)).trans
        (Nat.mul_div_le (total - 1) (stride total))
    omega

theorem isLog_reported (positive : 0 < total) :
    IsLog total (reported total) where
  length := length_reported positive
  ascending := pairwise_reported positive
  multiples := by
    intro count isIn
    rw [reported, List.dropLast_concat] at isIn
    rcases List.mem_map.mp isIn with ⟨factor, -, rfl⟩
    exact Nat.dvd_mul_right _ _
  last := by rw [reported, List.getLast?_concat]
  once := by
    have isIn : total ∈ reported total :=
      List.mem_append_right _ (List.mem_singleton_self total)
    exact List.count_eq_one_of_mem
      ((pairwise_reported positive).imp Nat.ne_of_lt) isIn
  all_of_few := by
    intro few
    have single : stride total = 1 := by
      rw [stride]
      omega
    rw [← filter_reported positive, single]
    simp
  length_of_many := by
    intro many
    have wide : stride total = total / 10 := max_eq_right (by omega)
    rw [length_reported positive, Nat.ceilDiv_eq_add_pred_div, wide]
    constructor
    · rw [Nat.le_div_iff_mul_le (by omega)]
      omega
    · rw [← Nat.lt_succ_iff, Nat.div_lt_iff_lt_mul (by omega)]
      omega

/-! ## Characters -/

/-- A number is written in digits only. -/
theorem count_toString {character : Char} (notDigit : character.isDigit = false)
    (number : ℕ) : (toString number).toList.count character = 0 := by
  rw [List.count_eq_zero, Nat.toString_eq_ofList_toDigits, String.toList_ofList]
  intro isIn
  rw [Text.areDigits_toDigits number character isIn] at notDigit
  cases notDigit

/-- A line ends once. -/
theorem count_line (total done : ℕ) :
    (line total done).toList.count '\n' = 1 := by
  have plain := @count_toString '\n' rfl
  have own (text : String) : toString text = text := rfl
  simp only [line, String.toList_append, List.count_append, plain, own]
  rfl

/-! ## The bar -/

/-- The ticks of the bar that are seen for a number of frames. -/
def shownTicks (done total : ℕ) : ℕ :=
  (text true done total).toList.count '='

/-- The line on a terminal, without its end. -/
def openLine (done total : ℕ) : String :=
  let bar := padRight 30 ("".pushn '=' (done * 30 / total))
  s!"\r  frames {padLeft 6 (toString done)}/{total} |{bar}|"

theorem toNat_ticks (done total : ℕ) :
    (ticks done total).toNat = done * 30 / total := by
  rw [ticks, barLength]
  norm_cast

/-- The line ends with the last frame. -/
theorem text_true (positive : 0 < total) :
    text true done total = openLine done total ++ if total ≤ done then "\n"
      else "" := by
  have same : max (total : ℤ) 1 = total := max_eq_left (by omega)
  rw [text, same, if_pos rfl]
  delta terminalLine
  simp only [toNat_ticks, Nat.cast_le]
  rfl

theorem count_padLeft {character : Char} (notBlank : character ≠ ' ')
    (width : ℕ) (text : String) :
    (padLeft width text).toList.count character =
      text.toList.count character := by
  have different : (' ' == character) = false := by simpa using notBlank.symm
  rw [padLeft, String.toList_append, Document.toList_pushn, List.count_append,
    List.count_append, List.count_replicate, different]
  simp

theorem count_padRight {character : Char} (notBlank : character ≠ ' ')
    (width : ℕ) (text : String) :
    (padRight width text).toList.count character =
      text.toList.count character := by
  have different : (' ' == character) = false := by simpa using notBlank.symm
  rw [padRight, Document.toList_pushn, List.count_append, List.count_replicate,
    different]
  simp

/--
Where a character is no digit and no blank, the line has it in its bar or its
frame.
-/
theorem count_openLine {character : Char} (notDigit : character.isDigit = false)
    (notBlank : character ≠ ' ') :
    (openLine done total).toList.count character =
      "\r  frames / ||".toList.count character +
        (List.replicate (done * 30 / total) '=').count character := by
  have own (text : String) : toString text = text := rfl
  have frame : "\r  frames / ||".toList =
      "\r  frames ".toList ++ "/".toList ++ " |".toList ++ "|".toList := rfl
  delta openLine
  simp only [frame, String.toList_append, List.count_append, own,
    count_toString notDigit, count_padLeft notBlank, count_padRight notBlank,
    Document.toList_pushn, String.toList_empty, List.nil_append]
  omega

/-- The ticks are those of the frame. -/
theorem shownTicks_eq (positive : 0 < total) :
    shownTicks done total = done * 30 / total := by
  have ending : (if total ≤ done then "\n" else "").toList.count '=' = 0 := by
    split <;> rfl
  rw [shownTicks, text_true positive, String.toList_append, List.count_append,
    ending, count_openLine rfl (by decide), List.count_replicate_self]
  simp

theorem newline_notMem_openLine : '\n' ∉ (openLine done total).toList := by
  rw [← List.count_eq_zero, count_openLine rfl (by decide),
    List.count_replicate]
  simp

/--
What is known of the bar over a run: it never loses ticks, it has no more than
thirty of them, and it has as many with the last frame and not before.
-/
structure Fills (total : ℕ) : Prop where
  mono :
    ∀ done later, done ≤ later → shownTicks done total ≤ shownTicks later total
  atMost : ∀ done ≤ total, shownTicks done total ≤ 30
  full_iff : ∀ done ≤ total, shownTicks done total = 30 ↔ done = total

theorem fills (positive : 0 < total) : Fills total where
  mono := by
    intro done later ordered
    rw [shownTicks_eq positive, shownTicks_eq positive]
    exact Nat.div_le_div_right (Nat.mul_le_mul_right 30 ordered)
  atMost := by
    intro done within
    rw [shownTicks_eq positive]
    exact Nat.div_le_of_le_mul (Nat.mul_le_mul_right 30 within)
  full_iff := by
    intro done within
    rw [shownTicks_eq positive]
    constructor
    · intro full
      have enough := Nat.div_mul_le_self (done * 30) total
      rw [full] at enough
      omega
    · rintro rfl
      exact Nat.mul_div_cancel_left 30 positive

/-- On a terminal a run prints one line, which ends with its last report. -/
theorem exists_printed_true (positive : 0 < total) :
    ∃ front, printed true (Run.reportsOn total total) = front ++ "\n" ∧
      '\n' ∉ front.toList := by
  obtain ⟨before, rfl⟩ : ∃ before, total = before + 1 := ⟨total - 1, by omega⟩
  let opened (index : ℕ) : String := openLine (index + 1) (before + 1)
  refine ⟨String.join ((List.range (before + 1)).map opened), ?_, ?_⟩
  · have early : (List.range before).map
          (fun index =>
            text true ((index + 1 : ℕ) : ℤ) ((before + 1 : ℕ) : ℤ)) =
        (List.range before).map opened := by
      refine List.map_congr_left fun index isIn => ?_
      rw [List.mem_range] at isIn
      rw [text_true positive, if_neg (by omega), String.append_empty]
    have last : text true ((before + 1 : ℕ) : ℤ) ((before + 1 : ℕ) : ℤ) =
        opened before ++ "\n" := by
      rw [text_true positive, if_pos (le_refl _)]
    rw [printed, Run.reportsOn, List.map_map, List.range_succ, List.map_append,
      List.map_append, String.join_append, String.join_append,
      String.append_assoc]
    have joined : String.join ([before].map opened) ++ "\n" =
        String.join ([before].map fun index =>
          text true ((index + 1 : ℕ) : ℤ) ((before + 1 : ℕ) : ℤ)) := by
      rw [List.map_singleton, List.map_singleton, last, String.join_cons,
        String.join_cons, String.join_nil, String.append_empty,
        String.append_empty]
    rw [joined, ← early]
    rfl
  · rw [String.toList_join, List.mem_flatMap]
    rintro ⟨shown, isShown, isIn⟩
    rcases List.mem_map.mp isShown with ⟨index, -, rfl⟩
    exact newline_notMem_openLine isIn

/--
Over a run of some frames, where the output is no terminal, the lines are those
of a log of the run, and so are the ends of lines. On a terminal the bar fills,
and what is printed ends the line once, as the last character.
-/
theorem reports_whole_run (positive : 0 < total) :
    (∃ counts, IsLog total counts ∧
        printed false (Run.reportsOn total total) =
          String.join (counts.map (line total)) ∧
        (printed false (Run.reportsOn total total)).toList.count '\n' =
          total ⌈/⌉ stride total) ∧
      Fills total ∧
      ∃ front, printed true (Run.reportsOn total total) = front ++ "\n" ∧
        '\n' ∉ front.toList := by
  have isLog := isLog_reported positive
  have prints := printed_false positive
  refine ⟨⟨reported total, isLog, prints, ?_⟩, fills positive,
    exists_printed_true positive⟩
  have single : ∀ count ∈ reported total,
      (List.count '\n' ∘ fun count => (line total count).toList) count = 1 :=
    fun count _ => count_line total count
  rw [prints, ← isLog.length, String.toList_join, List.flatMap_map,
    List.count_flatMap, List.map_congr_left single, List.map_const',
    List.sum_replicate, smul_eq_mul, mul_one]

/-- Of twenty-three frames every second one has a line, and the last one. -/
theorem reports_whole_run_twentyThree :
    0 < 23 ∧ (printed false (Run.reportsOn 23 23)).toList.count '\n' = 12 ∧
      shownTicks 22 23 < 30 ∧ shownTicks 23 23 = 30 := by
  rcases reports_whole_run (by decide : 0 < 23) with
    ⟨⟨counts, -, -, ends⟩, fills, -⟩
  refine ⟨by decide, ends.trans rfl, ?_,
    (fills.full_iff 23 (le_refl 23)).mpr rfl⟩
  have notFull : shownTicks 22 23 ≠ 30 := fun full =>
    absurd ((fills.full_iff 22 (by decide)).mp full) (by decide)
  exact lt_of_le_of_ne (fills.atMost 22 (by decide)) notFull

end SoundGrid.Progress

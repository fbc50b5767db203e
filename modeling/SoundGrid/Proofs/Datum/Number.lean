import SoundGrid.Datum.Document
import SoundGrid.Proofs.Fault

/-!
# Numbers inside documents

A number that is read from a text of its own is read as the same number where
that text stands inside another one, as long as what follows cannot belong to a
number.  All parts of a number are taken as far as they go, so each of them ends
at the same place in both texts.
-/

namespace SoundGrid.Document

/-- Whether a character can belong to a number. -/
def isNumeric (character : Char) : Bool :=
  character.isDigit || character == '.' || character == 'e' || character ==
    'E' || character == '+' || character == '-'

/-- A text that does not go on with a number. -/
def EndsNumber (text : List Char) : Prop :=
  ∀ character tail, text = character :: tail → isNumeric character = false

theorem endsNumber_nil : EndsNumber [] := by
  intro character tail impossible
  cases impossible

theorem endsNumber_cons {character : Char} {tail : List Char}
    (other : isNumeric character = false) : EndsNumber (character :: tail) := by
  rintro _ _ ⟨⟩
  exact other

/-! ## The parts of a number -/

variable {text rest : List Char}

theorem takeDigits_of_endsNumber (ends : EndsNumber rest) :
    takeDigits rest = ([], rest) := by
  cases rest with
  | nil => rfl
  | cons character tail =>
      have other := ends character tail rfl
      have notDigit : character.isDigit = false := by
        simp only [isNumeric, Bool.or_eq_false_iff] at other
        exact other.1.1.1.1.1
      simp [takeDigits, notDigit]

theorem takeDigits_append (ends : EndsNumber rest) :
    takeDigits (text ++ rest) =
      ((takeDigits text).1, (takeDigits text).2 ++ rest) := by
  induction text with
  | nil => exact takeDigits_of_endsNumber ends
  | cons character tail ih =>
      simp only [takeDigits, Prod.mk.injEq] at ih ⊢
      by_cases digit : character.isDigit = true
      · simp [digit, ih]
      · simp [digit]

theorem takeWhole_of_ne {character : Char} {tail : List Char}
    (other : character ≠ '0') :
    takeWhole (character :: tail) = takeDigits (character :: tail) := by
  rw [takeWhole]
  rintro _ ⟨⟩
  exact other rfl

theorem takeWhole_append (ends : EndsNumber rest) :
    takeWhole (text ++ rest) =
      ((takeWhole text).1, (takeWhole text).2 ++ rest) := by
  cases text with
  | nil =>
      cases rest with
      | nil => rfl
      | cons character tail =>
          have notZero : character ≠ '0' := by
            rintro rfl
            cases ends '0' tail rfl
          exact (takeWhole_of_ne notZero).trans (takeDigits_of_endsNumber ends)
  | cons character tail =>
      by_cases zero : character = '0'
      · subst zero
        rfl
      · rw [List.cons_append, takeWhole_of_ne zero, takeWhole_of_ne zero,
          ← List.cons_append]
        exact takeDigits_append ends

theorem takeFraction_of_ne {character : Char} {tail : List Char}
    (other : character ≠ '.') :
    takeFraction (character :: tail) = (none, character :: tail) := by
  rw [takeFraction]
  rintro _ ⟨⟩
  exact other rfl

theorem takeFraction_append (ends : EndsNumber rest) :
    takeFraction (text ++ rest) =
      ((takeFraction text).1, (takeFraction text).2 ++ rest) := by
  cases text with
  | nil =>
      cases rest with
      | nil => rfl
      | cons character tail =>
          have notPoint : character ≠ '.' := by
            rintro rfl
            cases ends '.' tail rfl
          exact takeFraction_of_ne notPoint
  | cons character tail =>
      by_cases point : character = '.'
      · subst point
        simp only [List.cons_append, takeFraction, takeDigits_append ends]
        split <;> rfl
      · rw [List.cons_append, takeFraction_of_ne point,
          takeFraction_of_ne point, List.cons_append]

theorem takeExponent_append (ends : EndsNumber rest) :
    takeExponent (text ++ rest) =
      ((takeExponent text).1, (takeExponent text).2 ++ rest) := by
  cases text with
  | nil =>
      cases rest with
      | nil => rfl
      | cons character tail =>
          have other := ends character tail rfl
          simp only [isNumeric, Bool.or_eq_false_iff] at other
          simp [takeExponent, other]
  | cons mark tail =>
      have digits (after : List Char) :
          takeDigits (after ++ rest) =
            ((takeDigits after).1, (takeDigits after).2 ++ rest) :=
        takeDigits_append ends
      -- The sign behind the mark may be missing, and is then not to be found in
      -- the rest.
      by_cases marked : (mark == 'e' || mark == 'E') = true
      · cases tail with
        | nil =>
            cases rest with
            | nil => simp [takeExponent]
            | cons character more =>
                have other := ends character more rfl
                simp only [isNumeric, Bool.or_eq_false_iff,
                  beq_eq_false_iff_ne] at other
                simp [takeExponent, marked, other, takeDigits]
        | cons sign more =>
            by_cases minus : sign = '-'
            · subst minus
              cases empty : (takeDigits more).1.isEmpty with
              | true => simp [takeExponent, marked, digits, empty]
              | false => simp [takeExponent, marked, digits, empty]
            · by_cases plus : sign = '+'
              · subst plus
                cases empty : (takeDigits more).1.isEmpty with
                | true => simp [takeExponent, marked, digits, empty]
                | false => simp [takeExponent, marked, digits, empty]
              · have unsigned := digits (sign :: more)
                rw [List.cons_append] at unsigned
                cases empty : (takeDigits (sign :: more)).1.isEmpty with
                | true =>
                    simp [takeExponent, marked, minus, plus, unsigned, empty]
                | false =>
                    simp [takeExponent, marked, minus, plus, unsigned, empty]
      · simp [takeExponent, marked]

/-- Behind its sign a number ends where it would end alone. -/
theorem readNumber_append (negative : Bool) (ends : EndsNumber rest) :
    readNumber negative (text ++ rest) =
      (readNumber negative text).map fun (value, after) =>
        (value, after ++ rest) := by
  rcases wholeTaken : takeWhole text with ⟨whole, afterWhole⟩
  rcases fractionTaken : takeFraction afterWhole with ⟨fraction, afterFraction⟩
  rcases exponentTaken : takeExponent afterFraction with ⟨exponent, after⟩
  simp only [readNumber, takeWhole_append ends, takeFraction_append ends,
    takeExponent_append ends, wholeTaken, fractionTaken, exponentTaken]
  cases whole.isEmpty with
  | true => rfl
  | false =>
      cases fraction with
      | some digits => rfl
      | none =>
          cases exponent with
          | some exponent => rfl
          | none =>
              by_cases long : longestInteger < whole.length
              · simp only [if_pos long]
                rfl
              · simp only [if_neg long]
                rfl

/-- Behind its sign a number starts with a digit. -/
theorem exists_digit_of_readNumber {negative : Bool} {value : Datum}
    {after : List Char} (read : readNumber negative text = .ok (value, after)) :
    ∃ digit tail, text = digit :: tail ∧ digit.isDigit = true := by
  cases text with
  | nil => cases read
  | cons character tail =>
      refine ⟨character, tail, rfl, ?_⟩
      cases isDigit : character.isDigit with
      | true => rfl
      | false =>
          have notZero : character ≠ '0' := by
            rintro rfl
            cases isDigit
          have none : (takeDigits (character :: tail)).1 = [] := by
            simp [takeDigits, isDigit]
          simp only [readNumber, takeWhole_of_ne notZero, none] at read
          cases read

/-! ## Values without parts -/

theorem takeName_of_digit {digit : Char} (isDigit : digit.isDigit = true)
    (tail : List Char) :
    takeName (digit :: tail) names = none ∧
      takeName ('-' :: digit :: tail) names = none := by
  have others :
      'n' ≠ digit ∧ 't' ≠ digit ∧ 'f' ≠ digit ∧ 'N' ≠ digit ∧ 'I' ≠ digit ∧
      '-' ≠ digit := by
    refine ⟨?_, ?_, ?_, ?_, ?_, ?_⟩ <;> (rintro rfl; cases isDigit)
  simp [takeName, names, others]

theorem exists_name_of_takeName {list : List (String × Datum)} {value : Datum}
    {after : List Char} (found : takeName text list = some (value, after)) :
    ∃ name, (name, value) ∈ list ∧ text = name.toList ++ after := by
  induction list with
  | nil => cases found
  | cons entry others ih =>
      rw [takeName] at found
      split at found
      · next isPrefix =>
        rcases List.isPrefixOf_iff_prefix.mp isPrefix with ⟨behind, same⟩
        cases found
        refine ⟨entry.1, List.mem_cons_self, ?_⟩
        rw [← same, ← String.length_toList, List.drop_left]
      · rcases ih found with ⟨name, member, same⟩
        exact ⟨name, List.mem_cons_of_mem entry member, same⟩

theorem takeName_of_mem_names {name : String} {value : Datum}
    (member : (name, value) ∈ names) (after : List Char) :
    takeName (name.toList ++ after) names = some (value, after) := by
  simp only [names, List.mem_cons, Prod.mk.injEq, List.not_mem_nil,
    or_false] at member
  rcases member with
    ⟨rfl, rfl⟩ | ⟨rfl, rfl⟩ | ⟨rfl, rfl⟩ | ⟨rfl, rfl⟩ | ⟨rfl, rfl⟩ | ⟨rfl, rfl⟩
  all_goals rfl

theorem readAtom_of_digit {digit : Char} (isDigit : digit.isDigit = true)
    (tail : List Char) :
    readAtom (digit :: tail) = readNumber false (digit :: tail) ∧
      readAtom ('-' :: digit :: tail) = readNumber true (digit :: tail) := by
  rcases takeName_of_digit isDigit tail with ⟨unsigned, signed⟩
  unfold readAtom
  rw [unsigned, signed]
  refine ⟨?_, rfl⟩
  split
  · next found => cases found
  · split
    · next minus =>
      cases minus
      cases isDigit
    · rfl

/-- A value without parts ends where it would end alone. -/
theorem readAtom_append {value : Datum} {after : List Char}
    (read : readAtom text = .ok (value, after)) (ends : EndsNumber rest) :
    readAtom (text ++ rest) = .ok (value, after ++ rest) := by
  have appended (negative : Bool) {tail : List Char}
      (number : readNumber negative tail = .ok (value, after)) :
      readNumber negative (tail ++ rest) = .ok (value, after ++ rest) := by
    rw [readNumber_append negative ends, number]
    rfl
  unfold readAtom at read
  split at read
  · next taken =>
    cases read
    rcases exists_name_of_takeName taken with ⟨name, member, rfl⟩
    unfold readAtom
    rw [List.append_assoc, takeName_of_mem_names member]
  · split at read
    · rcases exists_digit_of_readNumber read with ⟨digit, tail, rfl, isDigit⟩
      exact (readAtom_of_digit isDigit _).2.trans (appended true read)
    · rcases exists_digit_of_readNumber read with ⟨digit, tail, rfl, isDigit⟩
      exact (readAtom_of_digit isDigit _).1.trans (appended false read)

/-! ## Numbers -/

theorem exists_items_of_readItems {depth fuel : Nat} {done : List Datum}
    {value : Datum} {after : List Char}
    (read : readItems depth fuel done text = .ok (value, after)) :
    ∃ items, value = .list items := by
  induction fuel generalizing done text with
  | zero => cases read
  | succ fuel ih =>
      rw [readItems] at read
      split at read
      · cases read
      · split at read
        · exact ih read
        · cases read
          exact ⟨_, rfl⟩
        · cases read

theorem exists_fields_of_readFields {depth fuel : Nat}
    {done : List (Text × Datum)} {value : Datum} {after : List Char}
    (read : readFields depth fuel done text = .ok (value, after)) :
    ∃ fields, value = .record fields := by
  induction fuel generalizing done text with
  | zero => cases read
  | succ fuel ih =>
      unfold readFields at read
      split at read
      · split at read
        · cases read
        · split at read
          · split at read
            · cases read
            · split at read
              · exact ih read
              · cases read
                exact ⟨_, rfl⟩
              · cases read
          · cases read
      · cases read

theorem readValue_eq_readAtom {character : Char} (notText : character ≠ '"')
    (notList : character ≠ '[') (notRecord : character ≠ '\x7b')
    (depth fuel : Nat) (tail : List Char) :
    readValue depth (fuel + 1) (character :: tail) =
      readAtom (character :: tail) := by
  rw [readValue]
  · rintro _ ⟨⟩
    exact notText rfl
  · rintro _ ⟨⟩
    exact notList rfl
  · rintro _ ⟨⟩
    exact notRecord rfl

/-- Only a value without parts is a number. -/
theorem exists_cons_of_readValue {depth fuel : Nat}
    {number : Number} {after : List Char}
    (read : readValue depth (fuel + 1) text = .ok (.ofNumber number, after)) :
    ∃ character tail, text = character :: tail ∧ character ≠ '"' ∧
      character ≠ '[' ∧ character ≠ '\x7b' ∧
      readAtom text = .ok (.ofNumber number, after) := by
  have noText (value : Text) : Datum.text value ≠ .ofNumber number := by
    cases number <;> (intro impossible; cases impossible)
  have noList (items : List Datum) : Datum.list items ≠ .ofNumber number := by
    cases number <;> (intro impossible; cases impossible)
  have noRecord (fields : List (Text × Datum)) :
      Datum.record fields ≠ .ofNumber number := by
    cases number <;> (intro impossible; cases impossible)
  cases text with
  | nil => cases read
  | cons character tail =>
      by_cases isText : character = '"'
      · subst isText
        rw [readValue] at read
        rcases map_eq_ok_iff.mp read with ⟨found, -, same⟩
        exact absurd (congrArg Prod.fst same) (noText _)
      by_cases isList : character = '['
      · subst isList
        cases depth with
        | zero => cases read
        | succ depth =>
            rw [readValue] at read
            split at read
            · exact absurd (congrArg Prod.fst (Except.ok.inj read)) (noList _)
            · rcases exists_items_of_readItems read with ⟨items, same⟩
              exact absurd same.symm (noList items)
      by_cases isRecord : character = '\x7b'
      · subst isRecord
        cases depth with
        | zero => cases read
        | succ depth =>
            rw [readValue] at read
            split at read
            · exact absurd (congrArg Prod.fst (Except.ok.inj read)) (noRecord _)
            · rcases exists_fields_of_readFields read with ⟨fields, same⟩
              exact absurd same.symm (noRecord fields)
      rw [readValue_eq_readAtom isText isList isRecord] at read
      exact ⟨character, tail, rfl, isText, isList, isRecord, read⟩

/-! ## Texts inside others -/

theorem skipSpaces_cons {character : Char} (visible : isSpace character = false)
    (tail : List Char) :
    skipSpaces (character :: tail) = character :: tail := by
  rw [skipSpaces, List.dropWhile_cons_of_neg (by simp [visible])]

theorem skipSpaces_append_of_blank (blank : skipSpaces text = []) :
    skipSpaces (text ++ rest) = skipSpaces rest := by
  rw [skipSpaces] at blank
  rw [skipSpaces, List.dropWhile_append, blank]
  rfl

theorem skipSpaces_append {character : Char} {tail : List Char}
    (visible : skipSpaces text = character :: tail) :
    skipSpaces (text ++ rest) = character :: (tail ++ rest) := by
  rw [skipSpaces] at visible
  rw [skipSpaces, List.dropWhile_append, visible]
  rfl

/--
A text that is read as a datum wherever it stands, if no number goes on behind
it.
-/
def ReadsBack (depth : Nat) (text : List Char) (datum : Datum) : Prop :=
  ∀ fuel rest, text.length < fuel → EndsNumber rest →
    ∃ after, readValue depth fuel (skipSpaces (text ++ rest)) =
      .ok (datum, after) ∧ skipSpaces after = skipSpaces rest

/--
A number that is read from a text of its own is read from it wherever it stands.
-/
theorem readsBack_of_read {text : String} {number : Number}
    (read : Document.read text = .ok (.ofNumber number)) (depth : Nat) :
    ReadsBack depth text.toList (.ofNumber number) := by
  intro fuel rest enough ends
  rw [Document.read] at read
  split at read
  · cases read
  · next value after found =>
    split at read
    · next blank =>
      cases read
      rcases exists_cons_of_readValue found with
        ⟨character, tail, visible, notText, notList, notRecord, atom⟩
      obtain ⟨fuel, rfl⟩ : ∃ less, fuel = less + 1 := ⟨fuel - 1, by omega⟩
      refine ⟨after ++ rest, ?_,
        skipSpaces_append_of_blank (List.isEmpty_iff.mp blank)⟩
      rw [skipSpaces_append visible, readValue_eq_readAtom notText notList
        notRecord, ← List.cons_append, ← visible]
      exact readAtom_append atom ends
    · cases read

/-- Whether a number is read from its own text. -/
def KeepsNumber (number : Number) : Prop :=
  Document.read (write .compact (.ofNumber number)) = .ok (.ofNumber number)

/-- The number that a datum is as it stands, so that a truth value is none. -/
def exactNumber? : Datum → Option Number
  | .int value => some (.int value)
  | .double value => some (.double value)
  | _ => none

theorem keepsNumber_iff (number : Number) :
    KeepsNumber number ↔
      (Document.read (write .compact (.ofNumber number))).toOption.bind
        exactNumber? =
        some number := by
  rw [KeepsNumber]
  cases Document.read (write .compact (.ofNumber number)) with
  | error defect =>
      constructor <;> (intro impossible; cases impossible)
  | ok datum =>
      constructor
      · rintro ⟨⟩
        cases number <;> rfl
      · intro exact
        change exactNumber? datum = some number at exact
        unfold exactNumber? at exact
        split at exact <;> cases exact <;> rfl

instance (number : Number) : Decidable (KeepsNumber number) :=
  decidable_of_iff _ (keepsNumber_iff number).symm

theorem KeepsNumber.readsBack {number : Number} (kept : KeepsNumber number)
    (spacing : Spacing) (depth : Nat) :
    ReadsBack depth (write spacing (.ofNumber number)).toList
      (.ofNumber number) := by
  have same :
      write spacing (.ofNumber number) = write .compact (.ofNumber number) := by
    cases number <;> rw [Datum.ofNumber, write, write]
  rw [same]
  exact readsBack_of_read kept depth

end SoundGrid.Document

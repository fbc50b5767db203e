import Mathlib
import SoundGrid.Proofs.Configuration.Grammar
import SoundGrid.Proofs.Configuration.Refusal
import SoundGrid.Proofs.Number.Literal

/-!
# Ways to ask for a level

A level is asked for by its name in any letters, by digits that denote its
number, and by any number equal to it. The reader looks for names first, then
tells digits from other texts, and only then compares numbers; this module says
for ASCII texts and for numbers of both kinds that nothing else gives a level.
-/

namespace SoundGrid

/-! ## Letters in upper and lower case -/

namespace Text

variable {given : String}

/-- All characters of a text are ASCII characters. -/
def IsAscii (given : String) : Prop :=
  ∀ character ∈ given.toList, character.toNat < 128

/-- Two texts are the same but for the case of their letters. -/
def SameLetters (first second : String) : Prop :=
  first.toList.map Char.toLower = second.toList.map Char.toLower

instance (first second : String) : Decidable (SameLetters first second) :=
  inferInstanceAs (Decidable (_ = _))

theorem upperChar_of_ascii {character : Char} (ascii : character.toNat < 128) :
    upperChar character = [character.toUpper] := by
  unfold upperChar
  split <;> first | rfl | omega

/-- In an ASCII text every letter has an upper case of its own. -/
theorem toList_upper (ascii : IsAscii given) :
    (upper given).toList = given.toList.map Char.toUpper := by
  have single :
      ∀ character ∈ given.toList, upperChar character = [character.toUpper] :=
    fun character isIn => upperChar_of_ascii (ascii character isIn)
  rw [upper, String.toList_ofList, List.flatMap_congr single,
    List.map_eq_flatMap]

/-- A text in capitals is the upper case of the texts with its letters. -/
theorem upper_eq_iff {capitals : String} (ascii : IsAscii given)
    (isUpper : capitals.toList.map Char.toUpper = capitals.toList) :
    upper given = capitals ↔ SameLetters given capitals := by
  rw [← String.toList_inj, toList_upper ascii, SameLetters]
  constructor
  · intro same
    rw [← same, List.map_map]
    exact List.map_congr_left fun character _ =>
      (Char.toLower_toUpper_eq_toLower character).symm
  · intro same
    have raised := congrArg (List.map Char.toUpper) same
    have forgets : Char.toUpper ∘ Char.toLower = Char.toUpper :=
      funext Char.toUpper_toLower_eq_toUpper
    rw [List.map_map, List.map_map, forgets, isUpper] at raised
    exact raised

/-- Digits have no case. -/
theorem toLower_of_isDigit {character : Char}
    (digit : character.isDigit = true) : character.toLower = character := by
  have inside : 48 ≤ character.toNat ∧ character.toNat ≤ 57 :=
    Char.isDigit_iff_toNat.mp digit
  apply Char.toLower_eq_of_not_isUpper
  rw [Char.isUpper, decide_eq_true_eq, ge_iff_le, UInt32.le_iff_toNat_le]
  exact fun capital =>
    absurd (show 65 ≤ character.toNat from capital.1) (by omega)

end Text

namespace Level

/-! ## Names and numbers -/

/-- A search among the levels finds the one that it is for. -/
theorem find?_eq_some_iff {isSought : Level → Bool} {level : Level}
    (unique : ∀ first second, isSought first = true → isSought second = true →
      first = second) :
      all.find? isSought = some level ↔ isSought level = true := by
  constructor
  · exact List.find?_some
  · intro sought
    cases found : all.find? isSought with
    | none =>
        exact absurd sought (List.find?_eq_none.mp found level (mem_all level))
    | some other => rw [unique other level (List.find?_some found) sought]

theorem name_injective : Function.Injective name := by
  intro first second same
  cases first <;> cases second <;> first | rfl | exact absurd same (by decide)

/-- A level is found by its name in any letters. -/
theorem ofName?_eq_some_iff {given : String} {level : Level}
    (ascii : Text.IsAscii given) :
    ofName? given = some level ↔ Text.SameLetters given level.name := by
  have isUpper : level.name.toList.map Char.toUpper = level.name.toList := by
    cases level <;> decide
  rw [ofName?, find?_eq_some_iff, beq_iff_eq, eq_comm,
    Text.upper_eq_iff ascii isUpper]
  intro first second isFirst isSecond
  rw [beq_iff_eq] at isFirst isSecond
  exact name_injective (isFirst.trans isSecond.symm)

/-- A level is found by every number that is equal to its own. -/
theorem ofNumber?_eq_some_iff {number : Number} {level : Level} :
    ofNumber? number = some level ↔ number.HasValue level.number := by
  rw [ofNumber?, find?_eq_some_iff, Number.same_int_iff]
  intro first second isFirst isSecond
  rw [Number.same_int_iff] at isFirst isSecond
  have same := Option.some.inj (isFirst.symm.trans isSecond)
  exact number_injective (by exact_mod_cast same)

theorem ofNumber_eq_ok_iff {given : Datum} {level : Level} :
    ofNumber given = .ok level ↔
      ∃ number, given.number? = some number ∧ number.HasValue level.number := by
  rw [ofNumber]
  simp only [← ofNumber?_eq_some_iff, ← Option.bind_eq_some_iff]
  cases given.number?.bind ofNumber? with
  | none => simp
  | some other => simp

theorem ofNumber_int_eq_ok_iff {value : ℤ} {level : Level} :
    ofNumber (.int value) = .ok level ↔ value = level.number := by
  have equal :
      (Number.int value).HasValue level.number ↔ value = level.number := by
    rw [Number.HasValue, Number.rank?, Option.some.injEq, EReal.coe_eq_coe_iff]
    norm_cast
  rw [ofNumber_eq_ok_iff, ← equal]
  constructor
  · rintro ⟨_, ⟨⟩, hasValue⟩
    exact hasValue
  · intro hasValue
    exact ⟨_, rfl, hasValue⟩

/-! ## Texts -/

/--
A text that is not empty consists of digits, and they denote the number of a
level.
-/
structure IsNumbered (given : String) (level : Level) : Prop where
  nonempty : given ≠ ""
  digits : Text.AreDigits given.toList
  denotes : Text.valueOf given.toList = level.number

/-- No name consists of digits. -/
theorem IsNumbered.not_sameLetters {given : String} {level : Level}
    (numbered : IsNumbered given level) (other : Level) :
    ¬ Text.SameLetters given other.name := by
  intro named
  have digits : (given.toList.map Char.toLower).all Char.isDigit = true := by
    rw [List.all_map, List.all_eq_true]
    intro character isIn
    have digit := numbered.digits character isIn
    rw [Function.comp_apply, Text.toLower_of_isDigit digit]
    exact digit
  have noDigits :
      (other.name.toList.map Char.toLower).all Char.isDigit = false := by
    cases other <;> rfl
  rw [Text.SameLetters] at named
  rw [named, noDigits] at digits
  exact Bool.false_ne_true digits

/--
Among short ASCII texts the names of a level give it, and the digits of its
number.
-/
theorem ofText_eq_ok_iff {given : String} {level : Level}
    (ascii : Text.IsAscii given)
    (short : given.length ≤ Number.Literal.longestInteger) :
    ofText given = .ok level ↔
      Text.SameLetters given level.name ∨ IsNumbered given level := by
  rw [← ofName?_eq_some_iff ascii, ofText]
  cases named : ofName? given with
  | some other =>
      have notNumbered : ¬ IsNumbered given level := fun numbered =>
        numbered.not_sameLetters other ((ofName?_eq_some_iff ascii).mp named)
      simp [notNumbered]
  | none =>
      have guard : (given.isEmpty || !given.all Text.isDigit) = true ↔
          ¬ (given ≠ "" ∧ Text.AreDigits given.toList) := by
        have areDigits :
            given.all Text.isDigit = true ↔ Text.AreDigits given.toList := by
          rw [String.all_bool_eq, List.all_eq_true]
          exact forall₂_congr fun character isIn => by
            rw [Text.isDigit_of_ascii (ascii character isIn)]
        rw [Bool.or_eq_true, Bool.not_eq_true', ← Bool.not_eq_true, areDigits,
          String.isEmpty_iff, not_and_or, not_not]
      dsimp only
      by_cases readable : given ≠ "" ∧ Text.AreDigits given.toList
      · rcases readable with ⟨nonempty, digits⟩
        rw [if_neg (fun refused => guard.mp refused ⟨nonempty, digits⟩),
          Number.Literal.integer_of_digits nonempty digits short]
        dsimp only
        rw [ofNumber_int_eq_ok_iff, Nat.cast_inj]
        constructor
        · intro denotes
          exact Or.inr ⟨nonempty, digits, denotes⟩
        · rintro (impossible | numbered)
          · cases impossible
          · exact numbered.denotes
      · have notNumbered : ¬ IsNumbered given level := fun numbered =>
          readable ⟨numbered.nonempty, numbered.digits⟩
        rw [if_pos (guard.mpr readable)]
        simp [notNumbered]

/-! ## Data -/

/--
What asks for a level: its name in any letters, digits that denote its number,
and numbers and truth values that are equal to it.
-/
inductive Asks : Datum → Level → Prop
  | byName {given : String} {level : Level}
    (named : Text.SameLetters given level.name) :
      Asks (.text given) level
  | byDigits {given : String} {level : Level}
    (numbered : IsNumbered given level) :
      Asks (.text given) level
  | byNumber {given : Datum} {level : Level} {number : Number}
      (isNumber : given.number? = some number)
      (equal : number.HasValue level.number) :
      Asks given level

/--
Null, truth values, numbers, and ASCII texts that are not too long for an
integer.
-/
inductive IsSimple : Datum → Prop
  | null : IsSimple .null
  | bool (truth : Bool) : IsSimple (.bool truth)
  | int (value : ℤ) : IsSimple (.int value)
  | double (value : Float) : IsSimple (.double value)
  | undefined (mark : ℕ) : IsSimple (.undefined mark)
  | text {given : String} (ascii : Text.IsAscii given)
      (short : given.length ≤ Number.Literal.longestInteger) :
      IsSimple (.text given)

theorem asks_text_iff {given : String} {level : Level} :
    Asks (.text given) level ↔
      Text.SameLetters given level.name ∨ IsNumbered given level := by
  constructor
  · intro asks
    generalize isText : Datum.text (Text.ofString given) = datum at asks
    cases asks with
    | byName named =>
        cases Text.ofString_injective (Datum.text.inj isText)
        exact Or.inl named
    | byDigits numbered =>
        cases Text.ofString_injective (Datum.text.inj isText)
        exact Or.inr numbered
    | byNumber isNumber equal =>
        cases isText
        cases isNumber
  · rintro (named | numbered)
    · exact .byName named
    · exact .byDigits numbered

/-- What is no text is compared with the numbers of the levels. -/
theorem ofDatum_eq_ok_iff_of_not_text {given : Datum} {level : Level}
    (notText : ∀ text, given ≠ .text text) :
    ofDatum given = .ok level ↔ Asks given level := by
  have compared : ofDatum given = ofNumber given := by
    cases given with
    | text text => exact absurd rfl (notText text)
    | _ => rfl
  rw [compared, ofNumber_eq_ok_iff]
  constructor
  · rintro ⟨number, isNumber, equal⟩
    exact .byNumber isNumber equal
  · intro asks
    cases asks with
    | byName => exact absurd rfl (notText _)
    | byDigits => exact absurd rfl (notText _)
    | byNumber isNumber equal => exact ⟨_, isNumber, equal⟩

/-- The level that a simple datum gives is the one that it asks for. -/
theorem IsSimple.ofDatum_eq_ok_iff {given : Datum} (simple : IsSimple given)
    {level : Level} : ofDatum given = .ok level ↔ Asks given level := by
  cases simple with
  | text ascii short =>
      rw [asks_text_iff, ofDatum, Text.string?_ofString]
      exact ofText_eq_ok_iff ascii short
  | null | bool | int | double | undefined =>
      refine ofDatum_eq_ok_iff_of_not_text ?_
      rintro _ ⟨⟩

/--
A simple datum gives the level that it asks for, and no other one; when it asks
for none it is refused for its value.
-/
theorem asked_or_refused {given : Datum} (simple : IsSimple given) :
    (∀ level, ofDatum given = .ok level ↔ Asks given level) ∧
      ((∀ level, ¬ Asks given level) ↔
        ∃ fault, ofDatum given = .error fault ∧ fault.category = .value) := by
  refine ⟨fun level => simple.ofDatum_eq_ok_iff, ?_⟩
  simp only [← simple.ofDatum_eq_ok_iff]
  cases read : ofDatum given with
  | ok level => simp
  | error fault => simpa using category_of_ofDatum read

/--
A name with one capital, digits with zeros in front, and a digit behind a sign.
-/
theorem asked_or_refused_spellings :
    (IsSimple (.text "Rules") ∧ ofDatum (.text "Rules") = .ok .rules) ∧
      (IsSimple (.text "0006") ∧ ofDatum (.text "0006") = .ok .neighborhood) ∧
      (IsSimple (.text "+6") ∧
        ∃ fault, ofDatum (.text "+6") = .error fault ∧
          fault.category = .value) := by
  have name : IsSimple (.text "Rules") :=
    .text (by simp [Text.IsAscii]) (by decide)
  have digits : IsSimple (.text "0006") :=
    .text (by simp [Text.IsAscii]) (by decide)
  have signed : IsSimple (.text "+6") :=
    .text (by simp [Text.IsAscii]) (by decide)
  refine ⟨⟨name, ((asked_or_refused name).1 _).mpr ?_⟩,
    ⟨digits, ((asked_or_refused digits).1 _).mpr ?_⟩,
    signed, (asked_or_refused signed).2.mp ?_⟩
  · exact .byName (by decide)
  · exact .byDigits ⟨by decide, by simp [Text.AreDigits], rfl⟩
  · intro level asks
    rcases asks_text_iff.mp asks with named | numbered
    · cases level <;> exact absurd named (by decide)
    · exact absurd (numbered.digits '+' (by simp)) (by decide)

end Level

end SoundGrid

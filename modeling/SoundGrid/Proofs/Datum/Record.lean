import SoundGrid.Proofs.Datum.Number

/-!
# Records written out and read back

A record that is written, on one line or indented, is read back when all its
values are. Its names have to differ, for a later field would replace an earlier
one, and they have to be spelled without escapes. The induction follows the
writer from field to field; what is left to read gets shorter with each of them,
so the reader does not run out of fuel.
-/

namespace SoundGrid

namespace Document

variable {text rest : List Char}

/-! ## Names -/

/-- A character that is written as itself. -/
def isPlain (character : Char) : Bool :=
  0x20 ≤ character.toNat && character.toNat < 0x7f && character !=
    '"' && character != '\\'

/-- A name that is written without escapes. -/
def IsPlainName (name : Text) : Prop :=
  ∃ characters : List Char, name = ⟨characters.map .character⟩ ∧
    ∀ character ∈ characters, isPlain character = true

theorem isPlainName_ofString {name : String}
    (plain : name.toList.all isPlain = true) :
    IsPlainName (Text.ofString name) :=
  ⟨name.toList, rfl, List.all_eq_true.mp plain⟩

theorem charText_of_isPlain {character : Char}
    (plain : isPlain character = true) :
    charText character = character.toString := by
  simp only [isPlain, Bool.and_eq_true, decide_eq_true_eq] at plain
  unfold charText
  split
  · simp at plain
  · simp at plain
  · simp at plain
  · simp at plain
  · simp at plain
  · simp at plain
  · simp at plain
  · exact if_pos plain.1.1

theorem toList_textText {characters : List Char}
    (plain : ∀ character ∈ characters, isPlain character = true) :
    (textText ⟨characters.map .character⟩).toList =
      '"' :: characters ++ ['"'] := by
  have spelled (done : String) :
      ((characters.map CodePoint.character).foldl (fun done point =>
        done ++ pointText point) done).toList = done.toList ++ characters := by
    induction characters generalizing done with
    | nil => simp
    | cons character others ih =>
        have here := charText_of_isPlain (plain character List.mem_cons_self)
        have later := ih fun other member =>
          plain other (List.mem_cons_of_mem character member)
        rw [List.map_cons, List.foldl_cons, later, pointText, here]
        simp
  rw [textText, String.toList_append, String.toList_append, spelled]
  simp

theorem readText_cons {character : Char} (notQuote : character ≠ '"')
    (notEscape : character ≠ '\\') (done : List CodePoint) (rest : List Char) :
    readText done (character :: rest) =
      if character.toNat < 0x20 || character == '\\' then .error .malformed
      else readText (.character character :: done) rest := by
  rw [readText]
  · intros
    exact notQuote ‹_›
  all_goals
    intros
    exact notEscape ‹_›

theorem readText_of_isPlain {characters : List Char}
    (plain : ∀ character ∈ characters, isPlain character = true)
    (done : List CodePoint) :
    readText done (characters ++ '"' :: rest) =
      .ok (⟨done.reverse ++ characters.map .character⟩, rest) := by
  induction characters generalizing done with
  | nil => simp [readText]
  | cons character others ih =>
      have here := plain character List.mem_cons_self
      simp only [isPlain, Bool.and_eq_true, decide_eq_true_eq,
        bne_iff_ne] at here
      rcases here with ⟨⟨⟨visible, -⟩, notQuote⟩, notEscape⟩
      have later := ih fun other member =>
        plain other (List.mem_cons_of_mem character member)
      rw [List.cons_append, readText_cons notQuote notEscape, later]
      simp [notEscape, visible]

/-! ## Blanks -/

theorem toList_pushn (text : String) (character : Char) (count : Nat) :
    (text.pushn character count).toList =
      text.toList ++ List.replicate count character := by
  rw [String.pushn_eq_repeat_push]
  induction count with
  | zero => simp [Nat.repeat]
  | succ count ih => simp [Nat.repeat, ih, List.replicate_succ']

theorem skipSpaces_spaces (count : Nat) :
    skipSpaces (List.replicate count ' ') = [] := by
  induction count with
  | zero => rfl
  | succ count ih => exact ih

theorem skipSpaces_beforePart (spacing : Spacing) :
    skipSpaces spacing.beforePart.toList = [] := by
  cases spacing with
  | compact => rfl
  | indented depth =>
      rw [Spacing.beforePart, String.toList_append, toList_pushn]
      exact skipSpaces_spaces _

theorem skipSpaces_afterParts (spacing : Spacing) :
    skipSpaces spacing.afterParts.toList = [] := by
  cases spacing with
  | compact => rfl
  | indented depth =>
      rw [Spacing.afterParts, String.toList_append, toList_pushn]
      exact skipSpaces_spaces _

theorem exists_blank_of_separator (spacing : Spacing) :
    ∃ blank, spacing.separator.toList = ',' :: blank ∧
      skipSpaces blank = [] := by
  cases spacing with
  | compact => exact ⟨[' '], rfl, rfl⟩
  | indented depth =>
      have comma : ",".toList = [','] := by rfl
      exact ⟨[], comma, rfl⟩

/-! ## Fields -/

/-- A field as it is written. -/
def fieldText (spacing : Spacing) (field : Text × Datum) : List Char :=
  (textText field.1).toList ++ ':' :: ' ' ::
    (write spacing.inside field.2).toList

/-- What is written behind a field when some more are to come. -/
def behindField (spacing : Spacing) (more : List (Text × Datum)) : List Char :=
  (writeFields spacing spacing.separator more).toList ++
    spacing.afterParts.toList ++ ['\x7d']

theorem toList_writeFields (spacing : Spacing) (separator : String)
    (field : Text × Datum) (more : List (Text × Datum)) :
    (writeFields spacing separator (field :: more)).toList =
      separator.toList ++ spacing.beforePart.toList ++ fieldText spacing
        field ++ (writeFields spacing spacing.separator more).toList := by
  rw [writeFields, fieldText]
  simp

theorem endsNumber_behindField (spacing : Spacing)
    (more : List (Text × Datum)) :
    EndsNumber (behindField spacing more ++ rest) := by
  cases more with
  | nil =>
      cases spacing with
      | compact => exact endsNumber_cons rfl
      | indented depth =>
          rw [behindField, Spacing.afterParts, String.toList_append]
          exact endsNumber_cons rfl
  | cons field others =>
      rcases exists_blank_of_separator spacing with ⟨blank, separator, -⟩
      rw [behindField, toList_writeFields, separator]
      exact endsNumber_cons rfl

/--
A field whose name is written without escapes and whose value is read back.
-/
structure FieldReadsBack (spacing : Spacing) (depth : Nat)
    (field : Text × Datum) : Prop where
  plain : IsPlainName field.1
  value : ReadsBack depth (write spacing.inside field.2).toList field.2

variable {spacing : Spacing} {depth fuel : Nat}

/--
A field is read; what the reader does next depends on what stands behind it.
-/
theorem readFields_fieldText {field : Text × Datum}
    (reads : FieldReadsBack spacing depth field)
    (enough : (write spacing.inside field.2).toList.length < fuel)
    (ends : EndsNumber rest) (done : List (Text × Datum)) :
    readFields depth (fuel + 1) done (fieldText spacing field ++ rest) =
      match skipSpaces rest with
      | ',' :: more => readFields depth fuel (field :: done) (skipSpaces more)
      | '\x7d' :: more => .ok (.record (settle (field :: done)), more)
      | _ => .error .malformed := by
  rcases field with ⟨name, datum⟩
  rcases reads with ⟨⟨characters, rfl, plain⟩, value⟩
  rcases value fuel rest enough ends with ⟨after, read, behind⟩
  have spelled :
      fieldText spacing (⟨characters.map .character⟩, datum) ++ rest =
      '"' :: (characters ++
        '"' :: ':' :: ' ' ::
          ((write spacing.inside datum).toList ++ rest)) := by
    rw [fieldText, toList_textText plain]
    simp
  have colon (tail : List Char) : skipSpaces (':' :: tail) = ':' :: tail :=
    skipSpaces_cons rfl tail
  have space (tail : List Char) :
      skipSpaces (' ' :: tail) = skipSpaces tail := rfl
  rw [spelled, readFields]
  simp only [readText_of_isPlain plain, colon, space, read, behind]
  rfl

theorem exists_quote_of_fieldText (spacing : Spacing) (field : Text × Datum) :
    ∃ tail, fieldText spacing field = '"' :: tail := by
  rw [fieldText, textText, String.toList_append, String.toList_append]
  exact ⟨_, rfl⟩

theorem length_fieldText (spacing : Spacing) (field : Text × Datum) :
    (write spacing.inside field.2).toList.length + 2 ≤
      (fieldText spacing field).length := by
  rw [fieldText, List.length_append]
  exact Nat.le_add_left _ _

theorem skipSpaces_behindField_nil (spacing : Spacing) (rest : List Char) :
    skipSpaces (behindField spacing [] ++ rest) = '\x7d' :: rest := by
  have empty : (writeFields spacing spacing.separator []).toList = [] := rfl
  rw [behindField, empty, List.nil_append, List.append_assoc,
    skipSpaces_append_of_blank (skipSpaces_afterParts spacing)]
  rfl

/-- Between two fields stand a comma and blanks. -/
theorem exists_blank_of_behindField (spacing : Spacing) (next : Text × Datum)
    (others : List (Text × Datum)) :
    ∃ blank, skipSpaces blank = [] ∧
      behindField spacing (next :: others) = ',' ::
        (blank ++ (fieldText spacing next ++ behindField spacing others)) := by
  rcases exists_blank_of_separator spacing with ⟨blank, separator, isBlank⟩
  refine ⟨blank ++ spacing.beforePart.toList, ?_, ?_⟩
  · rw [skipSpaces_append_of_blank isBlank]
    exact skipSpaces_beforePart spacing
  · rw [behindField, toList_writeFields, separator, behindField]
    simp

/-- Fields are read one after another up to the brace behind the last one. -/
theorem readFields_behindField {first : Text × Datum}
    {more done : List (Text × Datum)}
    (reads : ∀ field ∈ first :: more, FieldReadsBack spacing depth field)
    (enough :
      (fieldText spacing first ++ behindField spacing more).length ≤ fuel) :
    readFields depth fuel done
      (fieldText spacing first ++ (behindField spacing more ++ rest)) =
      .ok (.record (settle ((first :: more).reverse ++ done)), rest) := by
  -- Every field leaves fewer characters, so that the fuel lasts as long as the
  -- text.
  induction more generalizing first done fuel with
  | nil =>
      have long := length_fieldText spacing first
      rw [List.length_append] at enough
      obtain ⟨less, rfl⟩ : ∃ less, fuel = less + 1 := ⟨fuel - 1, by omega⟩
      rw [readFields_fieldText (reads first List.mem_cons_self) (by omega)
        (endsNumber_behindField spacing []), skipSpaces_behindField_nil]
      rfl
  | cons next others ih =>
      have long := length_fieldText spacing first
      rcases exists_blank_of_behindField spacing next others with
        ⟨blank, isBlank, behind⟩
      rcases exists_quote_of_fieldText spacing next with ⟨tail, quoted⟩
      have shorter :
          (fieldText spacing next ++ behindField spacing others).length + 1 ≤
          (behindField spacing (next :: others)).length := by
        rw [behind]
        simp only [List.length_append, List.length_cons]
        omega
      rw [List.length_append] at enough
      obtain ⟨less, rfl⟩ : ∃ less, fuel = less + 1 := ⟨fuel - 1, by omega⟩
      have later : readFields depth less (first :: done)
          (fieldText spacing next ++ (behindField spacing others ++ rest)) =
            .ok (.record (settle ((next :: others).reverse ++ first :: done)),
              rest) :=
        ih (fun field member => reads field (List.mem_cons_of_mem first member))
          (by omega)
      rw [readFields_fieldText (reads first List.mem_cons_self) (by omega)
          (endsNumber_behindField spacing (next :: others)),
        behind, List.cons_append, skipSpaces_cons rfl]
      simp only [List.append_assoc]
      rw [skipSpaces_append_of_blank isBlank, quoted, List.cons_append,
        skipSpaces_cons rfl, ← List.cons_append, ← quoted, later]
      simp

/-! ## Records -/

theorem insert_of_notMem {name : Text} {fields : List (Text × Datum)}
    (fresh : name ∉ fields.map Prod.fst) (value : Datum) :
    Datum.insert name value fields = fields ++ [(name, value)] := by
  induction fields with
  | nil => rfl
  | cons field others ih =>
      rw [List.map_cons, List.mem_cons, not_or] at fresh
      have different : ¬ (field.1 == name) = true :=
        fun equal => fresh.1 (eq_of_beq equal).symm
      rw [Datum.insert, if_neg different, ih fresh.2]
      rfl

/-- Fields with different names are all kept. -/
theorem settle_reverse {fields : List (Text × Datum)}
    (unique : (fields.map Prod.fst).Nodup) :
    settle fields.reverse = fields := by
  have added (earlier later : List (Text × Datum))
      (unique : ((earlier ++ later).map Prod.fst).Nodup) :
      later.foldl (fun fields field => Datum.insert field.1 field.2 fields)
        earlier = earlier ++ later := by
    induction later generalizing earlier with
    | nil => simp
    | cons field others ih =>
        have fresh : field.1 ∉ earlier.map Prod.fst := by
          rw [List.map_append, List.nodup_append] at unique
          intro member
          exact unique.2.2 field.1 member field.1 List.mem_cons_self rfl
        rw [List.foldl_cons, insert_of_notMem fresh, ih]
        · simp
        · simpa using unique
  rw [settle, List.reverse_reverse]
  exact added [] fields unique

theorem toList_write_record (spacing : Spacing) (first : Text × Datum)
    (more : List (Text × Datum)) :
    (write spacing (.record (first :: more))).toList =
      '\x7b' :: (spacing.beforePart.toList ++
        (fieldText spacing first ++ behindField spacing more)) := by
  rw [write, String.toList_append, String.toList_append, String.toList_append,
    toList_writeFields, behindField]
  · simp
  · intro impossible
    cases impossible

variable {fields : List (Text × Datum)}

/--
A record is read back when its fields are and no two of them have one name.
-/
theorem readsBack_record (some : fields ≠ [])
    (unique : (fields.map Prod.fst).Nodup)
    (reads : ∀ field ∈ fields, FieldReadsBack spacing depth field) :
    ReadsBack (depth + 1) (write spacing (.record fields)).toList
      (.record fields) := by
  intro fuel rest enough ends
  cases fields with
  | nil => exact absurd rfl some
  | cons first more =>
      rcases exists_quote_of_fieldText spacing first with ⟨tail, quoted⟩
      rw [toList_write_record, List.length_cons, List.length_append] at enough
      obtain ⟨less, rfl⟩ : ∃ less, fuel = less + 1 := ⟨fuel - 1, by omega⟩
      have all := @readFields_behindField rest spacing depth less first more
        [] reads (by omega)
      rw [List.append_nil, settle_reverse unique, quoted] at all
      refine ⟨rest, ?_, rfl⟩
      rw [toList_write_record, List.cons_append, skipSpaces_cons rfl, readValue]
      simp only [List.append_assoc]
      rw [skipSpaces_append_of_blank (skipSpaces_beforePart spacing), quoted,
        List.cons_append, skipSpaces_cons rfl]
      exact all

theorem readsBack_map {Item : Type} {items : List Item} {name : Item → String}
    {value : Item → Datum} (some : items ≠ [])
    (unique : (items.map fun item => Text.ofString (name item)).Nodup)
    (plain : ∀ item ∈ items, (name item).toList.all isPlain = true)
    (reads : ∀ item ∈ items,
      ReadsBack depth (write spacing.inside (value item)).toList (value item)) :
    ReadsBack (depth + 1)
      (write spacing
        (.record (items.map fun item => (↑(name item), value item)))).toList
      (.record (items.map fun item => (↑(name item), value item))) := by
  apply readsBack_record
  · exact fun none => some (List.map_eq_nil_iff.mp none)
  · rw [List.map_map]
    exact unique
  · intro field member
    rcases List.mem_map.mp member with ⟨item, among, rfl⟩
    exact ⟨isPlainName_ofString (plain item among), reads item among⟩

/-- Such a record is read from a text of its own. -/
theorem read_write_record (some : fields ≠ [])
    (unique : (fields.map Prod.fst).Nodup)
    (reads : ∀ field ∈ fields, FieldReadsBack spacing (deepest - 1) field) :
    Document.read (write spacing (.record fields)) = .ok (.record fields) := by
  have visible : skipSpaces (write spacing (.record fields)).toList =
      (write spacing (.record fields)).toList := by
    cases fields with
    | nil => exact absurd rfl some
    | cons first more =>
        rw [toList_write_record]
        exact skipSpaces_cons rfl _
  have enough : (write spacing (.record fields)).toList.length <
      2 * (write spacing (.record fields)).toList.length + 2 := by omega
  rcases readsBack_record some unique reads _ [] enough endsNumber_nil with
    ⟨after, read, blank⟩
  rw [List.append_nil, visible] at read
  rw [Document.read]
  simp only [visible]
  change readValue deepest _ _ = _ at read
  simp only [read, blank]
  rfl

end Document

end SoundGrid

import SoundGrid.Configuration
import SoundGrid.Proofs.Settings.Refusal

/-!
# Refused configurations

Callers expect that whatever is wrong with a configuration lies in a value.
This module says for which data and for which texts that is not so.  There are
two kinds of data: settings without fields, in which no unknown name is found
either, and settings in which the first value that is refused is an integer
beyond the doubles.  A text can also be nested too deep to be read.
-/

namespace SoundGrid

/-! ## The parts of a configuration -/

theorem Connectivity.category_of_numberOf {given : Datum} {fault : Fault}
    (refused : Connectivity.numberOf given = .error fault) :
    fault.category = .value := by
  rw [Connectivity.numberOf] at refused
  split at refused
  · cases refused
    rfl
  · split at refused
    · cases refused
    · cases refused
      rfl

theorem Level.category_of_ofNumber {given : Datum} {fault : Fault}
    (refused : Level.ofNumber given = .error fault) :
    fault.category = .value := by
  rw [Level.ofNumber] at refused
  split at refused
  · cases refused
  · cases refused
    rfl

/--
Texts that name no level are no numbers, no levels, or too long to be looked at.
-/
theorem Level.category_of_ofText {given : String} {fault : Fault}
    (refused : Level.ofText given = .error fault) :
    fault.category = .value := by
  rw [Level.ofText] at refused
  split at refused
  · cases refused
  · split at refused
    · cases refused
      rfl
    · split at refused
      · cases refused
        rfl
      · cases refused
        rfl
      · exact Level.category_of_ofNumber refused

theorem Level.category_of_ofDatum {given : Datum} {fault : Fault}
    (refused : Level.ofDatum given = .error fault) :
    fault.category = .value := by
  unfold Level.ofDatum at refused
  split at refused
  · split at refused
    · exact Level.category_of_ofText refused
    · cases refused
      rfl
  · exact Level.category_of_ofNumber refused

namespace Configuration

/-- A document has parts when it is a record of them. -/
theorem partsOf_eq_ok_iff {given : Datum} {parts : List (Text × Datum)} :
    partsOf given = .ok parts ↔
      given = .record parts ∧
      ∀ part ∈ parts, ∃ name ∈ names, part.1 = Text.ofString name := by
  cases given with
  | record fields =>
      simp only [partsOf]
      split
      · next none =>
        simp only [List.isEmpty_iff, List.filter_eq_nil_iff] at none
        constructor
        · rintro ⟨⟩
          refine ⟨rfl, fun part member => ?_⟩
          have known := none part.1 (List.mem_map_of_mem member)
          simp only [Bool.not_eq_true', Bool.not_eq_false, List.any_eq_true,
            beq_iff_eq] at known
          rcases known with ⟨name, listed, same⟩
          exact ⟨name, listed, same.symm⟩
        · rintro ⟨⟨⟩, -⟩
          rfl
      · next some =>
        constructor
        · intro impossible
          cases impossible
        · rintro ⟨⟨⟩, known⟩
          refine absurd ?_ some
          simp only [List.isEmpty_iff, List.filter_eq_nil_iff]
          intro name member
          rcases List.mem_map.mp member with ⟨part, among, rfl⟩
          rcases known part among with ⟨name, listed, same⟩
          simp only [Bool.not_eq_true', Bool.not_eq_false, List.any_eq_true,
            beq_iff_eq]
          exact ⟨name, listed, same.symm⟩
  | _ => simp [partsOf]

theorem category_of_partsOf {given : Datum} {fault : Fault}
    (refused : partsOf given = .error fault) : fault.category = .value := by
  cases given with
  | record fields =>
      simp only [partsOf] at refused
      split at refused
      · cases refused
      · cases refused
        rfl
  | _ =>
      cases refused
      rfl

/-- Settings that are refused for their kind are refused as a value. -/
theorem settingsOf_eq_error_cases {given : Datum} {fault : Fault}
    (refused : settingsOf given = .error fault) :
    fault.category = .value ∨ fault = .misuse .noFields ∧ given.HasNoFields ∨
      fault = .misuse .tooLarge ∧
      Settings.ofDatum given = .error (.misuse .tooLarge) := by
  rw [settingsOf] at refused
  split at refused
  · cases refused
  · next cause unread =>
    split at refused
    · cases refused
      exact Or.inl rfl
    · next otherKind =>
      cases refused
      rcases Settings.category_of_ofDatum unread with rfl | rfl | kind | value
      · exact Or.inr (Or.inl ⟨rfl, Settings.ofDatum_eq_noFields_iff.mp unread⟩)
      · exact Or.inr (Or.inr ⟨rfl, unread⟩)
      · exact absurd kind otherKind
      · exact Or.inl value

/-! ## Whole configurations -/

/-- The part with a name, or what stands for it when it is left out. -/
def partOr (name : String) (otherwise : Datum)
    (parts : List (Text × Datum)) : Datum :=
  (Datum.lookup? name parts).getD otherwise

/--
Data that are refused for something else than a value.  All that is read before
the settings is in order, and the settings have no fields or overflow.
-/
def Unguarded (given : Datum) : Prop :=
  ∃ parts connectivity, given = .record parts ∧
    (∀ part ∈ parts, ∃ name ∈ names, part.1 = Text.ofString name) ∧
    Connectivity.numberOf (partOr "connectivity" (.int 4) parts) =
      .ok connectivity ∧
    ((partOr "params" (.record []) parts).HasNoFields ∨
      ∃ sets, partOr "params" (.record []) parts = .record sets ∧
        (∀ set ∈ sets, ∃ level : Level, set.1 = Text.ofString level.key) ∧
        Settings.Overflows sets)

/-- Unguarded data are refused, and not for a value. -/
theorem Unguarded.refused {given : Datum} (unguarded : Unguarded given) :
    ∃ fault, ofDatum given = .error fault ∧ fault.category.isValue = false := by
  rcases unguarded with
    ⟨parts, connectivity, record, known, connected, settings⟩
  have split : partsOf given = .ok parts :=
    partsOf_eq_ok_iff.mpr ⟨record, known⟩
  have refusedFor :
      ∀ cause, Settings.ofDatum (partOr "params" (.record []) parts) =
      .error (.misuse cause) → cause.category ≠ .type →
        ofDatum given = .error (.misuse cause) := by
    intro cause refused otherKind
    rw [ofDatum, split]
    refine bind_eq_error_iff.mpr (Or.inr ⟨parts, rfl, ?_⟩)
    refine bind_eq_error_iff.mpr (Or.inr ⟨connectivity, connected, ?_⟩)
    refine bind_eq_error_iff.mpr (Or.inl ?_)
    rw [partOr] at refused
    rw [settingsOf, refused]
    exact if_neg otherKind
  rcases settings with noFields | overflows
  · have refused := Settings.ofDatum_eq_noFields_iff.mpr noFields
    exact ⟨_, refusedFor .noFields refused (by decide), rfl⟩
  · have refused := Settings.ofDatum_eq_tooLarge_iff.mpr overflows
    exact ⟨_, refusedFor .tooLarge refused (by decide), rfl⟩

/-- A value is wrong, or the data are unguarded. -/
theorem isValue_or_unguarded {given : Datum} {fault : Fault}
    (refused : ofDatum given = .error fault) :
    fault.category.isValue = true ∨ Unguarded given := by
  have value : fault.category = .value → fault.category.isValue = true := by
    intro kind
    rw [kind]
    rfl
  rcases bind_eq_error_iff.mp refused with unsplit | ⟨parts, split, later⟩
  · exact Or.inl (value (category_of_partsOf unsplit))
  · rcases partsOf_eq_ok_iff.mp split with ⟨record, known⟩
    rcases bind_eq_error_iff.mp later with
      unconnected | ⟨connectivity, connected, later⟩
    · exact Or.inl (value (Connectivity.category_of_numberOf unconnected))
    · rcases bind_eq_error_iff.mp later with unset | ⟨settings, set, later⟩
      · rcases settingsOf_eq_error_cases unset with
          kind | ⟨-, noFields⟩ | ⟨-, large⟩
        · exact Or.inl (value kind)
        · exact Or.inr ⟨parts, connectivity, record, known, connected,
            Or.inl noFields⟩
        · exact Or.inr ⟨parts, connectivity, record, known, connected,
            Or.inr (Settings.ofDatum_eq_tooLarge_iff.mp large)⟩
      · rcases bind_eq_error_iff.mp later with
          unlevelled | ⟨level, -, impossible⟩
        · exact Or.inl (value (Level.category_of_ofDatum unlevelled))
        · cases impossible

theorem parse_eq_ok_iff {text : String} {given : Datum} :
    parse text = .ok given ↔ Document.read text = .ok given := by
  rw [parse]
  split
  · next datum read => simp [read]
  · next read => simp [read]
  · next read => simp [read]
  · next digits read => simp [read]

/--
A text that is no document is refused for its value, unless it is nested too
deep.
-/
theorem isValue_or_tooDeep {text : String} {fault : Fault}
    (refused : parse text = .error fault) :
    fault.category.isValue = true ∨ Document.read text = .error .tooDeep := by
  rw [parse] at refused
  split at refused
  · cases refused
  · cases refused
    exact Or.inl rfl
  · next deep => exact Or.inr deep
  · cases refused
    exact Or.inl rfl

/--
Data are refused for a value unless they are unguarded, and so are texts unless
they are nested too deep or the data in them are unguarded.
-/
theorem refused_isValue_iff (given : Datum) (text : String) :
    ((∀ fault, ofDatum given = .error fault → fault.category.isValue = true) ↔
        ¬ Unguarded given) ∧
      ((∀ fault, ofText text = .error fault → fault.category.isValue = true) ↔
        ¬ (Document.read text = .error .tooDeep ∨
          ∃ datum, Document.read text = .ok datum ∧ Unguarded datum)) := by
  constructor
  · constructor
    · intro values unguarded
      rcases unguarded.refused with ⟨fault, refused, other⟩
      rw [values fault refused] at other
      cases other
    · intro guarded fault refused
      exact (isValue_or_unguarded refused).resolve_right guarded
  · constructor
    · rintro values (deep | ⟨datum, read, unguarded⟩)
      · have unread : parse text = .error (.misuse .deepDocument) := by
          rw [parse, deep]
        cases values _ (bind_eq_error_iff.mpr (Or.inl unread))
      · rcases unguarded.refused with ⟨fault, refused, other⟩
        have through : ofText text = .error fault :=
          bind_eq_error_iff.mpr
            (Or.inr ⟨datum, parse_eq_ok_iff.mpr read, refused⟩)
        rw [values fault through] at other
        cases other
    · intro guarded fault refused
      rcases bind_eq_error_iff.mp refused with unread | ⟨datum, parsed, later⟩
      · exact (isValue_or_tooDeep unread).resolve_right fun deep =>
          guarded (Or.inl deep)
      · refine (isValue_or_unguarded later).resolve_right fun unguarded => ?_
        exact guarded (Or.inr ⟨datum, parse_eq_ok_iff.mp parsed, unguarded⟩)

/--
A list in place of the settings has no fields, and no unknown names either.
-/
theorem exists_refused_not_isValue :
    ∃ fault, ofDatum (.record [("params", .list [])]) = .error fault ∧
      fault.category.isValue = false := by
  have noFields : (Datum.list []).HasNoFields := Or.inr ⟨[], rfl, by simp⟩
  have connected :
      Connectivity.numberOf (.int 4) = .ok (.int 4, .orthogonal) := rfl
  refine Unguarded.refused
    ⟨[("params", .list [])], (.int 4, .orthogonal), rfl, ?_, connected,
      Or.inl noFields⟩
  intro part member
  rw [List.mem_singleton.mp member]
  exact ⟨"params", by decide, rfl⟩

end Configuration

end SoundGrid

import SoundGrid.Proofs.Fault
import SoundGrid.Settings.Document

/-!
# Known and unknown names

Before a document is read, the items that it is made of are compared with the
names that are known.  This module says for which data no item is unknown, and
of what kind the refusals of this comparison are.
-/

namespace SoundGrid.Datum

/-- A text is equal to itself only. -/
theorem same_text_iff {name : Text} {item : Datum} :
    same (.text name) item = true ↔ item = .text name := by
  cases item with
  | text value =>
      simp only [same, beq_iff_eq, Datum.text.injEq]
      exact eq_comm
  | _ => simp [same]

/--
Whatever has no items, or items that no set can have, is of the wrong kind.
-/
theorem category_of_members {given : Datum} {fault : Fault}
    (refused : given.members = .error fault) : fault.category = .type := by
  cases given with
  | list items =>
      simp only [members] at refused
      split at refused
      · cases refused
        rfl
      · cases refused
  | text value => cases refused
  | record fields => cases refused
  | _ =>
      cases refused
      rfl

/-- So are items that cannot be put in order. -/
theorem category_of_sort {items : List Datum} {fault : Fault}
    (refused : sort items = .error fault) : fault.category = .type := by
  rw [sort] at refused
  split at refused
  · cases refused
  · cases refused
    rfl

theorem category_of_strangers {given : Datum} {names : List String}
    {fault : Fault} (refused : given.strangers names = .error fault) :
    fault.category = .type := by
  rcases bind_eq_error_iff.mp refused with first | ⟨items, -, second⟩
  · exact category_of_members first
  · exact category_of_sort second

theorem distinct_eq_nil_iff {items : List Datum} :
    distinct items = [] ↔ items = [] := by
  cases items with
  | nil => simp [distinct]
  | cons item rest => simp [distinct]

theorem sort_eq_nil_iff {items : List Datum} :
    sort items = .ok [] ↔ items = [] := by
  constructor
  · intro sorted
    rw [sort] at sorted
    split at sorted
    · have empty := Except.ok.inj sorted
      rw [← List.length_eq_zero_iff, List.length_mergeSort] at empty
      exact List.length_eq_zero_iff.mp empty
    · cases sorted
  · rintro rfl
    simp [sort, isSortable]

variable {Known : Type} {known : List Known} {name : Known → String}

/-- There are no unknown items when every item is a known name. -/
theorem strangers_eq_nil_iff {given : Datum} :
    given.strangers (known.map name) = .ok [] ↔
      ∃ items, given.members = .ok items ∧
        ∀ item ∈ items, ∃ candidate ∈ known, item = .text (name candidate) := by
  rw [strangers]
  rw [bind_eq_ok_iff]
  simp only [sort_eq_nil_iff, distinct_eq_nil_iff, List.filter_eq_nil_iff,
    List.any_map, Bool.not_eq_true', Bool.not_eq_false, List.any_eq_true,
    Function.comp_apply, same_text_iff]

/-- The items of a record are the names of its fields. -/
theorem strangers_record_eq_nil_iff {fields : List (Text × Datum)} :
    (record fields).strangers (known.map name) = .ok [] ↔
      ∀ field ∈ fields, ∃ candidate ∈ known,
        field.1 = Text.ofString (name candidate) := by
  rw [strangers_eq_nil_iff]
  constructor
  · rintro ⟨items, ⟨⟩, listed⟩ field member
    rcases listed (.text field.1) (List.mem_map_of_mem member) with
      ⟨candidate, among, same⟩
    exact ⟨candidate, among, Datum.text.inj same⟩
  · intro listed
    refine ⟨_, rfl, ?_⟩
    intro item member
    rcases List.mem_map.mp member with ⟨field, named, rfl⟩
    rcases listed field named with ⟨candidate, among, same⟩
    exact ⟨candidate, among, congrArg Datum.text same⟩

end SoundGrid.Datum

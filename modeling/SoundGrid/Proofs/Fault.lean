import Mathlib.Data.List.Forall2
import SoundGrid.Fault

/-!
# Chains that may be refused

A chain is refused when its first part is, or when the first part has a result
with which the second part is.  A fold over a list is refused at the first item
that is refused.
-/

namespace SoundGrid

variable {Error First Second : Type} {first : Except Error First}
  {second : First → Except Error Second}

theorem bind_eq_ok_iff {result : Second} :
    first >>= second = .ok result ↔
      ∃ value, first = .ok value ∧ second value = .ok result := by
  cases first with
  | error cause =>
      constructor
      · intro impossible
        cases impossible
      · rintro ⟨value, impossible, -⟩
        cases impossible
  | ok value =>
      constructor
      · intro returned
        exact ⟨value, rfl, returned⟩
      · rintro ⟨_, ⟨⟩, returned⟩
        exact returned

theorem bind_eq_error_iff {fault : Error} :
    first >>= second = .error fault ↔
      first = .error fault ∨ ∃ value, first = .ok value ∧
        second value = .error fault := by
  cases first with
  | error cause =>
      constructor
      · intro refused
        cases refused
        exact Or.inl rfl
      · rintro (⟨⟨⟩⟩ | ⟨value, impossible, -⟩)
        · rfl
        · cases impossible
  | ok value =>
      constructor
      · intro refused
        exact Or.inr ⟨value, rfl, refused⟩
      · rintro (impossible | ⟨_, ⟨⟩, refused⟩)
        · cases impossible
        · exact refused

/-- What is done with a result is never refused. -/
theorem map_eq_error_iff {change : First → Second} {fault : Error} :
    first.map change = .error fault ↔ first = .error fault := by
  cases first with
  | error cause => simp [Except.map]
  | ok value => simp [Except.map]

theorem map_eq_ok_iff {change : First → Second} {result : Second} :
    first.map change = .ok result ↔
      ∃ value, first = .ok value ∧ change value = result := by
  cases first with
  | error cause => simp [Except.map]
  | ok value => simp [Except.map]

theorem eq_ok_of_toOption {value : First}
    (returned : first.toOption = some value) : first = .ok value := by
  cases first with
  | ok result => exact congrArg Except.ok (Option.some.inj returned)
  | error cause => cases returned

/-- A guarded result is the one behind a guard that holds. -/
theorem ite_pure_eq_ok_iff {guard : Prop} [Decidable guard]
    {value result : First} {fault : Error} :
    (if guard then pure value else throw fault : Except Error First) =
      .ok result ↔ guard ∧ value = result := by
  by_cases holds : guard
  · rw [if_pos holds]
    change Except.ok value = Except.ok result ↔ _
    simp [holds]
  · rw [if_neg holds]
    constructor
    · intro impossible
      cases impossible
    · rintro ⟨impossible, -⟩
      exact absurd impossible holds

theorem throw_eq_error {fault : Error} :
    (throw fault : Except Error First) = .error fault :=
  rfl

/-- Nothing follows a refusal. -/
theorem error_bind {fault : Error} : .error fault >>= second = .error fault :=
  rfl

/--
What stands behind a guard that must not hold is reached when the guard does not
hold.
-/
theorem ite_error_eq_ok_iff {guard : Prop} [Decidable guard]
    {rest : Except Error First} {result : First} {fault : Error} :
    (if guard then .error fault else rest) = .ok result ↔
      ¬ guard ∧ rest = .ok result := by
  by_cases holds : guard
  · simp [holds]
  · simp [holds]

theorem ite_error_eq_error_iff {guard : Prop} [Decidable guard]
    {rest : Except Error First} {fault cause : Error} :
    (if guard then .error fault else rest) = .error cause ↔
      guard ∧ fault = cause ∨ ¬ guard ∧ rest = .error cause := by
  by_cases holds : guard
  · simp [holds]
  · simp [holds]

/-- A list of results is one result for each item. -/
theorem mapM_eq_ok_iff {change : First → Except Error Second}
    {items : List First} {results : List Second} :
    items.mapM change = .ok results ↔
      List.Forall₂ (fun item result => change item = .ok result) items
        results := by
  induction items generalizing results with
  | nil =>
      change Except.ok [] = Except.ok results ↔ _
      rw [List.forall₂_nil_left_iff, Except.ok.injEq, eq_comm]
  | cons item rest ih =>
      rw [List.mapM_cons, bind_eq_ok_iff, List.forall₂_cons_left_iff]
      constructor
      · rintro ⟨result, changed, others⟩
        rcases bind_eq_ok_iff.mp others with ⟨later, changedLater, joined⟩
        cases joined
        exact ⟨result, later, changed, ih.mp changedLater, rfl⟩
      · rintro ⟨result, later, changed, changedLater, rfl⟩
        exact ⟨result, changed,
          bind_eq_ok_iff.mpr ⟨later, ih.mpr changedLater, rfl⟩⟩

/-- Items that all have results have a list of results. -/
theorem exists_mapM_eq_ok
    {change : First → Except Error Second} {items : List First}
    (each : ∀ item ∈ items, ∃ result, change item = .ok result) :
    ∃ results, items.mapM change = .ok results := by
  induction items with
  | nil => exact ⟨[], rfl⟩
  | cons item rest ih =>
      rcases List.forall_mem_cons.mp each with ⟨⟨result, own⟩, others⟩
      rcases ih others with ⟨results, later⟩
      exact ⟨result :: results,
        mapM_eq_ok_iff.mpr (.cons own (mapM_eq_ok_iff.mp later))⟩

/-- What every accepted item preserves holds at the end of a fold. -/
theorem foldlM_preserves {State Item : Type}
    {step : State → Item → Except Error State} {holds : State → Prop}
    {items : List Item}
    (preserved : ∀ state item next, item ∈ items → step state item = .ok next →
      holds state → holds next) {state last : State}
      (folded : items.foldlM step state = .ok last) (start : holds state) :
    holds last := by
  induction items generalizing state with
  | nil =>
      cases folded
      exact start
  | cons item rest ih =>
      rw [List.foldlM_cons] at folded
      rcases bind_eq_ok_iff.mp folded with ⟨next, passed, later⟩
      apply ih _ later
      · exact preserved state item next List.mem_cons_self passed start
      · exact fun state item next member =>
          preserved state item next (List.mem_cons_of_mem _ member)

/-- Where a fold is refused the items before have been accepted. -/
theorem foldlM_eq_error_iff {State Item : Type}
    {step : State → Item → Except Error State} {items : List Item}
    {state : State} {fault : Error} :
    items.foldlM step state = .error fault ↔
      ∃ before item after reached, items = before ++ item :: after ∧
        before.foldlM step state = .ok reached ∧
        step reached item = .error fault := by
  constructor
  · intro refused
    induction items generalizing state with
    | nil => cases refused
    | cons item rest ih =>
        rw [List.foldlM_cons] at refused
        rcases bind_eq_error_iff.mp refused with here | ⟨next, passed, later⟩
        · exact ⟨[], item, rest, state, rfl, rfl, here⟩
        · rcases ih later with
            ⟨before, found, after, reached, rfl, filled, stopped⟩
          refine ⟨item :: before, found, after, reached, rfl, ?_, stopped⟩
          rw [List.foldlM_cons, passed]
          exact filled
  · rintro ⟨before, item, after, reached, rfl, filled, stopped⟩
    rw [List.foldlM_append, filled]
    change List.foldlM step reached (item :: after) = _
    rw [List.foldlM_cons, stopped]
    rfl

end SoundGrid

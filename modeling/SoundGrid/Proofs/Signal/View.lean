import SoundGrid.Rule

/-!
# Entries that exist

An index from zero to below the length has an entry, in a signal as well as in
a view of one, and a remainder by a positive length is such an index.
-/

namespace SoundGrid

/-- Of a positive length a remainder is an index. -/
theorem fmod_isIndex (index : Int) {length : Nat} (positive : 0 < length) :
    0 ≤ index.fmod length ∧ index.fmod length < length := by
  have above : (0 : Int) < length := by omega
  exact ⟨Int.fmod_nonneg_of_pos index above, Int.fmod_lt_of_pos index above⟩

/-- A position inside an array has an item. -/
theorem pick_natCast {Item : Type} {items : Array Item} {position : Nat}
    (inArray : position < items.size) :
    pick items position = .ok items[position] := by
  have notNegative : ¬ (position : Int) < 0 := by omega
  simp [pick, pick?, notNegative, inArray]

variable {Value : Type}

/--
Counted from the end or not, a position has its item where the array has one.
-/
theorem pick_eq_ok_iff {items : Array Value} {position : Int} {item : Value} :
    pick items position = .ok item ↔
      0 ≤ (if position < 0 then position + items.size else position) ∧
        items[(if position < 0 then position + items.size
          else position).toNat]? = some item := by
  simp only [pick, pick?]
  generalize (if position < 0 then position + items.size else position) = place
  by_cases notNegative : 0 ≤ place
  · simp only [notNegative, true_and]
    cases items[place.toNat]? with
    | none => simp
    | some found => simp
  · simp [notNegative]

theorem mem_of_pick {items : Array Value} {position : Int} {item : Value}
    (picked : pick items position = .ok item) : item ∈ items :=
  Array.mem_of_getElem? (pick_eq_ok_iff.mp picked).2

theorem pick_of_isIndex {items : Array Value} {index : Int}
    (isIndex : 0 ≤ index ∧ index < items.size) :
    ∃ item, pick items index = .ok item ∧ item ∈ items := by
  obtain ⟨position, rfl⟩ := Int.eq_ofNat_of_zero_le isIndex.1
  have inArray : position < items.size := Int.ofNat_lt.mp isIndex.2
  exact ⟨_, pick_natCast inArray, Array.getElem_mem inArray⟩

/--
An entry of a view is one of the signal, or the one that replaces an entry.
-/
theorem SignalView.get_of_isIndex {view : SignalView Value} {index : Int}
    (isIndex : 0 ≤ index ∧ index < view.base.size) :
    ∃ entry, view.get index = .ok entry ∧
      (entry = view.value ∨ entry ∈ view.base) := by
  have notNegative : ¬ index < 0 := by omega
  have inside : 0 ≤ index ∧ index < view.size := isIndex
  simp only [SignalView.get, if_neg notNegative, if_pos inside]
  by_cases replaced : index = view.index
  · rw [if_pos replaced]
    exact ⟨view.value, rfl, Or.inl rfl⟩
  · rw [if_neg replaced]
    rcases pick_of_isIndex isIndex with ⟨entry, picked, member⟩
    exact ⟨entry, picked, Or.inr member⟩

theorem SignalView.get_index {view : SignalView Value}
    (inside : 0 ≤ view.index ∧ view.index < view.base.size) :
    view.get view.index = .ok view.value := by
  have notNegative : ¬ view.index < 0 := by omega
  have within : 0 ≤ view.index ∧ view.index < view.size := inside
  simp only [SignalView.get, if_neg notNegative, if_pos within, if_true]

/-- Away from its index a view has the entries of its signal. -/
theorem SignalView.get_eq_ok_iff {view : SignalView Value}
    {position : Int} {entry : Value}
    (elsewhere : position % view.base.size ≠ view.index % view.base.size) :
    view.get position = .ok entry ↔ pick view.base position = .ok entry := by
  have congruent :
      (if position < 0 then position + view.base.size else position) %
      (view.base.size : Int) = position % view.base.size := by
    split
    · exact Int.add_emod_right ..
    · rfl
  rw [pick_eq_ok_iff]
  unfold SignalView.get SignalView.size
  generalize (if position < 0 then position + (view.base.size : Int)
    else position) = place at congruent
  have other : place ≠ view.index := by
    rintro rfl
    exact elsewhere congruent.symm
  by_cases inside : 0 ≤ place ∧ place < view.base.size
  · have notNegative : ¬ place < 0 := by omega
    simp only [if_pos inside, if_neg other, pick_eq_ok_iff, if_neg notNegative]
  · rw [if_neg inside]
    constructor
    · intro impossible
      cases impossible
    · rintro ⟨notNegative, found⟩
      have inArray := (Array.getElem?_eq_some_iff.mp found).1
      omega

/-- The own entry of a view of a signal with samples. -/
theorem Reading.own_of_view {Real : Type} {cell : Cell Value}
    {view : SignalView Value} {neighbours : Int} {settings : RuleSettings Real}
    (nonempty : 0 < view.base.size) :
    ∃ entry,
      (⟨cell, .view view, neighbours, settings⟩ : Reading Real Value).own =
        .ok entry ∧ (entry = view.value ∨ entry ∈ view.base) := by
  have notEmpty : ¬ view.base.size = 0 := by omega
  have own :
      (⟨cell, .view view, neighbours, settings⟩ : Reading Real Value).own =
      view.get (cell.index.fmod view.base.size) := if_neg notEmpty
  rw [own]
  exact SignalView.get_of_isIndex (fmod_isIndex cell.index nonempty)

end SoundGrid

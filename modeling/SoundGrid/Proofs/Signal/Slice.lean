import Mathlib.Data.List.Sort
import Mathlib.Tactic.Linarith
import Mathlib.Tactic.Positivity
import Mathlib.Tactic.Ring
import SoundGrid.Signal.Slice

/-!
# Slices of a list

What a slice picks from a list, said by the places that it selects and not by
counting its steps: those between its two bounds that lie a whole number of
steps from where the steps come from.  Here no bound is cut off at the far end
of the list, for there are no places behind it.

The positions that a slice counts are these places, in the direction of its
steps.  Both lists have no repetition and are sorted by that direction, so it is
enough that they have the same members.
-/

namespace SoundGrid

/--
The place that a position stands for in so many items, counted from the end when
negative.
-/
def counted (length : Nat) (position : Int) : Int :=
  if position < 0 then position + length else position

/-- Two ascending lists of places with the same members are the same. -/
theorem eq_of_ascending {first second : List Int}
    (firstAscends : first.Pairwise (· < ·))
    (secondAscends : second.Pairwise (· < ·))
    (same : ∀ place, place ∈ first ↔ place ∈ second) : first = second := by
  have firstApart : first.Nodup := firstAscends.imp Int.ne_of_lt
  have secondApart : second.Nodup := secondAscends.imp Int.ne_of_lt
  have permuted := (List.perm_ext_iff_of_nodup firstApart secondApart).mpr same
  exact permuted.eq_of_pairwise
    (fun _ _ _ _ below above => (lt_asymm below above).elim)
    firstAscends secondAscends

theorem ascending_ofNat {places : List Nat}
    (ascends : places.Pairwise (· < ·)) :
    (places.map Int.ofNat).Pairwise (· < ·) :=
  List.pairwise_map.mpr (ascends.imp Int.ofNat_lt.mpr)

namespace Slice

/--
The distance from one item that is picked to the next, negative when the steps
go backward.
-/
def stride (slice : Slice) : Int :=
  slice.step.getD 1

/--
The place that the steps come from; at the near end of the list if it would lie
before it.
-/
def origin (slice : Slice) (length : Nat) : Int :=
  if 0 < slice.stride then max 0 ((slice.start.map (counted length)).getD 0)
  else min (length - 1) ((slice.start.map (counted length)).getD (length - 1))

/-- The place that the steps have to stay before. -/
def limit (slice : Slice) (length : Nat) : Int :=
  (slice.stop.map (counted length)).getD
    (if 0 < slice.stride then length else -1)

/--
Whether the steps come by a place, from the origin on and before the limit.
-/
def Selects (slice : Slice) (length : Nat) (place : Int) : Prop :=
  slice.stride ∣ place - slice.origin length ∧
    if 0 < slice.stride then slice.origin length ≤ place ∧
    place < slice.limit length
    else place ≤ slice.origin length ∧ slice.limit length < place

instance (slice : Slice) (length : Nat) (place : Int) :
    Decidable (slice.Selects length place) :=
  inferInstanceAs (Decidable (_ ∧ ite ..))

/-- The places of a list that a slice selects, in the direction of its steps. -/
def selected (slice : Slice) (length : Nat) : List Nat :=
  let places :=
    (List.range length).filter fun (place : Nat) => slice.Selects length place
  if 0 < slice.stride then places else places.reverse

/-- The items at the places that a slice selects. -/
def ofList {Value : Type} (slice : Slice) (items : List Value) : List Value :=
  (slice.selected items.length).filterMap fun place => items[place]?

theorem lt_of_mem_selected {slice : Slice} {length place : Nat}
    (member : place ∈ slice.selected length) : place < length := by
  unfold selected at member
  split at member
  · exact List.mem_range.mp (List.mem_filter.mp member).1
  · exact List.mem_range.mp (List.mem_filter.mp (List.mem_reverse.mp member)).1

/-! ## Steps -/

/--
A bound is clipped by bringing the place that it stands for between two ends.
-/
theorem clip_eq {low high : Int} {length : Nat} (below : low ≤ 0)
    (ordered : low ≤ high) (above : length - 1 ≤ high) (bound : Int) :
    clip low high length bound = max low (min high (counted length bound)) := by
  unfold clip counted
  split <;> omega

theorem mem_steps_iff {start stop step place : Int} :
    (place ∈ (List.range (count start stop step)).map fun (taken : Nat) =>
      start + taken * step) ↔ ∃ taken : Nat, taken < count start stop step ∧
      start + taken * step = place := by
  simp

/--
Steps forward come by the places before the stop that lie a multiple of the step
ahead.
-/
theorem mem_steps_forward {start stop step place : Int} (forward : 0 < step) :
    (place ∈ (List.range (count start stop step)).map fun (taken : Nat) =>
      start + taken * step) ↔
      step ∣ place - start ∧ start ≤ place ∧ place < stop := by
  have counts (taken : Nat) :
      taken < count start stop step ↔ start + taken * step < stop := by
    rw [count, if_pos forward, Int.lt_toNat, Int.lt_iff_add_one_le,
      Int.le_ediv_iff_mul_le forward, add_mul]
    omega
  simp only [mem_steps_iff, counts]
  constructor
  · rintro ⟨taken, before, rfl⟩
    have ahead : 0 ≤ taken * step := by positivity
    exact ⟨⟨taken, by ring⟩, by omega, before⟩
  · rintro ⟨⟨multiple, apart⟩, ahead, before⟩
    have notNegative : 0 ≤ multiple :=
      nonneg_of_mul_nonneg_right (by omega : 0 ≤ step * multiple) forward
    obtain ⟨taken, rfl⟩ := Int.eq_ofNat_of_zero_le notNegative
    have reached : start + taken * step = place := by linarith
    exact ⟨taken, reached ▸ before, reached⟩

/--
Steps backward come by the places behind the stop that lie a multiple of the
step back.
-/
theorem mem_steps_backward {start stop step place : Int} (backward : step < 0) :
    (place ∈ (List.range (count start stop step)).map fun (taken : Nat) =>
      start + taken * step) ↔
      step ∣ place - start ∧ place ≤ start ∧ stop < place := by
  have mirrored : count start stop step = count (-start) (-stop) (-step) := by
    rw [count, count, if_neg (by omega), if_pos (by omega)]
    ring_nf
  have turned := @mem_steps_forward (-start) (-stop) (-step) (-place) (by omega)
  have opposite : -place - -start = -(place - start) := by ring
  rw [mem_steps_iff, ← mirrored, opposite, neg_dvd, dvd_neg] at turned
  rw [mem_steps_iff]
  constructor
  · rintro ⟨taken, within, reached⟩
    have := turned.mp ⟨taken, within, by rw [← reached]; ring⟩
    exact ⟨this.1, by omega, by omega⟩
  · rintro ⟨apart, back, behind⟩
    obtain ⟨taken, within, reached⟩ := turned.mpr ⟨apart, by omega, by omega⟩
    exact ⟨taken, within, by linarith⟩

/-! ## Positions -/

theorem steps_ascend {start stop step : Int} (forward : 0 < step) :
    ((List.range (count start stop step)).map fun (taken : Nat) =>
      start + taken * step).Pairwise (· < ·) := by
  refine List.pairwise_map.mpr
    (List.pairwise_lt_range.imp fun {taken other} later => ?_)
  have := Int.mul_lt_mul_of_pos_right (Int.ofNat_lt.mpr later) forward
  omega

theorem steps_descend {start stop step : Int} (backward : step < 0) :
    ((List.range (count start stop step)).map fun (taken : Nat) =>
      start + taken * step).Pairwise (fun place other => other < place) := by
  refine List.pairwise_map.mpr
    (List.pairwise_lt_range.imp fun {taken other} later => ?_)
  have := Int.mul_lt_mul_of_neg_right (Int.ofNat_lt.mpr later) backward
  omega

theorem mem_places_iff {slice : Slice} {length : Nat} {place : Int} :
    (place ∈ ((List.range length).filter fun (place : Nat) =>
        decide (slice.Selects length place)).map Int.ofNat) ↔
      (0 ≤ place ∧ place < length) ∧ slice.Selects length place := by
  simp only [List.mem_map, List.mem_filter, List.mem_range, decide_eq_true_eq]
  constructor
  · rintro ⟨natural, ⟨inside, selects⟩, rfl⟩
    exact ⟨⟨Int.natCast_nonneg natural, Int.ofNat_lt.mpr inside⟩, selects⟩
  · rintro ⟨⟨notNegative, inside⟩, selects⟩
    obtain ⟨natural, rfl⟩ := Int.eq_ofNat_of_zero_le notNegative
    exact ⟨natural, ⟨Int.ofNat_lt.mp inside, selects⟩, rfl⟩

/--
A bound that is cut off at the far end of the list selects the same places.
-/
theorem positions_forward {slice : Slice} (forward : 0 < slice.stride)
    (length : Nat) :
    slice.positions length = .ok ((slice.selected length).map Int.ofNat) := by
  have step : slice.step.getD 1 = slice.stride := rfl
  have clips (bound : Int) : clip 0 length length bound =
      max 0 (min (length : Int) (counted length bound)) :=
    clip_eq (Int.le_refl 0) (Int.natCast_nonneg length) (by omega) bound
  have start : (slice.start.map (clip 0 length length)).getD 0 =
      min (length : Int) (slice.origin length) := by
    rw [origin, if_pos forward]
    cases slice.start with
    | none => simp
    | some bound =>
        simp only [Option.map_some, Option.getD_some, clips]
        omega
  have stop : (slice.stop.map (clip 0 length length)).getD length =
      max 0 (min (length : Int) (slice.limit length)) := by
    rw [limit, if_pos forward]
    cases slice.stop with
    | none => simp
    | some bound => simp only [Option.map_some, Option.getD_some, clips]
  have notNegative : 0 ≤ slice.origin length := by
    rw [origin, if_pos forward]
    exact le_max_left ..
  simp only [positions, step, if_neg (Int.ne_of_gt forward),
    decide_eq_true forward, if_true, start, stop, selected, if_pos forward]
  refine congrArg Except.ok (eq_of_ascending (steps_ascend forward)
    (ascending_ofNat (List.pairwise_lt_range.filter _)) fun place => ?_)
  rw [mem_steps_forward forward, mem_places_iff, Selects, if_pos forward]
  constructor
  · rintro ⟨apart, ahead, before⟩
    have same :
        min (length : Int) (slice.origin length) = slice.origin length := by
      omega
    rw [same] at apart
    exact ⟨by omega, apart, by omega⟩
  · rintro ⟨inside, apart, between⟩
    have same :
        min (length : Int) (slice.origin length) = slice.origin length := by
      omega
    rw [same]
    exact ⟨apart, by omega⟩

/-- So does one that is cut off at the near end by steps that go backward. -/
theorem positions_backward {slice : Slice} (backward : slice.stride < 0)
    (length : Nat) :
    slice.positions length = .ok ((slice.selected length).map Int.ofNat) := by
  have step : slice.step.getD 1 = slice.stride := rfl
  have notForward : ¬ 0 < slice.stride := by omega
  have clips (bound : Int) : clip (-1) (length - 1) length bound =
      max (-1) (min (length - 1 : Int) (counted length bound)) :=
    clip_eq (by omega) (by omega) (Int.le_refl _) bound
  have start :
      (slice.start.map (clip (-1) (length - 1) length)).getD (length - 1) =
      max (-1) (slice.origin length) := by
    rw [origin, if_neg notForward]
    cases slice.start with
    | none =>
        simp only [Option.map_none, Option.getD_none]
        omega
    | some bound => simp only [Option.map_some, Option.getD_some, clips]
  have stop : (slice.stop.map (clip (-1) (length - 1) length)).getD (-1) =
      max (-1) (min (length - 1 : Int) (slice.limit length)) := by
    rw [limit, if_neg notForward]
    cases slice.stop with
    | none =>
        simp only [Option.map_none, Option.getD_none]
        omega
    | some bound => simp only [Option.map_some, Option.getD_some, clips]
  have inside : slice.origin length ≤ length - 1 := by
    rw [origin, if_neg notForward]
    exact min_le_left ..
  simp only [positions, step, if_neg (Int.ne_of_lt backward),
    decide_eq_false notForward, if_false, Bool.false_eq_true, start, stop,
    selected, if_neg notForward, List.map_reverse]
  refine congrArg Except.ok (List.reverse_injective ?_)
  rw [List.reverse_reverse]
  refine eq_of_ascending (List.pairwise_reverse.mpr (steps_descend backward))
    (ascending_ofNat (List.pairwise_lt_range.filter _)) fun place => ?_
  rw [List.mem_reverse, mem_steps_backward backward, mem_places_iff, Selects,
    if_neg notForward]
  constructor
  · rintro ⟨apart, back, behind⟩
    have same : max (-1) (slice.origin length) = slice.origin length := by omega
    rw [same] at apart
    exact ⟨by omega, apart, by omega⟩
  · rintro ⟨within, apart, between⟩
    have same : max (-1) (slice.origin length) = slice.origin length := by omega
    rw [same]
    exact ⟨apart, by omega⟩

/-- The positions that a slice counts are the places that it selects. -/
theorem positions_eq {slice : Slice} (steps : slice.stride ≠ 0) (length : Nat) :
    slice.positions length = .ok ((slice.selected length).map Int.ofNat) := by
  rcases Int.lt_or_lt_of_ne steps with backward | forward
  · exact positions_backward backward length
  · exact positions_forward forward length

end Slice

end SoundGrid

import Mathlib.Data.List.Forall2
import SoundGrid.Proofs.Fault
import SoundGrid.Proofs.Signal.Slice
import SoundGrid.Proofs.Signal.View

/-!
# Views as lists

A view cannot be told from the list of its signal with one entry replaced.
Everything that can be asked of it is asked entry by entry, so it comes down to
single entries and to the positions that a request visits.  `Reads` joins the
two: it says which entries stand at a list of positions, and each request is
answered from there.

A loop over a view does not know how long the view is.  It stops at the first
position that is refused as no index, and `Walk` describes what it has read
until then.
-/

namespace SoundGrid

/-- Two requests with one result, or with refusals of one category. -/
def Alike {Result : Type} (first second : Except Fault Result) : Prop :=
  first.mapError Fault.category = second.mapError Fault.category

/--
The items from a start on and before a stop, both counted from the end when
negative.
-/
def segment {Value : Type} (list : List Value) (start : Int)
    (stop : Option Int) : List Value :=
  (list.take ((stop.map (counted list.length)).getD list.length).toNat).drop
    (counted list.length start).toNat

/--
The number of the first item that passes a test, when they are numbered from a
start on.
-/
def firstNumber {Value : Type} (test : Value → Except Fault Bool)
    (items : List Value) (start : Nat) : Except Fault (Option Nat) := do
  let found ← (items.zipIdx start).findM? fun (item, _) => test item
  pure (found.map Prod.snd)

/-- The first position between a start and a stop whose item passes a test. -/
def positionAmong {Value : Type} (test : Value → Except Fault Bool)
    (list : List Value) (start : Int)
    (stop : Option Int) : Except Fault Int := do
  match ← firstNumber test (segment list start stop)
    (counted list.length start).toNat with
  | some place => pure place
  | none => throw (.misuse .absent)

namespace SignalView

variable {Value : Type} {view : SignalView Value}

/--
The list of the signal, with the entry at the index replaced if there is one.
-/
def toList (view : SignalView Value) : List Value :=
  if 0 ≤ view.index then view.base.toList.set view.index.toNat view.value
    else view.base.toList

@[simp]
theorem length_toList (view : SignalView Value) :
    view.toList.length = view.size := by
  unfold toList size
  split <;> simp

/-! ## Single entries -/

/--
The entry at a position is the item of the list at the place that the position
stands for.
-/
theorem get_of_counted {position : Int} {place : Nat}
    (stands : counted view.size position = place)
    (inside : place < view.toList.length) :
    view.get position = .ok view.toList[place] := by
  have within : place < view.base.size := by simpa [size] using inside
  have isIndex : 0 ≤ (place : Int) ∧ (place : Int) < view.size :=
    ⟨Int.natCast_nonneg place, Int.ofNat_lt.mpr within⟩
  unfold counted at stands
  simp only [get, stands, if_pos isIndex, toList]
  by_cases own : (place : Int) = view.index
  · have counts : 0 ≤ view.index := own ▸ Int.natCast_nonneg place
    have same : view.index.toNat = place := by omega
    simp [own, counts, same]
  · rw [if_neg own, pick_natCast within]
    by_cases counts : 0 ≤ view.index
    · have other : view.index.toNat ≠ place := by omega
      simp [counts, List.getElem_set_ne other]
    · simp [counts]

theorem get_natCast {place : Nat} (inside : place < view.toList.length) :
    view.get place = .ok view.toList[place] :=
  get_of_counted (if_neg (by omega)) inside

theorem get_of_outside {position : Int}
    (outside : ¬ (0 ≤ counted view.size position ∧
      counted view.size position < view.size)) :
      view.get position = .error (.rejected .signalIndex) :=
  if_neg outside

/-- Every position has the same entry as in the list, or none in both. -/
theorem get_alike (view : SignalView Value) (position : Int) :
    Alike (view.get position) (pick view.toList.toArray position) := by
  have stands :
      (if position < 0 then position + (view.toList.toArray.size : Int)
        else position) =
      counted view.size position := by
    rw [List.size_toArray, length_toList]
    rfl
  by_cases inside : 0 ≤ counted view.size position ∧
    counted view.size position < view.size
  · obtain ⟨place, found⟩ := Int.eq_ofNat_of_zero_le inside.1
    have within : place < view.toList.length := by
      rw [length_toList]
      omega
    have picked :
        pick view.toList.toArray position = .ok view.toList[place] := by
      rw [pick_eq_ok_iff, stands, found]
      exact ⟨Int.natCast_nonneg place, by simp⟩
    rw [get_of_counted found within, picked]
    rfl
  · have refused :
        pick view.toList.toArray position = .error (.misuse .indexOutside) := by
      unfold pick pick?
      simp only [stands]
      split
      · rename_i value found
        split at found
        · have := (Array.getElem?_eq_some_iff.mp found).1
          rw [List.size_toArray, length_toList] at this
          omega
        · cases found
      · rfl
    rw [get_of_outside inside, refused]
    rfl

/-! ## Lists of positions -/

/-- The entries that stand at some positions. -/
def Reads (view : SignalView Value) : List Int → List Value → Prop :=
  List.Forall₂ fun position value => view.get position = .ok value

theorem Reads.getAll {positions : List Int} {values : List Value}
    (reads : view.Reads positions values) :
    view.getAll positions = .ok values := by
  induction reads with
  | nil => rfl
  | cons read _ ih =>
      rw [SignalView.getAll, read, ih]
      rfl

/-- At places inside the list there are its items. -/
theorem reads_places {places : List Nat}
    (inside : ∀ place ∈ places, place < view.toList.length) :
    view.Reads (places.map Int.ofNat)
      (places.filterMap fun place => view.toList[place]?) := by
  induction places with
  | nil => exact List.Forall₂.nil
  | cons place rest ih =>
      rcases List.forall_mem_cons.mp inside with ⟨own, others⟩
      rw [List.filterMap_cons, List.getElem?_eq_getElem own]
      exact List.Forall₂.cons (get_natCast own) (ih others)

/-- Consecutive places have consecutive items. -/
theorem reads_range' (view : SignalView Value) (start stop : Nat) :
    view.Reads ((List.range' start (min stop view.size - start)).map Int.ofNat)
      ((view.toList.take stop).drop start) := by
  refine List.forall₂_iff_get.mpr ⟨by simp, ?_⟩
  intro number inPositions inItems
  have inside : start + number < view.toList.length := by
    simp only [List.length_drop, List.length_take] at inItems
    omega
  simpa using get_natCast inside

/-- The positions of a view run through its list. -/
theorem reads_positions (view : SignalView Value) :
    view.Reads view.positions view.toList := by
  have reads := view.reads_range' 0 view.size
  rwa [Nat.min_self, Nat.sub_zero, ← List.range_eq_range', List.drop_zero,
    List.take_of_length_le (Nat.le_of_eq view.length_toList)] at reads

/-- A search stops at the first item that passes its test. -/
theorem Reads.findAmong_isSome {positions : List Int} {values : List Value}
    (reads : view.Reads positions values) (test : Value → Except Fault Bool) :
    (do pure (← view.findAmong test positions).isSome) = values.anyM test := by
  induction reads with
  | nil => rfl
  | @cons position value positions values read _ ih =>
      rw [findAmong, read, List.anyM, ← ih]
      change (test value >>= _) >>= _ = test value >>= _
      cases test value with
      | error fault => rfl
      | ok passes => cases passes <;> rfl

/--
Where the positions are consecutive the search finds the number of the item.
-/
theorem findAmong_range' (test : Value → Except Fault Bool)
    {start : Nat} {values : List Value}
    (reads : view.Reads ((List.range' start values.length).map Int.ofNat)
      values) :
    view.findAmong test ((List.range' start values.length).map Int.ofNat) =
      (firstNumber test values start).map (Option.map Int.ofNat) := by
  induction values generalizing start with
  | nil => rfl
  | cons value rest ih =>
      rw [List.length_cons, List.range'_succ, List.map_cons] at reads ⊢
      rcases List.forall₂_cons.mp reads with ⟨read, others⟩
      rw [findAmong, read, ih others, firstNumber, firstNumber,
        List.zipIdx_cons, List.findM?]
      change (test value >>= _) = ((test value >>= _) >>= _).map _
      cases test value with
      | error fault => rfl
      | ok passes => cases passes <;> rfl

theorem countAmong_eq (test : Value → Except Fault Bool) (values : List Value) :
    countAmong test values = (values.mapM test).map (List.count true) := by
  induction values with
  | nil => rfl
  | cons value rest ih =>
      rw [countAmong, ih, List.mapM_cons]
      cases test value with
      | error fault => rfl
      | ok passes =>
          change ((rest.mapM test).map _ >>= _) = (rest.mapM test >>= _).map _
          cases rest.mapM test with
          | error fault => rfl
          | ok results => cases passes
            <;> simp [Except.map, bind, Except.bind, pure, Except.pure]

/-! ## Segments -/

theorem length_segment (list : List Value) (start : Int) (stop : Option Int) :
    (segment list start stop).length =
      min ((stop.map (counted list.length)).getD list.length).toNat
        list.length - (counted list.length start).toNat := by
  simp [segment]

/-- The positions between a start and a stop are those of the segment. -/
theorem between_eq (view : SignalView Value) (start : Int) (stop : Option Int) :
    view.between start stop =
      (List.range' (counted view.size start).toNat
        (segment view.toList start stop).length).map Int.ofNat := by
  have last : view.between start stop = view.positions.filter fun position =>
      (if start < 0 then max (view.size + start) 0 else start) ≤ position ∧
        position < (stop.map (counted view.size)).getD view.size := by
    cases stop <;> rfl
  rw [last, length_segment, length_toList]
  refine eq_of_ascending ?_ (ascending_ofNat List.pairwise_lt_range')
    fun place => ?_
  · exact (ascending_ofNat List.pairwise_lt_range).filter _
  · generalize (stop.map (counted view.size)).getD (view.size : Int) = bound
    simp only [positions, counted, List.mem_filter, List.mem_map,
      List.mem_range, List.mem_range'_1, decide_eq_true_eq]
    constructor
    · rintro ⟨⟨natural, inside, rfl⟩, behind, before⟩
      refine ⟨natural, ?_, rfl⟩
      simp only [Int.ofNat_eq_natCast] at behind before
      omega
    · rintro ⟨natural, between, rfl⟩
      simp only [Int.ofNat_eq_natCast]
      exact ⟨⟨natural, by omega, rfl⟩, by omega, by omega⟩

theorem reads_between (view : SignalView Value) (start : Int)
    (stop : Option Int) :
    view.Reads (view.between start stop) (segment view.toList start stop) := by
  rw [between_eq, length_segment, segment, length_toList]
  exact reads_range' ..

theorem indexOf_eq (view : SignalView Value) (test : Value → Except Fault Bool)
    (start : Int) (stop : Option Int) :
    view.indexOf test start stop =
      positionAmong test view.toList start stop := by
  have reads := view.reads_between start stop
  rw [between_eq] at reads
  rw [indexOf, positionAmong, between_eq, findAmong_range' test reads,
    length_toList]
  cases firstNumber test (segment view.toList start stop)
      (counted view.size start).toNat with
  | error fault => rfl
  | ok found => cases found <;> rfl

/-! ## Loops -/

/--
What a loop reads from a place on, until it comes to a stop or to a place that
is refused as no index.
-/
inductive Walk (view : SignalView Value) (stop : Option Int) :
    Nat → List Value → Prop where
  | stopped {place : Nat} {bound : Int} (limit : stop = some bound)
    (reached : bound ≤ place) :
      Walk view stop place []
  | ended {place : Nat} {fault : Fault}
    (ahead : ∀ bound ∈ stop, (place : Int) < bound)
    (refused : view.get place = .error fault)
    (noIndex : fault.category = .index) :
      Walk view stop place []
  | next {place : Nat} {value : Value} {values : List Value}
      (ahead : ∀ bound ∈ stop, (place : Int) < bound)
      (read : view.get place = .ok value)
      (rest : Walk view stop (place + 1) values) :
      Walk view stop place (value :: values)

theorem get_of_behind {place : Nat} (behind : view.toList.length ≤ place) :
    view.get place = .error (.rejected .signalIndex) := by
  rw [length_toList] at behind
  apply get_of_outside
  rw [counted, if_neg (by omega)]
  omega

theorem lt_length_of_get {place : Nat} {value : Value}
    (read : view.get place = .ok value) :
    ∃ inside : place < view.toList.length, value = view.toList[place] := by
  by_cases inside : place < view.toList.length
  · rw [get_natCast inside] at read
    exact ⟨inside, (Except.ok.inj read).symm⟩
  · rw [get_of_behind (Nat.le_of_not_lt inside)] at read
    cases read

theorem ahead_iff {stop : Option Int} {place : Nat}
    (inside : place < view.size) :
    (∀ bound ∈ stop, (place : Int) < bound) ↔
      place < (stop.getD view.size).toNat := by
  cases stop with
  | none => simpa using inside
  | some bound => simp [Int.lt_toNat]

/-- What a loop reads is the list from its place on, up to its stop. -/
theorem Walk.eq {stop : Option Int} {place : Nat} {values : List Value}
    (walk : view.Walk stop place values) :
    values = (view.toList.take (stop.getD view.size).toNat).drop place := by
  induction walk with
  | @stopped place bound limit reached =>
      refine (List.drop_eq_nil_of_le ?_).symm
      rw [List.length_take, limit, Option.getD_some]
      omega
  | @ended place fault ahead refused noIndex =>
      refine (List.drop_eq_nil_of_le ?_).symm
      rw [List.length_take]
      by_contra inside
      rw [get_natCast (by omega)] at refused
      cases refused
  | @next place value values ahead read rest ih =>
      rcases lt_length_of_get read with ⟨inside, rfl⟩
      have before := (ahead_iff (length_toList view ▸ inside)).mp ahead
      have within :
          place < (view.toList.take (stop.getD view.size).toNat).length := by
        rw [List.length_take]
        omega
      rw [List.drop_eq_getElem_cons within, List.getElem_take, ih]

/--
A loop always comes to an end, for every turn leaves one place less before it.
-/
theorem exists_walk (view : SignalView Value) (stop : Option Int)
    (place : Nat) : ∃ values, view.Walk stop place values := by
  induction left : view.toList.length - place generalizing place with
  | zero =>
      by_cases ahead : ∀ bound ∈ stop, (place : Int) < bound
      · exact ⟨[], .ended ahead (get_of_behind (by omega)) rfl⟩
      · push Not at ahead
        rcases ahead with ⟨bound, limit, reached⟩
        exact ⟨[], .stopped limit reached⟩
  | succ left ih =>
      have inside : place < view.toList.length := by omega
      by_cases ahead : ∀ bound ∈ stop, (place : Int) < bound
      · rcases ih (place + 1) (by omega) with ⟨values, rest⟩
        exact ⟨view.toList[place] :: values,
          .next ahead (get_natCast inside) rest⟩
      · push Not at ahead
        rcases ahead with ⟨bound, limit, reached⟩
        exact ⟨[], .stopped limit reached⟩

/-- A loop from a start on and before a stop reads the segment between them. -/
theorem walk_iff (start : Int) (stop : Option Int) {values : List Value} :
    view.Walk (stop.map (counted view.size))
        (counted view.size start).toNat values ↔
      values = segment view.toList start stop := by
  rw [segment, length_toList]
  constructor
  · exact Walk.eq
  · rintro rfl
    rcases view.exists_walk (stop.map (counted view.size))
        (counted view.size start).toNat with
      ⟨values, walk⟩
    exact walk.eq ▸ walk

/-! ## A view acts as a list -/

theorem slice_eq (view : SignalView Value) {slice : Slice}
    (steps : slice.stride ≠ 0) :
    view.slice slice = .ok (slice.ofList view.toList) := by
  have inside :
      ∀ place ∈ slice.selected view.size, place < view.toList.length := by
    intro place member
    rw [length_toList]
    exact Slice.lt_of_mem_selected member
  rw [SignalView.slice, Slice.positions_eq steps, Slice.ofList, length_toList]
  exact (reads_places inside).getAll

/-- What can be asked of a view is answered as a list answers it. -/
structure ActsAs (view : SignalView Value) (list : List Value) : Prop where
  size : view.size = list.length
  get : ∀ position, Alike (view.get position) (pick list.toArray position)
  slice : ∀ slice : Slice, slice.stride ≠ 0 →
    view.slice slice = .ok (slice.ofList list)
  entries : view.entries = .ok list
  reversed : view.reversed = .ok list.reverse
  contains : ∀ test, view.contains test = list.anyM test
  count : ∀ test, view.count test = (list.mapM test).map (List.count true)
  indexOf : ∀ test start stop, view.indexOf test start stop =
    positionAmong test list start stop
  /-- A loop reads all of it. -/
  iteration : ∀ values, view.Walk none 0 values ↔ values = list
  /-- A loop from a start on and before a stop reads what lies between them. -/
  walk : ∀ start stop values,
    view.Walk (stop.map (counted list.length))
      (counted list.length start).toNat values ↔
      values = segment list start stop

theorem actsAs_toList (view : SignalView Value) : view.ActsAs view.toList where
  size := view.length_toList.symm
  get := view.get_alike
  slice _ steps := view.slice_eq steps
  entries := view.reads_positions.getAll
  reversed := Reads.getAll (List.rel_reverse view.reads_positions)
  contains := view.reads_positions.findAmong_isSome
  count test := by
    rw [SignalView.count, entries, view.reads_positions.getAll]
    exact countAmong_eq test view.toList
  indexOf := view.indexOf_eq
  iteration values := by
    have whole : segment view.toList 0 none = view.toList := by
      simp [segment, counted]
    exact (walk_iff 0 none).trans (by rw [whole])
  walk start stop values := by
    rw [length_toList]
    exact walk_iff start stop

theorem actsAs_set (notNegative : 0 ≤ view.index) :
    view.ActsAs (view.base.toList.set view.index.toNat view.value) := by
  have acts := view.actsAs_toList
  rwa [toList, if_pos notNegative] at acts

/--
A view acts as the list of its signal with the entry at its index replaced; if
there is no entry at its index, it acts as the list of its signal.
-/
theorem actsAs_replaced (view : SignalView Value) :
    (0 ≤ view.index ∧ view.index < view.base.size →
        view.ActsAs (view.base.toList.set view.index.toNat view.value)) ∧
      (¬ (0 ≤ view.index ∧ view.index < view.base.size) →
        view.ActsAs view.base.toList) := by
  constructor
  · rintro ⟨notNegative, -⟩
    exact actsAs_set notNegative
  · intro outside
    have acts := view.actsAs_toList
    by_cases notNegative : 0 ≤ view.index
    · have behind : view.base.toList.length ≤ view.index.toNat := by
        rw [Array.length_toList]
        omega
      rwa [toList, if_pos notNegative, List.set_eq_of_length_le behind] at acts
    · rwa [toList, if_neg notNegative] at acts

/--
Four entries, of which the third is replaced in one view and none in the other.
-/
theorem actsAs_replaced_four :
    ∃ replaced unchanged : SignalView Nat,
      (0 ≤ replaced.index ∧ replaced.index < replaced.base.size) ∧
        replaced.ActsAs [1, 2, 9, 4] ∧
        replaced.slice ⟨some (-1), none, some (-1)⟩ = .ok [4, 9, 2, 1] ∧
        ¬ (0 ≤ unchanged.index ∧ unchanged.index < unchanged.base.size) ∧
        unchanged.ActsAs [1, 2, 3, 4] := by
  let replaced : SignalView Nat := ⟨#[1, 2, 3, 4], 2, 9⟩
  let unchanged : SignalView Nat := ⟨#[1, 2, 3, 4], -2, 9⟩
  have acts : replaced.ActsAs [1, 2, 9, 4] :=
    (actsAs_replaced replaced).1 (by decide)
  refine ⟨replaced, unchanged, by decide, acts, ?_, by decide, ?_⟩
  · exact acts.slice ⟨some (-1), none, some (-1)⟩ (by decide)
  · exact (actsAs_replaced unchanged).2 (by decide)

end SignalView

end SoundGrid

import SoundGrid.Proofs.Grid.IndexOrder

/-!
# Frames that are broken off

A frame with samples is refused when one of its cells cannot be mapped, and
then it leaves a grid that is neither the old one nor a new one.  This module
says exactly which grid that is: the cells before the first one that cannot be
mapped are those of the frame, this one has kept its value as the previous one
and nothing else, and the cells behind it are the old ones.

A sweep is determined by the cells and the source that it starts from.  So the
description does not only hold of every frame that is refused, it also refuses
every frame that it fits.
-/

namespace SoundGrid.Grid

variable {Real Value Source : Type} [Arithmetic Real Value]
  [RandomSource Source]

/-! ## Why a cell cannot be mapped -/

/--
A cell is not mapped when its neighbours, its mapping or the stored value are
refused.
-/
theorem mapCell_eq_error_iff {grid : Grid Real Value Source}
    {frame : Frame Real Value Source} {cells : Array (Cell Value)}
    {cell : Cell Value} {fault : Fault} {source rest : Source} :
    mapCell grid frame cells cell source = .error fault rest ↔
      (seenNeighbours grid.level grid.connectivity grid.rows grid.columns cells
        cell = .error fault ∧ source = rest) ∨
        ∃ neighbours,
          seenNeighbours grid.level grid.connectivity grid.rows grid.columns
            cells cell =
              .ok neighbours ∧
            (grid.level.map cell frame neighbours source = .error fault rest ∨
              ∃ value state,
                grid.level.map cell frame neighbours source =
                  .ok (value, state) rest ∧
                  Arithmetic.store value = .error fault) := by
  simp only [mapCell, Chance.bind_eq_error_iff, Chance.lift_eq_error_iff,
    Chance.lift_eq_ok_iff]
  constructor
  · rintro (uncounted | ⟨neighbours, middle, ⟨counted, rfl⟩,
      unmapped | ⟨⟨value, state⟩, left, mapped,
        ⟨unstored, rfl⟩ | ⟨stored, last, -, impossible⟩⟩⟩)
    · exact Or.inl uncounted
    · exact Or.inr ⟨neighbours, counted, Or.inl unmapped⟩
    · exact Or.inr ⟨neighbours, counted,
        Or.inr ⟨value, state, mapped, unstored⟩⟩
    · cases impossible
  · rintro (uncounted
      | ⟨neighbours, counted, unmapped | ⟨value, state, mapped, unstored⟩⟩)
    · exact Or.inl uncounted
    · exact Or.inr ⟨neighbours, source, ⟨counted, rfl⟩, Or.inl unmapped⟩
    · exact Or.inr ⟨neighbours, source, ⟨counted, rfl⟩,
        Or.inr ⟨(value, state), rest, mapped, Or.inl ⟨unstored, rfl⟩⟩⟩

/-! ## A sweep is determined by its start -/

/--
The cells of an array below a position, as a sweep makes them one after another.
-/
structure Replayed (grid : Grid Real Value Source)
    (frame : Frame Real Value Source) (position : Nat)
    (cells : Array (Cell Value)) (sources : Nat → Source) : Prop where
  start : sources 0 = grid.source
  mapped : ∀ place, place < position → ∃ old new seen,
    grid.cells[place]? = some old ∧ cells[place]? = some new ∧
      Seen grid.cells cells place seen ∧
        mapCell grid frame seen old.keepValue (sources place) =
          .ok new (sources (place + 1))

variable {grid : Grid Real Value Source} {frame : Frame Real Value Source}

theorem Swept.replayed {position : Nat} {cells : Array (Cell Value)}
    {source : Source} (swept : Swept grid frame position cells source) :
    ∃ sources : Nat → Source, sources position = source ∧
      Replayed grid frame position cells sources := by
  rcases swept.replay with ⟨sources, first, last, mapped⟩
  exact ⟨sources, last, first, mapped⟩

/-- What a cell sees is determined by the new cells before it. -/
theorem Seen.unique {old new others seen shown : Array (Cell Value)}
    {position : Nat} (first : Seen old new position seen)
    (second : Seen old others position shown)
    (same : ∀ place, place < position → new[place]? = others[place]?) :
    seen = shown := by
  apply Array.ext_getElem?
  intro place
  rcases Nat.lt_trichotomy place position with before | rfl | behind
  · rw [first.front place before, second.front place before, same place before]
  · rw [first.own, second.own]
  · rw [first.back place behind, second.back place behind]

/-- Two sweeps of one grid make the same cells and leave the same sources. -/
theorem Replayed.unique {first second : Nat} {cells others : Array (Cell Value)}
    {sources draws : Nat → Source}
    (replayed : Replayed grid frame first cells sources)
    (again : Replayed grid frame second others draws) (position : Nat)
    (reached : position ≤ first) (alsoReached : position ≤ second) :
    sources position = draws position ∧
      ∀ place, place < position → cells[place]? = others[place]? := by
  induction position with
  | zero =>
      refine ⟨replayed.start.trans again.start.symm, ?_⟩
      intro place impossible
      omega
  | succ position ih =>
      rcases ih (by omega) (by omega) with ⟨sameSource, same⟩
      rcases replayed.mapped position (by omega) with
        ⟨old, new, seen, oldFound, newFound, shown, made⟩
      rcases again.mapped position (by omega) with
        ⟨otherOld, otherNew, otherSeen, otherOldFound, otherNewFound,
          otherShown, otherMade⟩
      have sameOld : old = otherOld := by
        rw [oldFound] at otherOldFound
        cases otherOldFound
        rfl
      have sameSeen : seen = otherSeen := shown.unique otherShown same
      rw [sameOld, sameSeen, sameSource, otherMade] at made
      injection made with sameNew sameRest
      refine ⟨sameRest.symm, ?_⟩
      intro place before
      rcases Nat.lt_succ_iff_lt_or_eq.mp before with earlier | rfl
      · exact same place earlier
      · rw [newFound, otherNewFound, sameNew]

/-! ## What a broken frame leaves -/

/--
The grid that a frame leaves when it is broken off at a position.  The cells
before it are mapped in order, each with what the ones before have left of the
source, and the cell there is refused with what is left then.
-/
structure InterruptedAt (grid after : Grid Real Value Source)
    (signal : Array Value) (fault : Fault) (position : Nat)
    (sources : Nat → Source) : Prop where
  before : Replayed grid (grid.frame signal) position after.cells sources
  previousValues : ∀ (place : Nat) (old new : Cell Value), place < position →
    grid.cells[place]? = some old → after.cells[place]? = some new →
      new.previousValue = old.value
  stopped : ∃ old seen,
    grid.cells[position]? = some old ∧
      after.cells[position]? = some { old with previousValue := old.value } ∧
      Seen grid.cells after.cells position seen ∧
      mapCell grid (grid.frame signal) seen old.keepValue (sources position) =
        .error fault after.source
  behind : ∀ place, position < place → after.cells[place]? = grid.cells[place]?
  records : Cellwise SameRecord grid.cells after.cells
  others : after = { grid with cells := after.cells, source := after.source }

variable {signal : Array Value}

/-- A mapped cell keeps the value that the old one had. -/
theorem previousValue_of_mapCell {seen : Array (Cell Value)}
    {old new : Cell Value} {source rest : Source}
    (made : mapCell grid frame seen old.keepValue source = .ok new rest) :
    new.previousValue = old.value := by
  rcases mapCell_eq_ok_iff.mp made with
    ⟨neighbours, value, state, stored, -, -, -, rfl⟩
  rfl

theorem Replayed.of_cells {position : Nat} {cells others : Array (Cell Value)}
    {sources : Nat → Source}
    (replayed : Replayed grid frame position cells sources)
    (same : ∀ place, place < position → others[place]? = cells[place]?) :
    Replayed grid frame position others sources where
  start := replayed.start
  mapped place reached := by
    rcases replayed.mapped place reached with
      ⟨old, new, seen, oldFound, newFound, shown, made⟩
    refine ⟨old, new, seen, oldFound, (same place reached).trans newFound,
      ?_, made⟩
    exact shown.of_front fun other ahead => same other (ahead.trans reached)

/-- A sweep that gets stuck leaves a grid that is broken off. -/
theorem Stuck.interruptedAt {position : Nat} {cell : Cell Value}
    {cells : Array (Cell Value)} {fault : Fault} {rest : Source}
    (stuck : Stuck grid (grid.frame signal) position cell cells fault rest) :
    ∃ sources, InterruptedAt grid
      { grid with
        cells := cells.setIfInBounds position cell.keepValue
        source := rest }
      signal fault position sources := by
  have records := stuck.sameRecord
  rcases stuck with ⟨found, source, swept, refused⟩
  rcases swept.replayed with ⟨sources, last, replayed⟩
  have inside : position < cells.size := (Array.getElem?_eq_some_iff.mp found).1
  have own : (cells.setIfInBounds position cell.keepValue)[position]? =
      some cell.keepValue := Array.getElem?_setIfInBounds_self_of_lt inside
  have elsewhere : ∀ place, place ≠ position →
      (cells.setIfInBounds position cell.keepValue)[place]? = cells[place]? :=
    fun place other => Array.getElem?_setIfInBounds_ne (Ne.symm other)
  have again : Replayed grid (grid.frame signal) position
      (cells.setIfInBounds position cell.keepValue) sources :=
    replayed.of_cells fun place reached => elsewhere place (by omega)
  have shown :
      Seen grid.cells (cells.setIfInBounds position cell.keepValue) position
      (cells.setIfInBounds position cell.keepValue) :=
    (swept.seen found).of_front fun place ahead => elsewhere place (by omega)
  have oldFound : grid.cells[position]? = some cell := by
    rw [← swept.behind (Nat.le_refl position), found]
  refine ⟨sources, again, ?_, ⟨cell, _, oldFound, own, shown, ?_⟩, ?_,
    records, rfl⟩
  · intro place old new reached givenOld givenNew
    rcases again.mapped place reached with
      ⟨mappedOld, mappedNew, seen, mappedOldFound, mappedNewFound, -, made⟩
    rw [mappedOldFound] at givenOld
    rw [mappedNewFound] at givenNew
    cases givenOld
    cases givenNew
    exact previousValue_of_mapCell made
  · rw [last]
    exact refused
  · intro place later
    rw [elsewhere place (by omega), swept.behind (by omega)]

section Unique

variable {after : Grid Real Value Source} {fault : Fault} {position : Nat}
  {sources : Nat → Source}

/-- No sweep gets past a cell at which the frame is broken off. -/
theorem InterruptedAt.le_of_replayed
    (interrupted : InterruptedAt grid after signal fault position sources)
    {reached : Nat} {cells : Array (Cell Value)} {draws : Nat → Source}
    (replayed : Replayed grid (grid.frame signal) reached cells draws) :
    reached ≤ position := by
  apply Nat.le_of_not_lt
  intro passed
  rcases interrupted.before.unique replayed position (Nat.le_refl _)
      (by omega) with
    ⟨sameSource, same⟩
  rcases interrupted.stopped with ⟨old, seen, oldFound, -, shown, refused⟩
  rcases replayed.mapped position passed with
    ⟨mappedOld, new, mappedSeen, mappedOldFound, -, mappedShown, made⟩
  have sameOld : old = mappedOld := by
    rw [oldFound] at mappedOldFound
    cases mappedOldFound
    rfl
  have sameSeen : seen = mappedSeen := shown.unique mappedShown same
  rw [sameOld, sameSeen, sameSource, made] at refused
  cases refused

/-- A frame is broken off in one way only. -/
theorem InterruptedAt.unique
    (interrupted : InterruptedAt grid after signal fault position sources)
    {other : Grid Real Value Source} {cause : Fault}
    {place : Nat} {draws : Nat → Source}
    (again : InterruptedAt grid other signal cause place draws) :
    fault = cause ∧ after = other := by
  have samePosition : position = place :=
    Nat.le_antisymm (again.le_of_replayed interrupted.before)
      (interrupted.le_of_replayed again.before)
  subst samePosition
  rcases interrupted.before.unique again.before position (Nat.le_refl _)
      (Nat.le_refl _) with
    ⟨sameSource, same⟩
  rcases interrupted.stopped with ⟨old, seen, oldFound, kept, shown, refused⟩
  rcases again.stopped with
    ⟨otherOld, otherSeen, otherFound, otherKept, otherShown, otherRefused⟩
  rw [oldFound] at otherFound
  cases otherFound
  have sameSeen : seen = otherSeen := shown.unique otherShown same
  rw [sameSeen, sameSource, otherRefused] at refused
  injection refused with sameFault sameRest
  have sameCells : after.cells = other.cells := by
    apply Array.ext_getElem?
    intro index
    rcases Nat.lt_trichotomy index position with earlier | rfl | later
    · exact same index earlier
    · rw [kept, otherKept]
    · rw [interrupted.behind index later, again.behind index later]
  refine ⟨sameFault.symm, ?_⟩
  rw [interrupted.others, again.others, sameCells, ← sameRest]

/--
In a grid that is laid out neighbours can always be counted, so the fault is
that of the cell's mapping or of the conversion of its value.
-/
theorem InterruptedAt.cause (laidOut : grid.LaidOut)
    (interrupted : InterruptedAt grid after signal fault position sources) :
    ∃ old, grid.cells[position]? = some old ∧
      (grid.level.map old.keepValue (grid.frame signal)
          (grid.neighboursInSweep after.cells position) (sources position) =
            .error fault after.source ∨
        ∃ value state,
          grid.level.map old.keepValue (grid.frame signal)
              (grid.neighboursInSweep after.cells position) (sources position) =
                .ok (value, state) after.source ∧
            Arithmetic.store value = .error fault) := by
  rcases interrupted.stopped with ⟨old, seen, oldFound, -, shown, refused⟩
  refine ⟨old, oldFound, ?_⟩
  have counted := laidOut.seenNeighbours_eq shown oldFound
  rcases mapCell_eq_error_iff.mp refused with
    ⟨impossible, -⟩ | ⟨neighbours, taken, unmapped⟩
  · rw [counted] at impossible
    cases impossible
  · rw [counted] at taken
    cases taken
    exact unmapped

end Unique

/--
A frame with samples is refused with a fault exactly when it is broken off at
some cell by that fault, and it leaves the grid that the break describes.
-/
theorem advance_refused_iff {grid : Grid Real Value Source}
    {signal : Array Value} (nonempty : 0 < signal.size) (now : Number)
    (fault : Fault) (after : Grid Real Value Source) :
    grid.advance signal now = (.error fault, after) ↔
      ∃ position sources,
        InterruptedAt grid after signal fault position sources := by
  rcases advance_cases grid signal now with
    ⟨empty, -⟩ | ⟨cells, source, swept, outcome⟩ |
    ⟨stoppedAt, cell, cells, cause, rest, stuck, outcome⟩
  · omega
  · rw [outcome]
    constructor
    · intro impossible
      cases impossible
    · rintro ⟨position, sources, interrupted⟩
      rcases swept.replayed with ⟨draws, -, replayed⟩
      rcases interrupted.stopped with ⟨old, -, oldFound, -⟩
      have inside : position < grid.cells.size :=
        (Array.getElem?_eq_some_iff.mp oldFound).1
      have passed := interrupted.le_of_replayed replayed
      omega
  · rw [outcome]
    rcases stuck.interruptedAt with ⟨draws, described⟩
    constructor
    · intro refused
      cases refused
      exact ⟨stoppedAt, draws, described⟩
    · rintro ⟨position, sources, interrupted⟩
      rcases interrupted.unique described with ⟨rfl, rfl⟩
      rfl

/-- An outcome that is not a completed one has a fault. -/
theorem exists_eq_error_of_not_isOk {State : Type}
    {outcome : Outcome State Unit} (refused : outcome.1.isOk = false) :
    ∃ fault, outcome = (.error fault, outcome.2) := by
  rcases outcome with ⟨answer, state⟩
  cases answer with
  | ok answer => cases refused
  | error fault => exact ⟨fault, rfl⟩

/--
The second sample is no number: the first cell is turned on, and the frame stops
there.
-/
theorem advance_refused_iff_square :
    ∃ (signal : Array Sample) (fault : Fault)
      (after : Grid Float Sample Random.Twister),
      0 < signal.size ∧ square.advance signal (.int 0) = (.error fault, after) ∧
        after.cells.map (fun cell => cell.state) =
          #[true, false, false, false] ∧
        ∃ position sources,
          InterruptedAt square after signal fault position sources := by
  have broken :
      (square.advance #[.ofDouble 0.5, .plain (.text "x")] (.int 0)).1.isOk =
        false := by
    decide +kernel
  rcases exists_eq_error_of_not_isOk broken with ⟨fault, refused⟩
  refine ⟨_, fault, _, by decide, refused, by decide +kernel, ?_⟩
  exact (advance_refused_iff (by decide) (.int 0) fault _).mp refused

end SoundGrid.Grid

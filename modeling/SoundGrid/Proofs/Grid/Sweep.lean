import SoundGrid.Grid.Advance
import SoundGrid.Proofs.Chance

/-!
# How a sweep proceeds

A sweep maps the cells of an array in place, by ascending position.  `Swept`
says which arrays and sources a sweep passes through, one cell at a time, and
`advance_cases` says with which of them a frame can end: with no sweep at all,
with a sweep of all cells, or with a sweep that stops at the first cell which
cannot be mapped.

Everything else about a frame is read off these two.  Cells that the sweep has
passed differ from the old ones by their value, their state and their previous
value only; the other cells are the old ones.
-/

namespace SoundGrid.Grid

variable {Real Value Source : Type} [Arithmetic Real Value]
  [RandomSource Source]

/-! ## One cell -/

/--
What it takes to map a cell: a count of neighbours, a mapping and a stored
value.
-/
theorem mapCell_eq_ok_iff {grid : Grid Real Value Source}
    {frame : Frame Real Value Source} {cells : Array (Cell Value)}
    {cell mapped : Cell Value} {source rest : Source} :
    mapCell grid frame cells cell source = .ok mapped rest ↔
      ∃ neighbours value state stored,
        seenNeighbours grid.level grid.connectivity grid.rows grid.columns
          cells cell =
            .ok neighbours ∧
          grid.level.map cell frame neighbours source =
            .ok (value, state) rest ∧
          Arithmetic.store value = .ok stored ∧
          mapped = cell.put stored state := by
  simp only [mapCell, Chance.bind_eq_ok_iff, Chance.lift_eq_ok_iff,
    Chance.pure_eq_ok_iff]
  constructor
  · rintro ⟨neighbours, first, ⟨counted, rfl⟩, ⟨value, state⟩, second, returned,
      stored, third, ⟨kept, rfl⟩, rfl, rfl⟩
    exact ⟨neighbours, value, state, stored, counted, returned, kept, rfl⟩
  · rintro ⟨neighbours, value, state, stored, counted, returned, kept, rfl⟩
    exact ⟨neighbours, source, ⟨counted, rfl⟩, (value, state), rest, returned,
      stored, rest, ⟨kept, rfl⟩, rfl, rfl⟩

/-! ## The loop -/

/--
How far a sweep has come: the array and the source that it has when it has
mapped the cells below a position.
-/
inductive Swept (grid : Grid Real Value Source)
    (frame : Frame Real Value Source) :
    Nat → Array (Cell Value) → Source → Prop where
  | start : Swept grid frame 0 grid.cells grid.source
  | next {position : Nat} {cells : Array (Cell Value)}
    {cell mapped : Cell Value} {source rest : Source}
    (before : Swept grid frame position cells source)
    (found : cells[position]? = some cell)
    (made : mapCell grid frame (cells.setIfInBounds position cell.keepValue)
      cell.keepValue source = .ok mapped rest) :
      Swept grid frame (position + 1) (cells.setIfInBounds position mapped) rest

/-- A sweep that cannot map the cell at a position. -/
structure Stuck (grid : Grid Real Value Source)
    (frame : Frame Real Value Source) (position : Nat) (cell : Cell Value)
    (cells : Array (Cell Value)) (fault : Fault) (rest : Source) : Prop where
  found : cells[position]? = some cell
  reached : ∃ source, Swept grid frame position cells source ∧
    mapCell grid frame (cells.setIfInBounds position cell.keepValue)
      cell.keepValue source = .error fault rest

/-- Where one cell less remains to be mapped. -/
theorem Swept.next_of_remaining {grid : Grid Real Value Source}
    {frame : Frame Real Value Source} {cells : Array (Cell Value)}
    {cell mapped : Cell Value} {source rest : Source} {remaining : Nat}
    (enough : remaining + 1 ≤ cells.size)
    (before : Swept grid frame (cells.size - (remaining + 1)) cells source)
    (found : cells[cells.size - (remaining + 1)]? = some cell)
    (made : mapCell grid frame
      (cells.setIfInBounds (cells.size - (remaining + 1)) cell.keepValue)
      cell.keepValue source = .ok mapped rest) :
    Swept grid frame
      ((cells.setIfInBounds (cells.size - (remaining + 1)) mapped).size -
        remaining)
      (cells.setIfInBounds (cells.size - (remaining + 1)) mapped) rest := by
  have position : cells.size - (remaining + 1) + 1 =
      (cells.setIfInBounds (cells.size - (remaining + 1)) mapped).size -
        remaining := by
    rw [Array.size_setIfInBounds]
    omega
  rw [← position]
  exact .next before found made

/--
The loop goes on from where a sweep has come, to the end or to where it gets
stuck.
-/
theorem sweepLast_cases {grid : Grid Real Value Source}
    {frame : Frame Real Value Source} (remaining : Nat)
    (cells : Array (Cell Value)) (source : Source)
    (enough : remaining ≤ cells.size)
    (before : Swept grid frame (cells.size - remaining) cells source) :
    (∃ after rest, sweepLast grid frame remaining cells source =
      (none, after, rest) ∧ Swept grid frame cells.size after rest) ∨
      ∃ position cell after fault rest,
        sweepLast grid frame remaining cells source =
            (some fault, after.setIfInBounds position cell.keepValue, rest) ∧
          Stuck grid frame position cell after fault rest := by
  induction remaining generalizing cells source with
  | zero =>
      exact Or.inl ⟨cells, source, rfl, before⟩
  | succ remaining ih =>
      have inside : cells.size - (remaining + 1) < cells.size := by omega
      obtain ⟨cell, found⟩ :
          ∃ cell, cells[cells.size - (remaining + 1)]? = some cell :=
        ⟨_, Array.getElem?_eq_getElem inside⟩
      cases made : mapCell grid frame
          (cells.setIfInBounds (cells.size - (remaining + 1)) cell.keepValue)
          cell.keepValue source with
      | error fault rest =>
          right
          refine ⟨_, cell, cells, fault, rest, ?_, found, source, before, made⟩
          simp only [sweepLast, found, made]
      | ok mapped rest =>
          have onward := before.next_of_remaining enough found made
          have rewritten :=
            ih _ rest (by rw [Array.size_setIfInBounds]; omega) onward
          rw [Array.size_setIfInBounds] at rewritten
          simpa only [sweepLast, found, made, Array.setIfInBounds_setIfInBounds]
            using rewritten

/-- Two sweeps that map every cell alike are the same. -/
theorem sweepLast_congr {first second : Grid Real Value Source}
    {frame shown : Frame Real Value Source}
    (maps : ∀ cells cell, mapCell second shown cells cell =
      mapCell first frame cells cell) (remaining : Nat)
      (cells : Array (Cell Value)) (source : Source) :
    sweepLast second shown remaining cells source =
      sweepLast first frame remaining cells source := by
  induction remaining generalizing cells source with
  | zero => rfl
  | succ remaining ih =>
      rw [sweepLast, sweepLast]
      simp only [maps, ih]

/-- So are two sweeps if the second maps alike what the first one comes to. -/
theorem sweepLast_congr_of_swept {first second : Grid Real Value Source}
    {frame shown : Frame Real Value Source}
    (maps : ∀ (position : Nat) (cells : Array (Cell Value)) (cell : Cell Value)
      (source : Source),
      Swept first frame position cells source → cells[position]? = some cell →
        mapCell second shown
        (cells.setIfInBounds position cell.keepValue) cell.keepValue =
          mapCell first frame
          (cells.setIfInBounds position cell.keepValue) cell.keepValue)
    (remaining : Nat) {cells : Array (Cell Value)} {source : Source}
    (enough : remaining ≤ cells.size)
    (before : Swept first frame (cells.size - remaining) cells source) :
    sweepLast second shown remaining cells source =
      sweepLast first frame remaining cells source := by
  induction remaining generalizing cells source with
  | zero => rfl
  | succ remaining ih =>
      rw [sweepLast, sweepLast]
      cases found : cells[cells.size - (remaining + 1)]? with
      | none => rfl
      | some cell =>
          simp only [maps _ cells cell source before found]
          cases made : mapCell first frame
              (cells.setIfInBounds (cells.size - (remaining + 1))
                cell.keepValue)
              cell.keepValue source with
          | error fault rest => rfl
          | ok mapped rest =>
              simp only [Array.setIfInBounds_setIfInBounds]
              exact ih (by rw [Array.size_setIfInBounds]; omega)
                (before.next_of_remaining enough found made)

/-! ## What a cell sees -/

/--
The array that a cell at a position is mapped in: the cells before it are new,
those behind it are old, and it has kept its own value.
-/
structure Seen (old new : Array (Cell Value)) (position : Nat)
    (seen : Array (Cell Value)) : Prop where
  size : seen.size = old.size
  front : ∀ other, other < position → seen[other]? = new[other]?
  own : seen[position]? = old[position]?.map Cell.keepValue
  back : ∀ other, position < other → seen[other]? = old[other]?

variable {grid : Grid Real Value Source} {frame : Frame Real Value Source}
  {position : Nat} {cells : Array (Cell Value)} {source : Source}

theorem Swept.size (swept : Swept grid frame position cells source) :
    cells.size = grid.cells.size := by
  induction swept with
  | start => rfl
  | next before found made ih => simpa using ih

/-- Cells that the sweep has not reached are the old ones. -/
theorem Swept.behind (swept : Swept grid frame position cells source)
    {other : Nat} (reached : position ≤ other) :
    cells[other]? = grid.cells[other]? := by
  induction swept with
  | start => rfl
  | next before found made ih =>
      rw [Array.getElem?_setIfInBounds_ne (by omega)]
      exact ih (by omega)

/-- The array in which the next cell of a sweep is mapped. -/
theorem Swept.seen (swept : Swept grid frame position cells source)
    {cell : Cell Value} (found : cells[position]? = some cell) :
    Seen grid.cells cells position
      (cells.setIfInBounds position cell.keepValue) where
  size := by simpa using swept.size
  front other before := Array.getElem?_setIfInBounds_ne (by omega)
  own := by
    have inside : position < cells.size :=
      (Array.getElem?_eq_some_iff.mp found).1
    rw [Array.getElem?_setIfInBounds_self_of_lt inside,
      ← swept.behind (Nat.le_refl position), found]
    rfl
  back other behind := by
    rw [Array.getElem?_setIfInBounds_ne (by omega), swept.behind (by omega)]

/-- What a cell sees depends on the new cells before it only. -/
theorem Seen.of_front {old new others seen : Array (Cell Value)}
    {position : Nat} (shown : Seen old new position seen)
    (same : ∀ other, other < position → others[other]? = new[other]?) :
    Seen old others position seen where
  size := shown.size
  front other before :=
    (shown.front other before).trans (same other before).symm
  own := shown.own
  back := shown.back

/--
A sweep replayed cell by cell: every new cell comes of the old one, of what it
saw, and of the source that the cells before it have left.
-/
theorem Swept.replay (swept : Swept grid frame position cells source) :
    ∃ sources : Nat → Source, sources 0 = grid.source ∧
      sources position = source ∧
      ∀ place, place < position → ∃ old new seen,
        grid.cells[place]? = some old ∧ cells[place]? = some new ∧
          Seen grid.cells cells place seen ∧
          mapCell grid frame seen old.keepValue (sources place) =
            .ok new (sources (place + 1)) := by
  induction swept with
  | start =>
      refine ⟨fun _ => grid.source, rfl, rfl, ?_⟩
      intro place impossible
      omega
  | @next position cells cell mapped source rest before found made ih =>
      rcases ih with ⟨sources, first, last, replayed⟩
      have inside : position < cells.size :=
        (Array.getElem?_eq_some_iff.mp found).1
      -- Positions up to this one keep their sources; the next one has what is
      -- left now.
      refine ⟨fun place => if place ≤ position then sources place else rest,
        by simpa using first, if_neg (by omega), ?_⟩
      intro place reached
      have unchanged : ∀ other, other < position →
          (cells.setIfInBounds position mapped)[other]? = cells[other]? :=
        fun other earlier => Array.getElem?_setIfInBounds_ne (by omega)
      rcases Nat.lt_succ_iff_lt_or_eq.mp reached with earlier | rfl
      · rcases replayed place earlier with
          ⟨old, new, seen, oldFound, newFound, shown, produced⟩
        refine ⟨old, new, seen, oldFound, ?_, ?_, ?_⟩
        · rw [unchanged place earlier, newFound]
        · exact shown.of_front fun other ahead => unchanged other (by omega)
        · simpa [show place ≤ position by omega,
            show place + 1 ≤ position by omega]
            using produced
      · refine ⟨cell, mapped, cells.setIfInBounds place cell.keepValue, ?_,
          ?_, ?_, ?_⟩
        · rw [← before.behind (Nat.le_refl place), found]
        · exact Array.getElem?_setIfInBounds_self_of_lt inside
        · exact (before.seen found).of_front unchanged
        · simpa [last, show ¬ place + 1 ≤ place by omega] using made

/-- A sweep is determined by the grid that it starts from. -/
theorem Swept.unique {others : Array (Cell Value)} {rest : Source}
    (swept : Swept grid frame position cells source)
    (other : Swept grid frame position others rest) :
    cells = others ∧ source = rest := by
  induction swept generalizing others rest with
  | start =>
      cases other
      exact ⟨rfl, rfl⟩
  | next before found made ih =>
      cases other with
      | next otherBefore otherFound otherMade =>
          rcases ih otherBefore with ⟨rfl, rfl⟩
          rw [found] at otherFound
          cases otherFound
          rw [made] at otherMade
          cases otherMade
          exact ⟨rfl, rfl⟩

/-- How a sweep came to a cell that it has passed, and what it made of it. -/
theorem Swept.exists_passed (swept : Swept grid frame position cells source)
    {place : Nat} (passed : place < position) :
    ∃ earlier draws cell mapped rest, Swept grid frame place earlier draws ∧
      earlier[place]? = some cell ∧
        mapCell grid frame (earlier.setIfInBounds place cell.keepValue)
          cell.keepValue draws = .ok mapped rest ∧
          cells[place]? = some mapped := by
  induction swept with
  | start => omega
  | @next position cells cell mapped source rest before found made ih =>
      rcases Nat.lt_succ_iff_lt_or_eq.mp passed with earlier | rfl
      · rcases ih earlier with
          ⟨seen, draws, old, new, left, reached, oldFound, oldMade, same⟩
        refine ⟨seen, draws, old, new, left, reached, oldFound, oldMade, ?_⟩
        rw [Array.getElem?_setIfInBounds_ne (by omega), same]
      · have inside : place < cells.size :=
          (Array.getElem?_eq_some_iff.mp found).1
        exact ⟨cells, source, cell, mapped, rest, before, found, made,
          Array.getElem?_setIfInBounds_self_of_lt inside⟩

/-! ## What a sweep leaves alone -/

/--
A relation that holds between the cells of two arrays, position by position.
-/
def Cellwise (relation : Cell Value → Cell Value → Prop)
    (old new : Array (Cell Value)) :
    Prop :=
  new.size = old.size ∧
    ∀ (place : Nat) (later : Cell Value), new[place]? = some later →
      ∃ earlier, old[place]? = some earlier ∧ relation earlier later

/--
A cell within a frame: nothing but its value, state and previous value is new.
-/
structure SameRecord (old new : Cell Value) : Prop where
  index : new.index = old.index
  row : new.row = old.row
  column : new.column = old.column
  previousState : new.previousState = old.previousState
  lastOff : new.lastOff = old.lastOff

theorem SameRecord.refl (cell : Cell Value) : SameRecord cell cell :=
  ⟨rfl, rfl, rfl, rfl, rfl⟩

theorem sameRecord_keepValue (cell : Cell Value) :
    SameRecord cell cell.keepValue :=
  ⟨rfl, rfl, rfl, rfl, rfl⟩

/-- A mapped cell differs from the one before it by its value and its state. -/
theorem sameRecord_of_mapCell {seen : Array (Cell Value)} {old new : Cell Value}
    {rest : Source}
    (made : mapCell grid frame seen old.keepValue source = .ok new rest) :
    SameRecord old new := by
  rcases mapCell_eq_ok_iff.mp made with
    ⟨neighbours, value, state, stored, -, -, -, rfl⟩
  exact ⟨rfl, rfl, rfl, rfl, rfl⟩

/-- All through a sweep the cells keep their places and their records. -/
theorem Swept.sameRecord (swept : Swept grid frame position cells source) :
    Cellwise SameRecord grid.cells cells := by
  refine ⟨swept.size, ?_⟩
  intro place later found
  by_cases passed : place < position
  · rcases swept.replay with ⟨sources, -, -, replayed⟩
    rcases replayed place passed with
      ⟨old, new, seen, oldFound, newFound, -, made⟩
    rw [newFound] at found
    cases found
    exact ⟨old, oldFound, sameRecord_of_mapCell made⟩
  · rw [swept.behind (Nat.le_of_not_lt passed)] at found
    exact ⟨later, found, SameRecord.refl later⟩

/-- So do they when the sweep gets stuck. -/
theorem Stuck.sameRecord {cell : Cell Value} {fault : Fault} {rest : Source}
    (stuck : Stuck grid frame position cell cells fault rest) :
    Cellwise SameRecord grid.cells
      (cells.setIfInBounds position cell.keepValue) := by
  rcases stuck with ⟨found, source, swept, -⟩
  rcases swept.sameRecord with ⟨size, records⟩
  refine ⟨by rw [Array.size_setIfInBounds, size], ?_⟩
  intro place later foundLater
  by_cases own : position = place
  · subst own
    have inside : position < cells.size :=
      (Array.getElem?_eq_some_iff.mp found).1
    rw [Array.getElem?_setIfInBounds_self_of_lt inside] at foundLater
    cases foundLater
    rw [swept.behind (Nat.le_refl position)] at found
    exact ⟨cell, found, sameRecord_keepValue cell⟩
  · rw [Array.getElem?_setIfInBounds_ne own] at foundLater
    exact records place later foundLater

/-! ## A whole frame -/

/-- The grid at the end of a frame whose sweep has mapped all cells. -/
def finished (grid : Grid Real Value Source) (signal : Array Value)
    (now : Number) (cells : Array (Cell Value)) (source : Source) :
    Grid Real Value Source :=
  { grid with
    cells := cells.map (Cell.settle now)
    source
    offset := (grid.offset + grid.settings.rules.rippleSpeed) % signal.size }

/--
At the end of a frame every cell is an old one that was mapped and settled.
-/
theorem Swept.sameRecord_finished
    (swept : Swept grid frame grid.cells.size cells source)
    (signal : Array Value) (now : Number) :
    Cellwise (fun old new =>
      ∃ mapped, SameRecord old mapped ∧ new = mapped.settle now)
      grid.cells (grid.finished signal now cells source).cells := by
  rcases swept.sameRecord with ⟨size, records⟩
  refine ⟨by simpa [finished] using size, ?_⟩
  intro place later found
  simp only [finished, Array.getElem?_map, Option.map_eq_some_iff] at found
  rcases found with ⟨mapped, foundMapped, rfl⟩
  rcases records place mapped foundMapped with ⟨earlier, foundEarlier, same⟩
  exact ⟨earlier, foundEarlier, mapped, same, rfl⟩

/-- The ways in which a frame can end. -/
theorem advance_cases (grid : Grid Real Value Source) (signal : Array Value)
    (now : Number) :
    (signal.size = 0 ∧
      grid.advance signal now = (.error (.rejected .emptySignal), grid)) ∨
      (∃ cells source, Swept grid (grid.frame signal) grid.cells.size
        cells source ∧ grid.advance signal now =
        (.ok (), grid.finished signal now cells source)) ∨
      ∃ position cell cells fault rest,
        Stuck grid (grid.frame signal) position cell cells fault rest ∧
          grid.advance signal now =
            (.error fault,
              { grid with
                cells := cells.setIfInBounds position cell.keepValue
                source := rest }) := by
  by_cases empty : signal.isEmpty
  · left
    exact ⟨by simpa using empty, by rw [advance, if_pos empty]⟩
  · right
    have fromStart :
        Swept grid (grid.frame signal) (grid.cells.size - grid.cells.size)
        grid.cells grid.source := by
      rw [Nat.sub_self]
      exact Swept.start
    rcases sweepLast_cases grid.cells.size grid.cells grid.source
        (Nat.le_refl _) fromStart with
      ⟨cells, source, swept, complete⟩ |
      ⟨position, cell, cells, fault, rest, swept, stuck⟩
    · left
      exact ⟨cells, source, complete,
        by simp [advance, sweep, swept, empty, finished]⟩
    · right
      exact ⟨position, cell, cells, fault, rest, stuck,
        by simp [advance, sweep, swept, empty]⟩

/-- However a frame ends, it keeps the rules and the settings. -/
theorem controls_advance (grid : Grid Real Value Source) (signal : Array Value)
    (now : Number) :
    (grid.advance signal now).2.rules = grid.rules ∧
      (grid.advance signal now).2.settings = grid.settings := by
  rcases advance_cases grid signal now with
    ⟨-, outcome⟩ | ⟨cells, source, -, outcome⟩ |
    ⟨position, cell, cells, fault, rest, -, outcome⟩
  · rw [outcome]
    exact ⟨rfl, rfl⟩
  · rw [outcome]
    exact ⟨rfl, rfl⟩
  · rw [outcome]
    exact ⟨rfl, rfl⟩

end SoundGrid.Grid

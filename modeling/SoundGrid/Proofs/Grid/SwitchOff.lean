import SoundGrid.Proofs.Grid.IndexOrder

/-!
# Switch-offs over a run

A cell remembers its state at the end of the last frame and the time at which
it last turned off.  This module says what these two records mean over a whole
run of frames, control calls and refusals: they speak of completed frames only.
A frame that is refused, at once or in mid-sweep, may leave cells with new
states, but it neither makes nor hides a switch-off.

The invariant of the induction is `Recorded`.  It relates the records of a cell
to the list of the frames completed so far.  Everything but a completed frame
keeps both sides of it, and a completed frame appends itself to the list.
-/

namespace SoundGrid.Grid

/-- The time and the cells at the end of a completed frame. -/
structure Snapshot (Value : Type) where
  time : Number
  cells : Array (Cell Value)

/-! ## States and switch-offs of completed frames -/

section Frames

variable {Value : Type}

/--
Whether a cell is on at the end of so many frames; before the first it is off.
-/
def isOnAfter (frames : List (Snapshot Value)) (position : Nat) : Nat → Bool
  | 0 => false
  | count + 1 => frames[count]?.any fun frame =>
      Cell.isOnAt frame.cells position

/--
A frame at whose end a cell is off while it was on at the end of the frame
before.
-/
def IsSwitchOff (frames : List (Snapshot Value))
    (position count : Nat) : Prop :=
  count < frames.length ∧ isOnAfter frames position count = true ∧
    isOnAfter frames position (count + 1) = false

/-- A frame in which a cell turned off and after which it never did. -/
def IsLatestSwitchOff (frames : List (Snapshot Value))
    (position count : Nat) : Prop :=
  IsSwitchOff frames position count ∧
    ∀ later, count < later → ¬ IsSwitchOff frames position later

/-- There is one latest switch-off at most. -/
theorem IsLatestSwitchOff.unique {frames : List (Snapshot Value)}
    {position count other : Nat}
    (latest : IsLatestSwitchOff frames position count)
    (otherLatest : IsLatestSwitchOff frames position other) :
    other = count := by
  rcases Nat.lt_trichotomy other count with before | same | behind
  · exact absurd latest.1 (otherLatest.2 count before)
  · exact same
  · exact absurd otherLatest.1 (latest.2 other behind)

/-- The records of a cell as the completed frames tell them. -/
structure Recorded (frames : List (Snapshot Value)) (position : Nat)
    (cell : Cell Value) : Prop where
  previousState : cell.previousState = isOnAfter frames position frames.length
  lastOff :
    (∃ (count : Nat) (frame : Snapshot Value), frames[count]? = some frame ∧
        IsLatestSwitchOff frames position count ∧
        cell.lastOff = some frame.time) ∨
      ((∀ count, ¬ IsSwitchOff frames position count) ∧ cell.lastOff = none)

variable {frames : List (Snapshot Value)} {frame : Snapshot Value}
  {position : Nat}

/-- Frames that follow do not change what was on before. -/
theorem isOnAfter_append {count : Nat} (within : count ≤ frames.length) :
    isOnAfter (frames ++ [frame]) position count =
      isOnAfter frames position count := by
  cases count with
  | zero => rfl
  | succ count =>
      rw [isOnAfter, isOnAfter, List.getElem?_append_left (by omega)]

theorem isOnAfter_append_last :
    isOnAfter (frames ++ [frame]) position (frames.length + 1) =
      Cell.isOnAt frame.cells position := by
  rw [isOnAfter, List.getElem?_concat_length]
  rfl

/-- A frame adds one switch-off at most, and that is in the frame itself. -/
theorem isSwitchOff_append_iff {count : Nat} :
    IsSwitchOff (frames ++ [frame]) position count ↔
      IsSwitchOff frames position count ∨
        count = frames.length ∧ isOnAfter frames position frames.length = true ∧
          Cell.isOnAt frame.cells position = false := by
  have length : (frames ++ [frame]).length = frames.length + 1 := by simp
  rw [IsSwitchOff]
  rw [length]
  rcases Nat.lt_trichotomy count frames.length with before | rfl | behind
  · rw [isOnAfter_append (by omega), isOnAfter_append (by omega)]
    constructor
    · rintro ⟨-, on, off⟩
      exact Or.inl ⟨before, on, off⟩
    · rintro (⟨-, on, off⟩ | ⟨equal, -, -⟩)
      · exact ⟨by omega, on, off⟩
      · omega
  · rw [isOnAfter_append (Nat.le_refl _), isOnAfter_append_last]
    constructor
    · rintro ⟨-, on, off⟩
      exact Or.inr ⟨rfl, on, off⟩
    · rintro (⟨impossible, -, -⟩ | ⟨-, on, off⟩)
      · omega
      · exact ⟨by omega, on, off⟩
  · constructor
    · rintro ⟨impossible, -, -⟩
      omega
    · rintro (⟨impossible, -, -⟩ | ⟨equal, -, -⟩)
      · omega
      · omega

/--
The records of a cell that a frame is appended to and that is settled by it.
-/
theorem Recorded.settle {cell mapped : Cell Value}
    (recorded : Recorded frames position cell) (kept : SameRecord cell mapped)
    (state : Cell.isOnAt frame.cells position = mapped.state) :
    Recorded (frames ++ [frame]) position (mapped.settle frame.time) where
  previousState := by
    rw [List.length_append, List.length_singleton, isOnAfter_append_last, state]
    rfl
  lastOff := by
    have before :
        mapped.previousState = isOnAfter frames position frames.length :=
      kept.previousState.trans recorded.previousState
    by_cases turned : isOnAfter frames position frames.length = true ∧
      mapped.state = false
    · -- The frame itself is the latest switch-off: there is no frame behind it.
      left
      refine ⟨frames.length, frame, List.getElem?_concat_length, ⟨?_, ?_⟩, ?_⟩
      · rw [isSwitchOff_append_iff, state]
        exact Or.inr ⟨rfl, turned.1, turned.2⟩
      · rintro later behind ⟨within, -, -⟩
        rw [List.length_append, List.length_singleton] at within
        omega
      · simp [Cell.settle, Cell.turnedOff, before, turned]
    · have same : ∀ count, IsSwitchOff (frames ++ [frame]) position count ↔
          IsSwitchOff frames position count := by
        intro count
        rw [isSwitchOff_append_iff, state]
        constructor
        · rintro (earlier | ⟨-, on, off⟩)
          · exact earlier
          · exact absurd ⟨on, off⟩ turned
        · exact Or.inl
      have unstamped : (mapped.settle frame.time).lastOff = cell.lastOff := by
        have quiet : mapped.turnedOff = false := by
          rw [Cell.turnedOff, before]
          cases on : isOnAfter frames position frames.length with
          | false => rfl
          | true =>
              cases off : mapped.state with
              | true => rfl
              | false => exact absurd ⟨on, off⟩ turned
        simp [Cell.settle, quiet, kept.lastOff]
      rw [unstamped]
      rcases recorded.lastOff with
        ⟨count, stamped, found, ⟨latest, never⟩, time⟩ | ⟨never, none⟩
      · left
        refine ⟨count, stamped, ?_, ⟨(same count).mpr latest, ?_⟩, time⟩
        · rw [List.getElem?_append_left latest.1]
          exact found
        · exact fun later behind switched =>
            never later behind ((same later).mp switched)
      · exact Or.inr ⟨fun count switched =>
          never count ((same count).mp switched), none⟩

/-- Records depend on nothing else of a cell. -/
theorem Recorded.of_sameRecord {cell other : Cell Value}
    (recorded : Recorded frames position cell) (same : SameRecord cell other) :
    Recorded frames position other where
  previousState := same.previousState.trans recorded.previousState
  lastOff := by
    rw [same.lastOff]
    exact recorded.lastOff

end Frames

/-! ## The records of a grid -/

section Tracking

variable {Real Value Source : Type}

/-- The frames are frames of this grid, and its cells have recorded them. -/
structure Tracked (grid : Grid Real Value Source)
    (frames : List (Snapshot Value)) : Prop where
  sizes : ∀ frame ∈ frames, frame.cells.size = grid.cells.size
  records :
    ∀ (position : Nat) (cell : Cell Value), grid.cells[position]? = some cell →
    Recorded frames position cell

variable {grid next : Grid Real Value Source} {frames : List (Snapshot Value)}

/-- What changes no record completes no frame. -/
theorem Tracked.of_sameRecord (tracked : Tracked grid frames)
    (same : Cellwise SameRecord grid.cells next.cells) :
    Tracked next frames where
  sizes frame member := (tracked.sizes frame member).trans same.1.symm
  records position later found := by
    rcases same.2 position later found with ⟨earlier, foundEarlier, kept⟩
    exact (tracked.records position earlier foundEarlier).of_sameRecord kept

theorem Tracked.of_cells (tracked : Tracked grid frames)
    (same : next.cells = grid.cells) : Tracked next frames := by
  refine tracked.of_sameRecord ⟨by rw [same], ?_⟩
  intro place later found
  exact ⟨later, same ▸ found, SameRecord.refl later⟩

variable [Arithmetic Real Value]

/-- New cells have recorded nothing. -/
theorem tracked_layOut (grid : Grid Real Value Source) (rows columns : Nat) :
    Tracked (grid.layOut rows columns) [] where
  sizes frame impossible := by cases impossible
  records position cell found := by
    simp only [layOut, newCells, Array.getElem?_map,
      Option.map_eq_some_iff] at found
    rcases found with ⟨index, -, rfl⟩
    refine ⟨rfl, Or.inr ⟨?_, rfl⟩⟩
    rintro count ⟨within, -, -⟩
    exact absurd within (Nat.not_lt_zero count)

/-- The grids that have just been built, given another shape, or reset. -/
inductive IsNew : Grid Real Value Source → Prop where
  | make {rows columns level connectivity : Datum} {settings : Settings Real}
      {rules : List (Rule Real Value Source)} {source : Source}
      {grid : Grid Real Value Source}
      (made : Grid.make rows columns level connectivity settings rules source =
        .ok grid) :
      IsNew grid
  | resize {before after : Grid Real Value Source} {rows columns : Datum}
      (done : before.resize rows columns = (.ok (), after)) : IsNew after
  | reset (before : Grid Real Value Source) : IsNew before.reset

/-- All grids with new cells are laid out from another one. -/
theorem IsNew.exists_layOut (new : IsNew grid) :
    ∃ (before : Grid Real Value Source) (rows columns : Nat),
      grid = before.layOut rows columns := by
  cases new with
  | make made => exact layOut_of_make made
  | resize done => exact ⟨_, layOut_of_resize done⟩
  | reset before => exact ⟨_, _, _, rfl⟩

theorem IsNew.laidOut (new : IsNew grid) : grid.LaidOut := by
  rcases new.exists_layOut with ⟨before, rows, columns, rfl⟩
  exact laidOut_layOut before rows columns

theorem IsNew.tracked (new : IsNew grid) : Tracked grid [] := by
  rcases new.exists_layOut with ⟨before, rows, columns, rfl⟩
  exact tracked_layOut before rows columns

end Tracking

/-! ## A whole run -/

variable {Value Source : Type} [Arithmetic Float Value] [RandomSource Source]

/--
The completed frames since there were new cells, when an operation follows them.
-/
def framesAfter (grid : Grid Float Value Source)
    (frames : List (Snapshot Value)) : Operation Value → List (Snapshot Value)
  | .advance signal now =>
      match grid.advance signal now with
      | (.ok (), next) => frames ++ [⟨now, next.cells⟩]
      | (.error _, _) => frames
  | .resize rows columns =>
      match grid.resize rows columns with
      | (.ok (), _) => []
      | (.error _, _) => frames
  | .reset => []
  | _ => frames

/-- The completed frames since there were new cells, at the end of a run. -/
def framesSince (grid : Grid Float Value Source)
    (frames : List (Snapshot Value)) :
    List (Operation Value) → List (Snapshot Value)
  | [] => frames
  | operation :: rest =>
      framesSince (grid.perform operation).2
        (grid.framesAfter frames operation) rest

variable {grid : Grid Float Value Source} {frames : List (Snapshot Value)}

/-- A completed frame is appended, and its cells have recorded it. -/
theorem Tracked.finished (tracked : Tracked grid frames) {signal : Array Value}
    {now : Number} {cells : Array (Cell Value)} {source : Source}
    (swept : Swept grid (grid.frame signal) grid.cells.size cells source) :
    Tracked (grid.finished signal now cells source)
      (frames ++ [⟨now, (grid.finished signal now cells source).cells⟩]) := by
  rcases swept.sameRecord_finished signal now with ⟨size, records⟩
  constructor
  · intro frame member
    rw [size]
    rcases List.mem_append.mp member with earlier | last
    · exact tracked.sizes frame earlier
    · rw [List.mem_singleton.mp last]
      exact size
  · intro position later found
    rcases records position later found with ⟨old, foundOld, mapped, kept, rfl⟩
    have state :
        Cell.isOnAt (grid.finished signal now cells source).cells position =
        mapped.state := by
      rw [Cell.isOnAt, found]
      rfl
    exact (tracked.records position old foundOld).settle kept state

/--
A frame is appended if it is completed, and it is forgotten if it is refused.
-/
theorem Tracked.advance (tracked : Tracked grid frames) (signal : Array Value)
    (now : Number) :
    Tracked (grid.advance signal now).2
      (grid.framesAfter frames (.advance signal now)) := by
  rcases advance_cases grid signal now with
    ⟨-, outcome⟩ | ⟨cells, source, swept, outcome⟩ |
    ⟨position, cell, cells, fault, rest, stuck, outcome⟩
  · simp only [framesAfter, outcome]
    exact tracked
  · simp only [framesAfter, outcome]
    exact tracked.finished swept
  · simp only [framesAfter, outcome]
    exact tracked.of_sameRecord stuck.sameRecord

/--
A change of shape makes new cells if it is done, and keeps the old ones if not.
-/
theorem Tracked.resize (tracked : Tracked grid frames) (rows columns : Datum) :
    Tracked (grid.resize rows columns).2
      (grid.framesAfter frames (.resize rows columns)) := by
  rcases grid.resize_cases rows columns with
    ⟨fault, outcome⟩ | ⟨newRows, fault, -, -, -, outcome⟩ |
    ⟨newRows, newColumns, -, -, outcome⟩
  · simp only [framesAfter, outcome]
    exact tracked
  · simp only [framesAfter, outcome]
    exact tracked.of_cells rfl
  · simp only [framesAfter, outcome]
    exact tracked_layOut grid newRows newColumns

theorem framesAfter_of_isControl {operation : Operation Value}
    (control : operation.IsControl) :
    grid.framesAfter frames operation = frames := by
  cases operation with
  | advance signal now => exact control.elim
  | resize rows columns => exact control.elim
  | reset => exact control.elim
  | setLevel | setParameter | assign | shuffleRules | draw => rfl

theorem Tracked.control (tracked : Tracked grid frames)
    {operation : Operation Value} (control : operation.IsControl) :
    Tracked (grid.perform operation).2 (grid.framesAfter frames operation) := by
  rw [framesAfter_of_isControl control]
  exact tracked.of_cells (sameCells_perform grid control).2.2

theorem Tracked.perform (tracked : Tracked grid frames)
    (operation : Operation Value) :
    Tracked (grid.perform operation).2 (grid.framesAfter frames operation) := by
  cases operation with
  | advance signal now => exact tracked.advance signal now
  | resize rows columns => exact tracked.resize rows columns
  | reset => exact tracked_layOut _ _ _
  | setLevel | setParameter | assign | shuffleRules | draw =>
      exact tracked.control trivial

theorem Tracked.run (tracked : Tracked grid frames)
    (operations : List (Operation Value)) :
    Tracked (grid.run operations) (grid.framesSince frames operations) := by
  induction operations generalizing grid frames with
  | nil => exact tracked
  | cons operation rest ih => exact ih (tracked.perform operation)

/--
After every run, whatever was refused on the way, the cells tell the states and
the latest switch-offs of the frames that were completed since the cells were
new.
-/
theorem tracked_of_isNew (new : IsNew grid)
    (operations : List (Operation Value)) :
    Tracked (grid.run operations) (grid.framesSince [] operations) :=
  new.tracked.run operations

/--
A cell that a refused frame turned off has its switch-off in the next completed
frame.  The cell with the last place was never on, so it has none.
-/
theorem tracked_of_isNew_square :
    ∃ operations : List (Operation Sample),
      IsNew square ∧ (square.framesSince [] operations).length = 2 ∧
        (square.run operations).cells.map (fun cell => cell.lastOff) =
          #[some (.int 2), some (.int 2), some (.int 2), none] ∧
        Tracked (square.run operations) (square.framesSince [] operations) := by
  have new : IsNew square := .make make_square
  refine ⟨[.advance #[.ofDouble 0.5, .ofDouble 0.25] (.int 0),
      .advance #[.ofDouble 0.0, .plain (.text "x")] (.int 1),
      .setLevel (.int 0), .advance #[.ofDouble 0.0] (.int 2)],
    new, ?_, ?_, tracked_of_isNew new _⟩
  · decide +kernel
  · decide +kernel

end SoundGrid.Grid

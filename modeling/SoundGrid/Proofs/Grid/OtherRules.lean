import SoundGrid.Proofs.Grid.Edit
import SoundGrid.Proofs.Random
import SoundGrid.Proofs.Rule.Search

/-!
# Grids with other rules

What the operations of a grid do with its rules.  A frame reads them in
searches, and only where it maps cells by them; a shuffle puts them into another
order; nothing else looks at them, and nothing changes them otherwise.  The flip
window of the settings stays open whatever is done.
-/

namespace SoundGrid

namespace Rule

variable {Real Value Source : Type} [RandomSource Source]

theorem perm_shuffle (rules : List (Rule Real Value Source)) (source : Source) :
    (shuffle rules source).1.Perm rules :=
  Array.perm_iff_toList_perm.mp (Random.perm_shuffle rules.toArray source)

end Rule

namespace Grid

section Frames

variable {Real Value Source : Type} [Arithmetic Real Value]
  [RandomSource Source]

/-- The grid with other rules. -/
def withRules (grid : Grid Real Value Source)
    (rules : List (Rule Real Value Source)) : Grid Real Value Source :=
  { grid with rules }

/--
A reading at which a frame has the rules searched: that of a cell in its turn.
-/
inductive Asks (grid : Grid Real Value Source) (signal : Array Value)
    (reading : Reading Real Value) : Prop where
  | intro {position neighbours : Nat} {cells : Array (Cell Value)}
    {cell : Cell Value} {source : Source}
    (reached : Swept grid (grid.frame signal) position cells source)
    (found : cells[position]? = some cell)
    (counted : seenNeighbours grid.level grid.connectivity grid.rows
      grid.columns (cells.setIfInBounds position cell.keepValue)
      cell.keepValue = .ok neighbours)
    (read : (grid.frame signal).reading cell.keepValue neighbours =
      .ok reading) :
      Asks grid signal reading

/-- Rules that find the same for all readings with the settings of a grid. -/
def FindSame (grid : Grid Real Value Source)
    (others : List (Rule Real Value Source)) : Prop :=
  grid.level = .rules → ∀ reading : Reading Real Value,
    reading.settings = grid.settings.rules →
      Rule.firstMatch reading others = Rule.firstMatch reading grid.rules

variable {grid : Grid Real Value Source}
  {others : List (Rule Real Value Source)} {signal : Array Value}

theorem Asks.settings {reading : Reading Real Value}
    (asks : grid.Asks signal reading) :
    reading.settings = grid.settings.rules := by
  cases asks with
  | intro _ _ _ read =>
      rcases Frame.exists_view_of_reading read with ⟨-, rippled, -, rfl⟩
      rfl

theorem mapCell_withRules {cells : Array (Cell Value)} {cell : Cell Value}
    (same : grid.level = .rules →
      ∀ (neighbours : Nat) (reading : Reading Real Value),
        seenNeighbours grid.level grid.connectivity grid.rows grid.columns
          cells cell = .ok neighbours →
        (grid.frame signal).reading cell neighbours = .ok reading →
        Rule.firstMatch reading others = Rule.firstMatch reading grid.rules) :
    mapCell (grid.withRules others) ((grid.withRules others).frame signal)
      cells cell = mapCell grid (grid.frame signal) cells cell := by
  rw [mapCell, mapCell]
  change (Chance.lift
    (seenNeighbours grid.level grid.connectivity grid.rows grid.columns cells
      cell) >>= _) = _
  cases counted : seenNeighbours grid.level grid.connectivity grid.rows
      grid.columns cells cell with
  | error fault => rfl
  | ok neighbours =>
      have maps : (grid.withRules others).level.map cell
          ((grid.withRules others).frame signal)
          neighbours = grid.level.map cell (grid.frame signal) neighbours := by
        change grid.level.map _ _ _ = _
        cases level : grid.level with
        | rules =>
            exact Rule.step_congr fun reading read =>
              same level neighbours reading counted read
        | direct | opacity | smoothed | probabilistic | entropy
          | neighborhood => rfl
      change (((grid.withRules others).level.map _ _ _) >>= _) =
        (grid.level.map _ _ _ >>= _)
      rw [maps]

/--
A frame leaves the rules as they are and searches them where it asks for them,
nowhere else.
-/
theorem advance_withRules_of_asked
    (same : grid.level = .rules → ∀ reading, grid.Asks signal reading →
      Rule.firstMatch reading others = Rule.firstMatch reading grid.rules)
    (now : Number) :
    (grid.withRules others).advance signal now =
      ((grid.advance signal now).1,
        (grid.advance signal now).2.withRules others) := by
  have fromStart : Swept grid (grid.frame signal)
      (grid.cells.size - grid.cells.size) grid.cells
      grid.source := by
    rw [Nat.sub_self]
    exact .start
  have sweeps : (grid.withRules others).sweep signal = grid.sweep signal := by
    refine sweepLast_congr_of_swept ?_ _ (Nat.le_refl _) fromStart
    intro position cells cell source reached found
    exact mapCell_withRules fun level neighbours reading counted read =>
      same level reading (.intro reached found counted read)
  rw [advance, advance, sweeps]
  by_cases empty : signal.isEmpty = true
  · rw [if_pos empty, if_pos empty]
  · rw [if_neg empty, if_neg empty]
    rcases grid.sweep signal with ⟨refused, cells, source⟩
    cases refused with
    | none => rfl
    | some fault => rfl

theorem advance_withRules (same : grid.FindSame others) (signal : Array Value)
    (now : Number) :
    (grid.withRules others).advance signal now =
      ((grid.advance signal now).1,
        (grid.advance signal now).2.withRules others) :=
  advance_withRules_of_asked (fun level reading asks =>
    same level reading asks.settings) now

end Frames

section Operations

variable {Value Source : Type} {grid : Grid Float Value Source}
  {others : List (Rule Float Value Source)}

/-- An operation that does not read the rules. -/
def Operation.IgnoresRules : Operation Value → Prop
  | .advance .. | .shuffleRules => False
  | _ => True

theorem attempt_withRules (result : Except Fault (Grid Float Value Source)) :
    (grid.withRules others).attempt
      (result.map fun next => next.withRules others) =
      ((grid.attempt result).1, (grid.attempt result).2.withRules others) := by
  cases result with
  | ok next => rfl
  | error fault => rfl

theorem assign_withRules (key name given : Datum) :
    (grid.withRules others).assign key name given =
      (grid.assign key name given).map fun next => next.withRules others := by
  rw [assign, assign]
  change (grid.settings.write key name given).map _ = _
  cases grid.settings.write key name given with
  | ok settings => rfl
  | error fault => rfl

theorem setParameter_withRules (name given level : Datum) :
    (grid.withRules others).setParameter name given level =
      (grid.setParameter name given level).map fun next =>
        next.withRules others := by
  have found : (grid.withRules others).levelOr level = grid.levelOr level := by
    cases level <;> rfl
  rw [setParameter, setParameter, found]
  cases grid.levelOr level with
  | ok level => exact assign_withRules _ name given
  | error fault => rfl

theorem setLevel_withRules (level : Datum) :
    (grid.withRules others).setLevel level =
      (grid.setLevel level).map fun next => next.withRules others := by
  rw [setLevel, setLevel]
  cases Level.ofDatum level with
  | ok level => rfl
  | error fault => rfl

theorem shuffleRules_withRules [RandomSource Source]
    (lengths : others.length = grid.rules.length) :
    (grid.withRules others).shuffleRules =
      grid.shuffleRules.withRules (Rule.shuffle others grid.source).1 := by
  have sources : (Rule.shuffle others grid.source).2 =
      (Rule.shuffle grid.rules grid.source).2 :=
    Random.source_shuffle lengths grid.source
  change { grid with
    rules := (Rule.shuffle others grid.source).1
    source := (Rule.shuffle others grid.source).2 } = _
  rw [sources]
  rfl

variable [Arithmetic Float Value]

theorem resize_withRules (rows columns : Datum) :
    (grid.withRules others).resize rows columns =
      ((grid.resize rows columns).1,
        (grid.resize rows columns).2.withRules others) := by
  rw [resize, resize]
  cases checkDimensions rows columns with
  | error fault => rfl
  | ok _ =>
      cases extent rows with
      | error fault => rfl
      | ok newRows =>
          cases extent columns with
          | error fault => rfl
          | ok newColumns => rfl

variable [RandomSource Source]

theorem perform_withRules {operation : Operation Value}
    (ignores : operation.IgnoresRules) :
    (grid.withRules others).perform operation =
      ((grid.perform operation).1,
        (grid.perform operation).2.withRules others) := by
  cases operation with
  | advance => exact ignores.elim
  | shuffleRules => exact ignores.elim
  | setLevel level =>
      rw [perform, perform, setLevel_withRules, attempt_withRules]
  | setParameter name given level =>
      rw [perform, perform, setParameter_withRules, attempt_withRules]
  | assign key name given =>
      rw [perform, perform, assign_withRules, attempt_withRules]
  | draw => rfl
  | resize rows columns => exact resize_withRules rows columns
  | reset => rfl

/-- Every operation keeps the rules, up to their order. -/
theorem perm_rules_perform (grid : Grid Float Value Source)
    (operation : Operation Value) :
    (grid.perform operation).2.rules.Perm grid.rules := by
  have kept (ignores : operation.IgnoresRules) :
      (grid.perform operation).2.rules.Perm grid.rules := by
    have same : (grid.withRules grid.rules).perform operation =
        ((grid.perform operation).1,
          (grid.perform operation).2.withRules grid.rules) :=
      perform_withRules ignores
    change grid.perform operation = _ at same
    rw [same]
    exact List.Perm.refl grid.rules
  cases operation with
  | advance signal now =>
      exact List.Perm.of_eq (controls_advance grid signal now).1
  | shuffleRules => exact Rule.perm_shuffle grid.rules grid.source
  | setLevel | setParameter | assign | draw | resize | reset =>
      exact kept trivial

/-- No operation closes the flip window. -/
theorem windowOpen_perform (valid : grid.settings.windowOpen = true)
    (operation : Operation Value) :
    (grid.perform operation).2.settings.windowOpen = true := by
  rw [settings_perform]
  cases grid.change? operation with
  | none => exact valid
  | some edit => exact Settings.windowOpen_edit valid edit

end Operations

end Grid

end SoundGrid

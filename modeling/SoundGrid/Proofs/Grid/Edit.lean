import SoundGrid.Proofs.Grid.IndexOrder
import SoundGrid.Proofs.Settings.Validity

/-!
# The settings of a grid over a run

Only two operations change settings, and both do so by an attempt to replace one
parameter. So the settings that a run leaves are those before it after all the
changes that it achieves, and settings that were valid stay valid. A frame looks
at the settings of its grid and at no others, hence none is mapped with a
parameter that is not.
-/

namespace SoundGrid.Grid

variable {Value Source : Type}

/--
The attempt to replace a parameter that an operation makes, if it gets that far.
-/
def edit? (grid : Grid Float Value Source) :
    Operation Value → Option Settings.Edit
  | .assign key name given => some ⟨key, name, given⟩
  | .setParameter name given level =>
      (grid.levelOr level).toOption.map fun level =>
        ⟨.text level.key, name, given⟩
  | _ => none

theorem attempt_assign (grid : Grid Float Value Source) (edit : Settings.Edit) :
    (grid.attempt (grid.assign edit.key edit.name edit.given)).2 =
      { grid with settings := grid.settings.edit edit } := by
  rw [assign, Settings.edit]
  cases grid.settings.write edit.key edit.name edit.given with
  | ok settings => rfl
  | error fault => rfl

theorem attempt_setParameter (grid : Grid Float Value Source)
    (name given level : Datum) :
    (grid.attempt (grid.setParameter name given level)).2 =
      { grid with
        settings := (grid.edit? (.setParameter name given level)).toList.foldl
          Settings.edit grid.settings } := by
  rw [setParameter, edit?]
  cases grid.levelOr level with
  | ok level => exact grid.attempt_assign ⟨.text level.key, name, given⟩
  | error fault => rfl

/-- The attempt of an operation, if it is not refused. -/
def change? (grid : Grid Float Value Source) (operation : Operation Value) :
    Option Settings.Edit :=
  (grid.edit? operation).filter fun edit => grid.settings.accepts edit

variable [Arithmetic Float Value] [RandomSource Source]

theorem settings_perform_of_edit (grid : Grid Float Value Source)
    (operation : Operation Value) :
    (grid.perform operation).2.settings =
      (grid.edit? operation).toList.foldl Settings.edit grid.settings := by
  cases operation with
  | advance signal now => exact (controls_advance grid signal now).2
  | setLevel level =>
      rw [perform]
      rcases grid.attempt_cases (grid.setLevel level) with
        ⟨next, changed, outcome⟩ | ⟨fault, -, outcome⟩
      · rcases map_eq_ok_iff.mp changed with ⟨level, -, rfl⟩
        rw [outcome]
        rfl
      · rw [outcome]
        rfl
  | setParameter name given level =>
      rw [perform, attempt_setParameter]
  | assign key name given =>
      rw [perform, grid.attempt_assign ⟨key, name, given⟩]
      rfl
  | resize rows columns =>
      rw [perform]
      rcases grid.resize_cases rows columns with
        ⟨fault, outcome⟩ | ⟨newRows, fault, -, -, -, outcome⟩ |
        ⟨newRows, newColumns, -, -, outcome⟩
      · rw [outcome]
        rfl
      · rw [outcome]
        rfl
      · rw [outcome]
        rfl
  | shuffleRules | draw | reset => rfl

/--
An operation changes the settings by what it achieves, and not at all otherwise.
-/
theorem settings_perform (grid : Grid Float Value Source)
    (operation : Operation Value) :
    (grid.perform operation).2.settings =
      (grid.change? operation).toList.foldl Settings.edit grid.settings := by
  rw [settings_perform_of_edit, change?]
  cases grid.edit? operation with
  | none => rfl
  | some edit =>
      rw [Option.filter_some]
      split
      · rfl
      · next refused =>
          exact Settings.edit_of_not_accepts (Bool.eq_false_iff.mpr refused)

/-- Everything else about the grid is left as it was. -/
theorem perform_of_change {grid : Grid Float Value Source}
    {operation : Operation Value} {change : Settings.Edit}
    (changed : grid.change? operation = some change) :
    (grid.perform operation).2 =
      { grid with settings := grid.settings.edit change } := by
  have edited := (Option.filter_eq_some_iff.mp changed).1
  cases operation with
  | setParameter name given level =>
      rw [perform, attempt_setParameter, edited]
      rfl
  | assign key name given =>
      cases edited
      exact grid.attempt_assign ⟨key, name, given⟩
  | advance | setLevel | shuffleRules | draw | resize | reset => cases edited

/-- The changes of parameters that a run achieves. -/
def changes (grid : Grid Float Value Source) :
    List (Operation Value) → List Settings.Edit
  | [] => []
  | operation :: rest =>
      (grid.change? operation).toList ++ changes (grid.perform operation).2 rest

theorem settings_run (grid : Grid Float Value Source)
    (operations : List (Operation Value)) :
    (grid.run operations).settings =
      (grid.changes operations).foldl Settings.edit grid.settings := by
  induction operations generalizing grid with
  | nil => rfl
  | cons operation rest ih =>
      rw [run, ih, settings_perform, changes, List.foldl_append]

/--
Settings are valid at the start, after whatever attempts to change them, and
again in every frame of a grid that was made with them, whatever was done to it.
-/
theorem valid_of_edits {start : Settings Float}
    (origin : start = .standard ∨ ∃ given, Settings.ofDatum given = .ok start)
    (edits : List Settings.Edit) :
    (edits.foldl Settings.edit start).Valid ∧
      ∀ grid : Grid Float Value Source,
        grid.settings = edits.foldl Settings.edit start →
        ∀ (operations : List (Operation Value)) (signal : Array Value),
          ((grid.run operations).frame signal).settings.Valid := by
  have valid : start.Valid := by
    rcases origin with rfl | ⟨given, read⟩
    · exact Settings.valid_standard
    · exact Settings.valid_of_ofDatum read
  refine ⟨valid.edits edits, ?_⟩
  intro grid own operations signal
  change (grid.run operations).settings.Valid
  rw [settings_run, own]
  exact (valid.edits edits).edits _

/--
Of four attempts one replaces a parameter.  The others are refused: they name a
NaN, a flip window that would be empty, and a set that does not exist.
-/
theorem valid_of_edits_square :
    ∃ (start : Settings Float) (edits : List Settings.Edit),
      Settings.ofDatum (.record Settings.spelledOut) = .ok start ∧
        (edits.foldl Settings.edit start).rules =
          ⟨0.75, -0.0, 0.5, 0.6, 1.0, 3, 0.9, 0.05⟩ ∧
        (edits.foldl Settings.edit start).Valid ∧
        ∀ (operations : List (Operation Sample)) (signal : Array Sample),
          ((({ square with settings := edits.foldl Settings.edit start } :
            Grid Float Sample Random.Twister).run operations).frame
            signal).settings.Valid := by
  let edits : List Settings.Edit :=
    [⟨.text "rules", .text "flip_min", .text " 0.5 "⟩,
      ⟨.text "rules", .text "decay_floor", .undefined 0⟩,
      ⟨.text "rules", .text "flip_max", .double 0.25⟩,
      ⟨.text "level", .text "threshold", .int 0⟩]
  let grid : Grid Float Sample Random.Twister :=
    { square with
      settings := edits.foldl Settings.edit Settings.spelledOutSettings }
  have read := Settings.ofDatum_spelledOut
  have valid :=
    @valid_of_edits Sample Random.Twister _ _ _ (Or.inr ⟨_, read⟩) edits
  exact ⟨_, edits, read, by decide +kernel, valid.1, valid.2 grid rfl⟩

end SoundGrid.Grid

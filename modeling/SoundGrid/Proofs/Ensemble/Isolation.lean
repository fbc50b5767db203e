import SoundGrid.Proofs.Ensemble.Event
import SoundGrid.Proofs.Grid.Ripple

/-!
# Grids next to each other

What happens to a grid in an ensemble is its history: the operations on the grid
itself, and the changes of settings that it shares. Alone it comes as far by its
history as it comes in the ensemble, for nothing else reaches it. A change by a
sharer stands in the history where it happened, so the next frame knows of it.
-/

namespace SoundGrid

namespace Grid

variable {Value Source : Type}

/-- A change of a parameter as an operation. -/
def Operation.ofEdit (edit : Settings.Edit) : Operation Value :=
  .assign edit.key edit.name edit.given

variable [Arithmetic Float Value] [RandomSource Source]

theorem run_ofEdit (grid : Grid Float Value Source)
    (edits : List Settings.Edit) :
    grid.run (edits.map Operation.ofEdit) =
      { grid with settings := edits.foldl Settings.edit grid.settings } := by
  induction edits generalizing grid with
  | nil => rfl
  | cons edit rest ih =>
      rw [List.map_cons, run, ih, Operation.ofEdit, perform, attempt_assign]
      rfl

/--
The next frame of a grid goes by some settings: its mappings, the conditions of
its rules, and its ripple.
-/
structure Heeds (grid : Grid Float Value Source)
    (settings : Settings Float) : Prop where
  mappings : ∀ signal : Array Value, (grid.frame signal).settings = settings
  conditions : ∀ (signal : Array Value) cell neighbours reading,
    (grid.frame signal).reading cell neighbours = .ok reading →
    reading.settings = settings.rules
  ripple : ∀ (signal : Array Value) now after,
    grid.advance signal now = (.ok (), after) →
    after.offset = (grid.offset + settings.rules.rippleSpeed) % signal.size

theorem heeds_settings (grid : Grid Float Value Source) :
    grid.Heeds grid.settings where
  mappings _ := rfl
  conditions signal cell neighbours reading read := by
    rcases Frame.exists_view_of_reading read with ⟨-, rippled, -, rfl⟩
    rfl
  ripple signal now after completed := by
    have moved := Completion.offset_after ⟨grid, signal, now, after, completed⟩
    have kept := (controls_advance grid signal now).2
    rw [completed] at kept
    rw [moved, kept]

end Grid

namespace Ensemble

variable {Value Source : Type}

/-- The operation on a grid that an event is. -/
def Event.operation? (index : Nat) :
    Event Value Source → Option (Grid.Operation Value)
  | .make _ => none
  | .operate other operation => if other = index then some operation else none

/--
What an event is to a grid: an operation of its own, or a change by a sharer.
-/
def effects (ensemble : Ensemble Float Value Source) (index : Nat) :
    Event Value Source → List (Grid.Operation Value)
  | .make _ => []
  | .operate other operation =>
      if other = index then
        [operation]
      else
        match ensemble.grid? other with
        | none => []
        | some owner =>
            if ensemble.share? other = ensemble.share? index then
              (owner.change? operation).toList.map Grid.Operation.ofEdit
            else
              []

variable {ensemble : Ensemble Float Value Source} {index other share : Nat}
  {grid : Grid Float Value Source}

theorem effects_of_unshared
    (alone : ∀ other, ensemble.Sharing other index → other = index)
    (event : Event Value Source) :
    ensemble.effects index event = (event.operation? index).toList := by
  cases event with
  | make blueprint => rfl
  | operate other operation =>
      rw [effects, Event.operation?]
      by_cases own : other = index
      · rw [if_pos own, if_pos own]
        rfl
      rw [if_neg own, if_neg own]
      cases others : ensemble.grid? other with
      | none => rfl
      | some owner =>
          rcases share?_of_grid? others with ⟨share, placed⟩
          have apart : ¬ ensemble.share? other = ensemble.share? index :=
            fun same =>
              own (alone other ⟨share, placed, same.symm.trans placed⟩)
          exact if_neg apart

variable [Arithmetic Float Value] [RandomSource Source]

/-- What a run of events is to a grid. -/
def history (ensemble : Ensemble Float Value Source) (index : Nat) :
    List (Event Value Source) → List (Grid.Operation Value)
  | [] => []
  | event :: rest =>
      ensemble.effects index event ++
        history (ensemble.perform event) index rest

/-- One event is to a grid what its effects are. -/
theorem grid?_perform (present : ensemble.grid? index = some grid)
    (event : Event Value Source) :
    (ensemble.perform event).grid? index =
      some (grid.run (ensemble.effects index event)) := by
  cases event with
  | make blueprint =>
      rw [perform]
      cases ensemble.made? blueprint with
      | none => exact present
      | some added => exact grid?_takeIn present blueprint.origin added
  | operate other operation =>
      rw [perform, effects]
      by_cases own : other = index
      · subst own
        rw [present, if_pos rfl]
        exact grid?_update_self present
      rw [if_neg own]
      cases others : ensemble.grid? other with
      | none => exact present
      | some owner =>
          dsimp only
          by_cases same : ensemble.share? other = ensemble.share? index
          · -- What the owner leaves is not seen, only its settings are.
            rcases share?_of_grid? present with ⟨share, placed⟩
            have sharing : ensemble.Sharing other index :=
              ⟨share, same.trans placed, placed⟩
            rw [if_pos same, grid?_update_of_sharing own sharing present,
              Grid.settings_perform, sharing.settings_eq others present,
              Grid.run_ofEdit]
          · have unshared : ¬ ensemble.Sharing other index := by
              rintro ⟨share, otherPlaced, placed⟩
              exact same (otherPlaced.trans placed.symm)
            rw [if_neg same]
            exact grid?_update_of_not_sharing own unshared present

/-- A run of events is to a grid what its history is. -/
theorem grid?_run (present : ensemble.grid? index = some grid)
    (events : List (Event Value Source)) :
    (ensemble.run events).grid? index =
      some (grid.run (ensemble.history index events)) := by
  induction events generalizing ensemble grid with
  | nil => exact present
  | cons event rest ih =>
      rw [run, history, Grid.run_append]
      exact ih (grid?_perform present event)

/-! ## Grids without sharers -/

theorem share?_perform (placed : ensemble.share? index = some share)
    (event : Event Value Source) :
    (ensemble.perform event).share? index = some share := by
  cases event with
  | make blueprint =>
      rw [perform]
      cases ensemble.made? blueprint with
      | none => exact placed
      | some added => exact share?_takeIn placed blueprint.origin added
  | operate other operation =>
      rw [perform]
      cases ensemble.grid? other with
      | none => exact placed
      | some owner => exact (share?_update _ _ _ _).trans placed

theorem share?_run (placed : ensemble.share? index = some share)
    (events : List (Event Value Source)) :
    (ensemble.run events).share? index = some share := by
  induction events generalizing ensemble with
  | nil => exact placed
  | cons event rest ih => exact ih (share?_perform placed event)

/-- Grids that share settings do so for good. -/
theorem Sharing.run (sharing : ensemble.Sharing other index)
    (events : List (Event Value Source)) :
    (ensemble.run events).Sharing other index := by
  rcases sharing with ⟨share, otherPlaced, placed⟩
  exact ⟨share, share?_run otherPlaced events, share?_run placed events⟩

/--
The history of a grid without sharers is what was done to the grid itself.
-/
theorem history_of_unshared {events : List (Event Value Source)}
    (alone : ∀ other, (ensemble.run events).Sharing other index →
      other = index) :
      ensemble.history index events =
        events.filterMap (Event.operation? index) := by
  induction events generalizing ensemble with
  | nil => rfl
  | cons event rest ih =>
      have now : ∀ other, ensemble.Sharing other index → other = index :=
        fun other sharing => alone other (sharing.run (event :: rest))
      rw [history, effects_of_unshared now, ih alone, List.filterMap_cons]
      cases event.operation? index <;> rfl

/-! ## Changes by a sharer -/

/-- Settings that every frame of a grid goes by until they are changed. -/
def InForce (ensemble : Ensemble Float Value Source) (index : Nat)
    (settings : Settings Float) :
    Prop :=
  ∃ grid, ensemble.grid? index = some grid ∧
    ∀ events, grid.changes (ensemble.history index events) = [] →
      ∃ reached, (ensemble.run events).grid? index = some reached ∧
        reached.Heeds settings

theorem inForce_of_grid? (present : ensemble.grid? index = some grid) :
    ensemble.InForce index grid.settings := by
  refine ⟨grid, present, fun events unchanged =>
    ⟨_, grid?_run present events, ?_⟩⟩
  have kept :
      (grid.run (ensemble.history index events)).settings = grid.settings := by
    rw [Grid.settings_run, unchanged]
    rfl
  rw [← kept]
  exact Grid.heeds_settings _

/-- A change by a sharer leaves its settings in force. -/
theorem inForce_of_change {owner : Grid Float Value Source}
    {operation : Grid.Operation Value} {change : Settings.Edit}
    (present : ensemble.grid? index = some grid)
    (sharing : ensemble.Sharing other index)
    (others : ensemble.grid? other = some owner)
    (changed : owner.change? operation = some change) :
    owner.settings.write change.key change.name change.given =
        .ok (owner.settings.edit change) ∧
      (ensemble.perform (.operate other operation)).InForce index
        (owner.settings.edit change) := by
  have accepted := (Option.filter_eq_some_iff.mp changed).2
  refine ⟨Settings.write_of_accepts accepted, ?_⟩
  have own := grid?_perform present (.operate other operation)
  have left : (ensemble.perform (.operate other operation)).grid? other =
      some { owner with settings := owner.settings.edit change } := by
    rw [perform, others, ← Grid.perform_of_change changed]
    exact grid?_update_self others
  have same : owner.settings.edit change =
      (grid.run (ensemble.effects index (.operate other operation))).settings :=
    (sharing.run [.operate other operation]).settings_eq left own
  rw [same]
  exact inForce_of_grid? own

/--
New grids come in as they were made.  From then on what becomes of a grid is
decided by its history alone.  Without sharers that is what was done to the grid
itself; what a sharer changes is in force for the grid at once.
-/
theorem evolves_alone (ensemble : Ensemble Float Value Source) :
    (∀ blueprint grid, ensemble.made? blueprint = some grid →
      (ensemble.perform (.make blueprint)).grid? ensemble.size = some grid) ∧
    ∀ index grid, ensemble.grid? index = some grid → ∀ events,
      (ensemble.run events).grid? index =
        some (grid.run (ensemble.history index events)) ∧
      ((∀ other, (ensemble.run events).Sharing other index → other = index) →
        ensemble.history index events =
          events.filterMap (Event.operation? index)) ∧
      ∀ other owner operation change,
        (ensemble.run events).Sharing other index →
        (ensemble.run events).grid? other = some owner →
          owner.change? operation = some change →
            ∃ settings,
              owner.settings.write change.key change.name change.given =
                .ok settings ∧
              ((ensemble.run events).perform
                (.operate other operation)).InForce index settings := by
  refine ⟨?_, fun index grid present events =>
    ⟨grid?_run present events, ?_, ?_⟩⟩
  · intro blueprint grid made
    rw [perform, made]
    exact grid?_takeIn_of_made? made
  · exact history_of_unshared
  · intro other owner operation change sharing others changed
    exact ⟨_,
      inForce_of_change (grid?_run present events) sharing others changed⟩

/-- A grid of one cell that follows the samples. -/
def single (origin : Origin) : Blueprint Sample Random.Twister where
  rows := .int 1
  columns := .int 1
  level := .int 0
  connectivity := .int 4
  origin := origin
  rules := Rule.Standard.rules
  source := Random.Twister.ofSeed 0

/-- Three such grids, of which the first two have the same settings. -/
def trio : Ensemble Float Sample Random.Twister :=
  empty.run [.make (single (.own Settings.standard)),
    .make (single (.shared 0)), .make (single (.own Settings.standard))]

/--
The second grid hears less, the third one too, and the first one gets a frame.
-/
def turnedDown : List (Event Sample Random.Twister) :=
  [.operate 1 (.setParameter (.text "threshold") (.double 0.5) .null),
    .operate 2 (.assign (.text "direct") (.text "threshold") (.double 0.9)),
    .operate 0 (.advance #[.ofDouble 0.3] (.int 0))]

theorem alone_trio (other : Nat)
    (sharing : (trio.run turnedDown).Sharing other 2) : other = 2 := by
  rcases sharing with ⟨share, otherPlaced, placed⟩
  have third : (trio.run turnedDown).share? 2 = some 1 := by decide +kernel
  have count : (trio.run turnedDown).members.size = 3 := by decide +kernel
  have others :
      ∀ other < 3, other ≠ 2 → (trio.run turnedDown).share? other ≠ some 1 := by
    decide +kernel
  rcases Option.map_eq_some_iff.mp otherPlaced with ⟨member, found, -⟩
  have inside := (Array.getElem?_eq_some_iff.mp found).1
  rw [third] at placed
  cases placed
  by_contra different
  exact others other (by omega) different otherPlaced

/--
The first grid stays silent, for its sharer has raised the threshold.  The third
one keeps to itself, and a fourth one may share its settings.
-/
theorem evolves_alone_trio :
    ∃ (first owner third fourth : Grid Float Sample Random.Twister)
      (change : Settings.Edit) (settings : Settings Float),
      trio.grid? 0 = some first ∧ trio.grid? 1 = some owner ∧
      trio.grid? 2 = some third ∧ trio.Sharing 1 0 ∧
      (trio.run turnedDown).grid? 0 =
        some (first.run (trio.history 0 turnedDown)) ∧
      ((trio.run turnedDown).grid? 0).map
        (fun grid => grid.cells.map Cell.state) = some #[false] ∧
      (trio.run turnedDown).grid? 2 =
        some (third.run (turnedDown.filterMap (Event.operation? 2))) ∧
      (trio.perform (.make (single (.shared 2)))).grid? 3 = some fourth ∧
      owner.settings.write change.key change.name change.given = .ok settings ∧
      (trio.perform (.operate 1
        (.setParameter (.text "threshold") (.double 0.5) .null))).InForce
        0 settings := by
  let raise : Grid.Operation Sample :=
    .setParameter (.text "threshold") (.double 0.5) .null
  have present (index : Nat) (member : (trio.grid? index).isSome = true) :=
    Option.isSome_iff_exists.mp member
  rcases present 0 (by decide +kernel) with ⟨first, firstFound⟩
  rcases present 1 (by decide +kernel) with ⟨owner, ownerFound⟩
  rcases present 2 (by decide +kernel) with ⟨third, thirdFound⟩
  have changes :
      ((trio.grid? 1).bind fun owner => owner.change? raise).isSome = true := by
    decide +kernel
  rw [ownerFound] at changes
  rcases Option.isSome_iff_exists.mp changes with ⟨change, changed⟩
  have made : (trio.made? (single (.shared 2))).isSome = true := by
    decide +kernel
  rcases Option.isSome_iff_exists.mp made with ⟨fourth, made⟩
  have sharing : trio.Sharing 1 0 := ⟨0, by decide +kernel, by decide +kernel⟩
  rcases evolves_alone trio with ⟨comesIn, evolves⟩
  rcases (evolves 0 first firstFound []).2.2 1 owner raise change sharing
      ownerFound changed with
    ⟨settings, written, inForce⟩
  have thirdRun := evolves 2 third thirdFound turnedDown
  rw [thirdRun.2.1 alone_trio] at thirdRun
  exact ⟨first, owner, third, fourth, change, settings, firstFound, ownerFound,
    thirdFound, sharing, (evolves 0 first firstFound turnedDown).1,
    by decide +kernel, thirdRun.1, comesIn _ fourth made, written, inForce⟩

end Ensemble

end SoundGrid

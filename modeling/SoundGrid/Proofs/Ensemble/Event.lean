import SoundGrid.Ensemble
import SoundGrid.Proofs.Grid.Edit

/-!
# Runs of an ensemble

Grids come into an ensemble one by one, with settings of their own or with those
of a grid that is there already, and they stay in it.  Which settings a grid has
is decided once and for all when it comes.  So an operation on a grid can reach
another one in a single way: it leaves settings that both of them have.
-/

namespace SoundGrid.Ensemble

/-- Where the settings of a new grid come from. -/
inductive Origin where
  | own (settings : Settings Float)
  | shared (other : Nat)

/-- What a new grid is made of. -/
structure Blueprint (Value Source : Type) where
  rows : Datum
  columns : Datum
  level : Datum
  connectivity : Datum
  origin : Origin
  rules : List (Rule Float Value Source)
  source : Source

/-- What can happen to an ensemble. -/
inductive Event (Value Source : Type) where
  | make (blueprint : Blueprint Value Source)
  | operate (index : Nat) (operation : Grid.Operation Value)

variable {Value Source : Type}

/-- The settings that a new grid starts with. -/
def settingsFrom (ensemble : Ensemble Float Value Source) :
    Origin → Option (Settings Float)
  | .own settings => some settings
  | .shared other => (ensemble.grid? other).map Grid.settings

/-- Takes in a grid that was made. -/
def takeIn (ensemble : Ensemble Float Value Source) (origin : Origin)
    (grid : Grid Float Value Source) : Ensemble Float Value Source :=
  match origin with
  | .own _ => ensemble.add grid
  | .shared other => ensemble.addSharing other grid

section Run

variable [Arithmetic Float Value]

/-- The grid that is made after a blueprint, unless that is refused. -/
def made? (ensemble : Ensemble Float Value Source)
    (blueprint : Blueprint Value Source) : Option (Grid Float Value Source) :=
  match ensemble.settingsFrom blueprint.origin with
  | none => none
  | some settings =>
      (Grid.make blueprint.rows blueprint.columns blueprint.level
        blueprint.connectivity settings blueprint.rules
        blueprint.source).toOption

variable [RandomSource Source]

/-- The ensemble after an event. -/
def perform (ensemble : Ensemble Float Value Source) :
    Event Value Source → Ensemble Float Value Source
  | .make blueprint =>
      match ensemble.made? blueprint with
      | none => ensemble
      | some grid => ensemble.takeIn blueprint.origin grid
  | .operate index operation =>
      match ensemble.grid? index with
      | none => ensemble
      | some grid => ensemble.update index (grid.perform operation).2

/-- The ensemble after a run of events. -/
def run (ensemble : Ensemble Float Value Source) :
    List (Event Value Source) → Ensemble Float Value Source
  | [] => ensemble
  | event :: rest => run (ensemble.perform event) rest

end Run

/-! ## Shares -/

/-- The place of a grid's settings. -/
def share? (ensemble : Ensemble Float Value Source)
    (index : Nat) : Option Nat :=
  ensemble.members[index]?.map Member.share

/-- Two grids with the same settings. -/
def Sharing (ensemble : Ensemble Float Value Source)
    (first second : Nat) : Prop :=
  ∃ share, ensemble.share? first = some share ∧
    ensemble.share? second = some share

variable {ensemble : Ensemble Float Value Source} {index other share : Nat}
  {grid owner next : Grid Float Value Source}

theorem grid?_eq_some_iff :
    ensemble.grid? index = some grid ↔
      ∃ member settings, ensemble.members[index]? = some member ∧
        ensemble.shares[member.share]? = some settings ∧
        { member.grid with settings } = grid := by
  rw [grid?]
  cases ensemble.members[index]? with
  | none => simp
  | some member =>
      cases placed : ensemble.shares[member.share]? with
      | none => simp [placed]
      | some settings => simp [placed]

theorem share?_of_grid? (present : ensemble.grid? index = some grid) :
    ∃ share, ensemble.share? index = some share := by
  rcases grid?_eq_some_iff.mp present with ⟨member, settings, found, -, -⟩
  exact ⟨member.share, by rw [share?, found]; rfl⟩

/-- Grids that share their settings have the same ones. -/
theorem Sharing.settings_eq (sharing : ensemble.Sharing other index)
    (others : ensemble.grid? other = some owner)
    (present : ensemble.grid? index = some grid) :
    owner.settings = grid.settings := by
  rcases sharing with ⟨share, otherShare, ownShare⟩
  rcases grid?_eq_some_iff.mp others with
    ⟨first, firstSettings, firstFound, firstPlaced, rfl⟩
  rcases grid?_eq_some_iff.mp present with
    ⟨second, settings, found, placed, rfl⟩
  rw [share?, firstFound] at otherShare
  rw [share?, found] at ownShare
  cases otherShare
  have same : second.share = first.share := Option.some.inj ownShare
  rw [same, firstPlaced] at placed
  exact Option.some.inj placed

/-! ## Grids that come in -/

theorem getElem?_push_of_eq_some {Item : Type} {items : Array Item}
    {place : Nat} {found : Item} (present : items[place]? = some found)
    (last : Item) : (items.push last)[place]? = some found := by
  have inside := (Array.getElem?_eq_some_iff.mp present).1
  rw [Array.getElem?_push, if_neg (by omega)]
  exact present

/--
A grid comes in behind the others, and settings behind those that are there.
-/
theorem takeIn_cases (ensemble : Ensemble Float Value Source) (origin : Origin)
    (added : Grid Float Value Source) :
    ∃ (shares : Array (Settings Float)) (share : Nat),
      ensemble.takeIn origin added =
        ⟨shares, ensemble.members.push ⟨share, added⟩⟩ ∧
        ∀ (place : Nat) settings, ensemble.shares[place]? = some settings →
          shares[place]? = some settings := by
  have own : ∃ (shares : Array (Settings Float)) (share : Nat),
      ensemble.add added = ⟨shares, ensemble.members.push ⟨share, added⟩⟩ ∧
        ∀ (place : Nat) settings, ensemble.shares[place]? = some settings →
          shares[place]? = some settings :=
    ⟨_, _, rfl, fun place settings found => getElem?_push_of_eq_some found _⟩
  cases origin with
  | own settings => exact own
  | shared other =>
      rw [takeIn, addSharing]
      cases ensemble.members[other]? with
      | none => exact own
      | some member => exact ⟨_, _, rfl, fun place settings found => found⟩

theorem share?_takeIn (placed : ensemble.share? index = some share)
    (origin : Origin) (added : Grid Float Value Source) :
    (ensemble.takeIn origin added).share? index = some share := by
  rcases ensemble.takeIn_cases origin added with ⟨shares, last, taken, -⟩
  rcases Option.map_eq_some_iff.mp placed with ⟨member, found, rfl⟩
  rw [taken, share?, getElem?_push_of_eq_some found]
  rfl

theorem grid?_takeIn (present : ensemble.grid? index = some grid)
    (origin : Origin) (added : Grid Float Value Source) :
    (ensemble.takeIn origin added).grid? index = some grid := by
  rcases ensemble.takeIn_cases origin added with ⟨shares, last, taken, kept⟩
  rcases grid?_eq_some_iff.mp present with
    ⟨member, settings, found, placed, rfl⟩
  rw [taken]
  exact grid?_eq_some_iff.mpr
    ⟨member, settings, getElem?_push_of_eq_some found _, kept _ _ placed, rfl⟩

/-- The new grid is there as it was made. -/
theorem grid?_takeIn_size {origin : Origin}
    (given : ensemble.settingsFrom origin = some grid.settings) :
    (ensemble.takeIn origin grid).grid? ensemble.size = some grid := by
  cases origin with
  | own settings =>
      refine grid?_eq_some_iff.mpr
        ⟨⟨ensemble.shares.size, grid⟩, grid.settings, ?_, ?_, rfl⟩
      · exact Array.getElem?_push_size
      · exact Array.getElem?_push_size
  | shared other =>
      rcases Option.map_eq_some_iff.mp given with ⟨owner, others, same⟩
      rcases grid?_eq_some_iff.mp others with
        ⟨member, settings, found, placed, rfl⟩
      rw [takeIn, addSharing, found]
      refine grid?_eq_some_iff.mpr
        ⟨⟨member.share, grid⟩, settings, ?_, placed, ?_⟩
      · exact Array.getElem?_push_size
      · change settings = grid.settings at same
        rw [same]

theorem grid?_takeIn_of_made? [Arithmetic Float Value]
    {blueprint : Blueprint Value Source}
    (made : ensemble.made? blueprint = some grid) :
    (ensemble.takeIn blueprint.origin grid).grid? ensemble.size =
      some grid := by
  rw [made?] at made
  cases given : ensemble.settingsFrom blueprint.origin with
  | none =>
      rw [given] at made
      cases made
  | some settings =>
      rw [given] at made
      have own := Grid.settings_of_make (eq_ok_of_toOption made)
      exact grid?_takeIn_size (by rw [given, own])

/-! ## Grids that are put back -/

theorem update_eq {member : Member Float Value Source}
    (found : ensemble.members[index]? = some member) :
    ensemble.update index next =
      { shares := ensemble.shares.setIfInBounds member.share next.settings
        members := ensemble.members.setIfInBounds index
          { member with grid := next } } := by
  rw [update, found]

theorem share?_update (ensemble : Ensemble Float Value Source)
    (other index : Nat) (next : Grid Float Value Source) :
    (ensemble.update other next).share? index = ensemble.share? index := by
  cases found : ensemble.members[other]? with
  | none => rw [update, found]
  | some member =>
      have inside := (Array.getElem?_eq_some_iff.mp found).1
      rw [update_eq found, share?, share?]
      by_cases same : other = index
      · subst same
        rw [Array.getElem?_setIfInBounds_self_of_lt inside, found]
        rfl
      · rw [Array.getElem?_setIfInBounds_ne same]

theorem grid?_update_self (present : ensemble.grid? index = some grid) :
    (ensemble.update index next).grid? index = some next := by
  rcases grid?_eq_some_iff.mp present with ⟨member, settings, found, placed, -⟩
  have inside := (Array.getElem?_eq_some_iff.mp found).1
  have placeInside := (Array.getElem?_eq_some_iff.mp placed).1
  rw [update_eq found]
  refine grid?_eq_some_iff.mpr
    ⟨{ member with grid := next }, next.settings, ?_, ?_, rfl⟩
  · exact Array.getElem?_setIfInBounds_self_of_lt inside
  · exact Array.getElem?_setIfInBounds_self_of_lt placeInside

/-- A sharer finds the settings that an operation on another grid leaves. -/
theorem grid?_update_of_sharing (apart : other ≠ index)
    (sharing : ensemble.Sharing other index)
    (present : ensemble.grid? index = some grid) :
    (ensemble.update other next).grid? index =
      some { grid with settings := next.settings } := by
  rcases sharing with ⟨share, otherShare, ownShare⟩
  rcases Option.map_eq_some_iff.mp otherShare with
    ⟨otherMember, otherFound, rfl⟩
  rcases grid?_eq_some_iff.mp present with
    ⟨member, settings, found, placed, rfl⟩
  rw [share?, found] at ownShare
  have same : member.share = otherMember.share := Option.some.inj ownShare
  have placeInside := (Array.getElem?_eq_some_iff.mp placed).1
  rw [update_eq otherFound]
  refine grid?_eq_some_iff.mpr ⟨member, next.settings, ?_, ?_, rfl⟩
  · rw [Array.getElem?_setIfInBounds_ne apart]
    exact found
  · rw [← same]
    exact Array.getElem?_setIfInBounds_self_of_lt placeInside

/-- Every other grid stays as it is. -/
theorem grid?_update_of_not_sharing (apart : other ≠ index)
    (unshared : ¬ ensemble.Sharing other index)
    (present : ensemble.grid? index = some grid) :
    (ensemble.update other next).grid? index = some grid := by
  rcases grid?_eq_some_iff.mp present with
    ⟨member, settings, found, placed, rfl⟩
  cases otherFound : ensemble.members[other]? with
  | none =>
      rw [update, otherFound]
      exact present
  | some otherMember =>
      have different : otherMember.share ≠ member.share := by
        intro same
        refine unshared ⟨member.share, ?_, ?_⟩
        · rw [share?, otherFound, ← same]
          rfl
        · rw [share?, found]
          rfl
      rw [update_eq otherFound]
      refine grid?_eq_some_iff.mpr ⟨member, settings, ?_, ?_, rfl⟩
      · rw [Array.getElem?_setIfInBounds_ne apart]
        exact found
      · rw [Array.getElem?_setIfInBounds_ne different]
        exact placed

end SoundGrid.Ensemble

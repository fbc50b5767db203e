import SoundGrid.Grid

/-!
# Ensembles

Several grids, some of which may share their settings.  Every grid has a
source, rules and cells of its own; only settings are shared.  An operation on
a grid runs with the settings that its sharers last left, and what it leaves
is what they find.
-/

namespace SoundGrid

/-- A grid and the place of its settings among the shared ones. -/
structure Member (Real Value Source : Type) where
  share : Nat
  grid : Grid Real Value Source

/-- Grids with their settings, some of them shared. -/
structure Ensemble (Real Value Source : Type) where
  shares : Array (Settings Real)
  members : Array (Member Real Value Source)

namespace Ensemble

variable {Real Value Source : Type}

/-- No grid at all. -/
def empty : Ensemble Real Value Source :=
  ⟨#[], #[]⟩

/-- The number of grids. -/
def size (ensemble : Ensemble Real Value Source) : Nat :=
  ensemble.members.size

/-- A grid with the settings in force. -/
def grid? (ensemble : Ensemble Real Value Source) (index : Nat) :
    Option (Grid Real Value Source) :=
  match ensemble.members[index]? with
  | none => none
  | some member =>
      match ensemble.shares[member.share]? with
      | none => none
      | some settings => some { member.grid with settings }

/-- Adds a grid with settings of its own. -/
def add (ensemble : Ensemble Real Value Source)
    (grid : Grid Real Value Source) : Ensemble Real Value Source where
  shares := ensemble.shares.push grid.settings
  members := ensemble.members.push ⟨ensemble.shares.size, grid⟩

/-- Adds a grid that shares the settings of another one. -/
def addSharing (ensemble : Ensemble Real Value Source) (other : Nat)
    (grid : Grid Real Value Source) : Ensemble Real Value Source :=
  match ensemble.members[other]? with
  | none => ensemble.add grid
  | some member =>
      { ensemble with members := ensemble.members.push ⟨member.share, grid⟩ }

/-- Puts back a grid on which an operation was done. -/
def update (ensemble : Ensemble Real Value Source) (index : Nat)
    (grid : Grid Real Value Source) : Ensemble Real Value Source :=
  match ensemble.members[index]? with
  | none => ensemble
  | some member =>
      { shares := ensemble.shares.setIfInBounds member.share grid.settings
        members := ensemble.members.setIfInBounds index { member with grid } }

end Ensemble

end SoundGrid

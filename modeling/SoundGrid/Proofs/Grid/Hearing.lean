import SoundGrid.Proofs.Grid.Ripple

/-!
# What cells hear

A cell hears the sample of its own place and, at the level of the rules, the
sample that the ripple has carried there.  The standard rules read no more than
this and the settings, although a condition may read all of its view of the
signal, the live neighbours and the place of its cell.

So two cells are mapped alike if they have the same value and state and hear the
same, however different their grids and signals are.  The exceptions are the two
levels that read more: one chooses any sample of the signal, and one counts the
live neighbours.
-/

namespace SoundGrid

variable {Real Value Source : Type}

/-! ## The samples of a cell -/

namespace Grid

/-- The sample that a signal brings to an index that is so far ahead. -/
def heardAt (signal : Array Value) (shift : Nat)
    (index : Int) : Except Fault Value :=
  pick signal ((index + shift) % signal.size)

theorem sample_frame (grid : Grid Real Value Source) {signal : Array Value}
    (nonempty : 0 < signal.size) (index : Int) :
    (grid.frame signal).sample index = heardAt signal 0 index := by
  have notEmpty : ¬ (signal.size : Int) = 0 := by omega
  have place : index.fmod signal.size = (index + (0 : Nat)) % signal.size := by
    rw [Int.fmod_eq_emod_of_nonneg index (by omega)]
    simp
  rw [Frame.sample]
  change (if (signal.size : Int) = 0 then _
    else pick signal (index.fmod signal.size)) = _
  rw [if_neg notEmpty, place]
  rfl

/--
The conditions of the rules find the rippled sample at the own place of a cell.
-/
theorem exists_reading_frame (grid : Grid Real Value Source)
    {signal : Array Value} (nonempty : 0 < signal.size) (cell : Cell Value)
    (neighbours : Int) :
    ∃ reading, (grid.frame signal).reading cell neighbours = .ok reading ∧
      reading.cell = cell ∧ reading.settings = grid.settings.rules ∧
        reading.own = heardAt signal grid.offset cell.index := by
  have offset :
      (grid.frame signal).offset = (grid.offset % signal.size : Nat) := by
    simp [frame]
  have length :
      (grid.frame signal).length = (grid.frame signal).signal.size := rfl
  rcases Frame.exists_reading length offset nonempty cell neighbours with
    ⟨reading, read, ofCell, settings, shifted⟩
  rcases (shifted.of_mod_eq (Nat.mod_mod _ _)).own with ⟨sample, picked, own⟩
  refine ⟨reading, read, ofCell, settings, ?_⟩
  rw [own, ← picked, ofCell]
  rfl

/--
Two cells of two grids that have the same value and state, and to which two
signals bring the same samples, with the ripple and without it.
-/
structure HearAlike (first second : Grid Real Value Source)
    (signal shown : Array Value) (cell other : Cell Value) : Prop where
  value : other.value = cell.value
  state : other.state = cell.state
  sample : heardAt shown 0 other.index = heardAt signal 0 cell.index
  rippled : heardAt shown second.offset other.index =
    heardAt signal first.offset cell.index

end Grid

/-! ## The standard rules -/

namespace Rule

/-- A search is decided by the conditions. -/
theorem firstMatch_congr {first second : Reading Real Value}
    {rules : List (Rule Real Value Source)}
    (same : ∀ rule ∈ rules, rule.condition second = rule.condition first) :
    firstMatch second rules = firstMatch first rules := by
  induction rules with
  | nil => rfl
  | cons rule rest ih =>
      rcases List.forall_mem_cons.mp same with ⟨own, others⟩
      rw [firstMatch, firstMatch, own, ih others]

end Rule

variable [Arithmetic Real Value] [RandomSource Source]

/-- An action reads the value and the state of its cell. -/
theorem Action.apply_congr (action : Action) {cell other : Cell Value}
    (value : other.value = cell.value) (state : other.state = cell.state)
    (settings : RuleSettings Real) :
    (action.apply other settings : Chance Source (Value × Bool)) =
      action.apply cell settings := by
  cases action <;> simp only [Action.apply, value, state]

/-- A standard condition reads the own sample and the settings. -/
theorem Rule.Standard.condition_congr {first second : Reading Real Value}
    (own : second.own = first.own) (settings : second.settings = first.settings)
    {rule : Rule Real Value Source}
    (standard : rule ∈ (rules : List (Rule Real Value Source))) :
    rule.condition second = rule.condition first := by
  simp only [rules, List.mem_cons, List.not_mem_nil, or_false] at standard
  rcases standard with rfl | rfl | rfl
  · simp only [loud, own, settings]
  · simp only [quiet, own, settings]
  · simp only [midFlip, inWindow, own, settings]

/--
The standard rules follow the own sample, the settings, and the value and state
of the cell.
-/
theorem Rule.Standard.follow_congr {first second : Reading Real Value}
    (own : second.own = first.own) (settings : second.settings = first.settings)
    (value : second.cell.value = first.cell.value)
    (state : second.cell.state = first.cell.state)
    {followed : List (Rule Real Value Source)}
    (standard : followed.Perm rules) :
    follow followed second = follow followed first := by
  have searches : firstMatch second followed = firstMatch first followed :=
    firstMatch_congr fun rule member =>
      condition_congr own settings (standard.subset member)
  rw [follow, follow, searches]
  refine bind_congr fun found => ?_
  cases found with
  | none =>
      dsimp only
      rw [value, state]
  | some rule =>
      dsimp only
      rw [settings]
      exact rule.action.apply_congr value state first.settings

/-! ## Cells mapped alike -/

/--
Cells that hear the same are mapped alike, as far as a level reads nothing else.
-/
theorem Grid.HearAlike.map_eq {first second : Grid Real Value Source}
    {signal shown : Array Value} {cell other : Cell Value}
    (alike : HearAlike first second signal shown cell other)
    (nonempty : 0 < signal.size) (shownNonempty : 0 < shown.size)
    (settings : second.settings = first.settings)
    (rules : second.rules = first.rules)
    (standard : first.rules.Perm Rule.Standard.rules) {level : Level}
    {neighbours others : Int} (chosen : level = .entropy → shown = signal)
    (counted : level = .neighborhood → others = neighbours) :
    level.map other (second.frame shown) others =
      level.map cell (first.frame signal) neighbours := by
  have sample :
      (second.frame shown).sample other.index =
        (first.frame signal).sample cell.index := by
    rw [sample_frame second shownNonempty, sample_frame first nonempty]
    exact alike.sample
  have frameSettings :
      (second.frame shown).settings = (first.frame signal).settings := settings
  cases level with
  | direct => simp only [Level.map, sample, frameSettings]
  | opacity => simp only [Level.map, sample]
  | smoothed => simp only [Level.map, sample, frameSettings, alike.value]
  | probabilistic => simp only [Level.map, sample, frameSettings, alike.value]
  | entropy =>
      cases chosen rfl
      simp only [Level.map, Mapping.entropy, frameSettings, alike.value]
      rfl
  | neighborhood =>
      simp only [Level.map, sample, frameSettings, alike.state, counted rfl]
  | rules =>
      rcases exists_reading_frame first nonempty cell neighbours with
        ⟨reading, read, ofCell, readSettings, own⟩
      rcases exists_reading_frame second shownNonempty other others with
        ⟨shownReading, shownRead, ofOther, shownSettings, shownOwn⟩
      rw [Level.map_rules read, Level.map_rules shownRead]
      change Rule.follow second.rules shownReading =
        Rule.follow first.rules reading
      rw [rules]
      refine Rule.Standard.follow_congr ?_ ?_ ?_ ?_ standard
      · rw [own, shownOwn]
        exact alike.rippled
      · rw [readSettings, shownSettings, settings]
      · rw [ofCell, ofOther]
        exact alike.value
      · rw [ofCell, ofOther]
        exact alike.state

end SoundGrid

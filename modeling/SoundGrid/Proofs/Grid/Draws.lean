import SoundGrid.Proofs.Grid.Hearing
import SoundGrid.Proofs.Grid.WrapSafety
import SoundGrid.Proofs.Rule.Draws

/-!
# What a frame draws and touches

A frame hands the random source from cell to cell.  How much a cell takes from
it depends on the level: four levels take nothing, one takes a fraction for
every cell, one an index, and the rules take what their conditions and actions
ask for.

Where nothing is taken, a mapping is a function of the cells and the signal, so
neither the source nor the rules can be seen in what the frame makes of the
cells.  At the other levels the sources that the sweep passes through tell, cell
by cell, what was drawn.
-/

namespace SoundGrid

variable {Real Value Source : Type}

/-- A chain of results without draws is a result without draws. -/
theorem Chance.lift_bind_lift {First Second : Type} (first : Except Fault First)
    (second : First → Except Fault Second) :
    (Chance.lift first >>= fun value =>
      Chance.lift (second value) : Chance Source Second) =
      Chance.lift (first >>= second) := by
  cases first with
  | ok value => rfl
  | error fault => rfl

variable [Arithmetic Real Value] [RandomSource Source]

/-! ## Levels -/

namespace Level

/--
The levels that take nothing from the random source and do not look at the
rules.
-/
def DrawsNothing (level : Level) : Prop :=
  level = .direct ∨ level = .opacity ∨ level = .smoothed ∨ level = .neighborhood

variable {frame : Frame Real Value Source} {cell : Cell Value}
  {neighbours : Int} {source rest : Source} {value : Value} {state : Bool}

theorem exists_map_eq_lift {level : Level} (nothing : level.DrawsNothing)
    (frame : Frame Real Value Source) (cell : Cell Value) (neighbours : Int) :
    ∃ result, ∀ rules : List (Rule Real Value Source),
      level.map cell { frame with rules } neighbours = Chance.lift result := by
  rcases nothing with rfl | rfl | rfl | rfl
  · exact ⟨_, fun rules => Chance.lift_bind_lift (frame.sample cell.index)
      (Mapping.direct frame.settings.direct)⟩
  · exact ⟨_, fun rules => Chance.lift_bind_lift (frame.sample cell.index)
      fun sample => .ok (Mapping.opacity sample)⟩
  · exact ⟨_, fun rules => Chance.lift_bind_lift (frame.sample cell.index)
      (Mapping.smoothed frame.settings.smoothed cell.value)⟩
  · exact ⟨_, fun rules => Chance.lift_bind_lift (frame.sample cell.index)
      fun sample =>
        Mapping.neighborhood frame.settings.neighborhood sample cell.state
          neighbours⟩

theorem DrawsNothing.source_eq {level : Level} (nothing : level.DrawsNothing)
    (mapped : level.map cell frame neighbours source =
      .ok (value, state) rest) : rest = source := by
  rcases exists_map_eq_lift nothing frame cell neighbours with ⟨result, lifted⟩
  change level.map cell { frame with rules := frame.rules } neighbours source =
    _ at mapped
  rw [lifted] at mapped
  exact (Chance.lift_eq_ok_iff.mp mapped).2.symm

open Arithmetic (mul less setting fraction) in
/--
With a probability a cell keeps its value and compares one fraction with its
scaled sample.
-/
theorem map_probabilistic_eq_ok_iff :
    Level.probabilistic.map cell frame neighbours source =
        .ok (value, state) rest ↔
      ∃ sample product, frame.sample cell.index = .ok sample ∧
        mul sample (setting frame.settings.probabilistic.scale) = .ok product ∧
        less (fraction (RandomSource.fraction source).1) product = .ok state ∧
        value = cell.value ∧ rest = (RandomSource.fraction source).2 := by
  constructor
  · intro mapped
    rcases Chance.bind_eq_ok_iff.mp mapped with
      ⟨sample, start, sampled, afterSample⟩
    rcases Chance.lift_eq_ok_iff.mp sampled with ⟨heard, rfl⟩
    rcases Chance.bind_eq_ok_iff.mp afterSample with
      ⟨drawn, middle, draw, afterDraw⟩
    cases draw
    rcases Chance.bind_eq_ok_iff.mp afterDraw with
      ⟨product, left, multiplied, afterProduct⟩
    rcases Chance.lift_eq_ok_iff.mp multiplied with ⟨scaled, rfl⟩
    rcases Chance.bind_eq_ok_iff.mp afterProduct with
      ⟨answer, last, answered, returned⟩
    rcases Chance.lift_eq_ok_iff.mp answered with ⟨compared, rfl⟩
    rcases Chance.pure_eq_ok_iff.mp returned with ⟨same, rfl⟩
    cases same
    exact ⟨sample, product, heard, scaled, compared, rfl, rfl⟩
  · rintro ⟨sample, product, heard, scaled, compared, rfl, rfl⟩
    refine Chance.bind_eq_ok_iff.mpr
      ⟨sample, source, Chance.lift_eq_ok_iff.mpr ⟨heard, rfl⟩, ?_⟩
    refine Chance.bind_eq_ok_iff.mpr ⟨_, _, rfl, ?_⟩
    refine Chance.bind_eq_ok_iff.mpr
      ⟨product, _, Chance.lift_eq_ok_iff.mpr ⟨scaled, rfl⟩, ?_⟩
    refine Chance.bind_eq_ok_iff.mpr
      ⟨state, _, Chance.lift_eq_ok_iff.mpr ⟨compared, rfl⟩, ?_⟩
    exact Chance.pure_eq_ok_iff.mpr ⟨rfl, rfl⟩

theorem value_map_entropy
    (mapped : Level.entropy.map cell frame neighbours source =
      .ok (value, state) rest) : value = cell.value := by
  change Mapping.entropy frame.settings.entropy frame cell.value source =
    _ at mapped
  rw [Mapping.entropy] at mapped
  by_cases empty : frame.length ≤ 0
  · rw [if_pos empty] at mapped
    cases mapped
  · rw [if_neg empty] at mapped
    rcases Chance.bind_eq_ok_iff.mp mapped with ⟨chosen, middle, -, afterDraw⟩
    rcases Chance.bind_eq_ok_iff.mp afterDraw with
      ⟨sample, left, -, afterSample⟩
    rcases Chance.bind_eq_ok_iff.mp afterSample with ⟨answer, last, -, returned⟩
    exact (congrArg Prod.fst (Chance.pure_eq_ok_iff.mp returned).1).symm

end Level

namespace Grid

/-! ## Frames without draws -/

section WithoutDraws

variable {grid : Grid Real Value Source}

/-- The grid with other rules and another source. -/
def withChance (grid : Grid Real Value Source)
    (rules : List (Rule Real Value Source)) (source : Source) :
    Grid Real Value Source :=
  { grid with rules, source }

theorem exists_mapCell_eq_lift (nothing : grid.level.DrawsNothing)
    (signal : Array Value) (cells : Array (Cell Value)) (cell : Cell Value) :
    ∃ result, ∀ rules source, mapCell (grid.withChance rules source)
      ((grid.withChance rules source).frame signal) cells cell =
        Chance.lift result := by
  cases counted : seenNeighbours grid.level grid.connectivity grid.rows
      grid.columns cells cell with
  | error fault =>
      refine ⟨.error fault, fun rules source => ?_⟩
      change (Chance.lift (seenNeighbours grid.level grid.connectivity grid.rows
        grid.columns cells cell) >>= _) = _
      rw [counted]
      rfl
  | ok neighbours =>
      rcases Level.exists_map_eq_lift nothing
          (grid.frame signal) cell neighbours with
        ⟨result, lifted⟩
      refine ⟨result >>= fun pair =>
        Arithmetic.store pair.1 >>= fun stored =>
          .ok (cell.put stored pair.2), ?_⟩
      intro rules source
      change (Chance.lift (seenNeighbours grid.level grid.connectivity grid.rows
        grid.columns cells cell) >>= _) = _
      rw [counted]
      change (grid.level.map cell { grid.frame signal with rules }
        neighbours >>= _) = _
      rw [lifted, ← Chance.lift_bind_lift]
      congr 1
      funext pair
      exact Chance.lift_bind_lift (Arithmetic.store pair.1) fun stored =>
        .ok (cell.put stored pair.2)

/--
Without draws a loop leaves the source alone and comes to the same cells for all
rules.
-/
theorem exists_sweepLast_withChance (nothing : grid.level.DrawsNothing)
    (signal : Array Value) (remaining : Nat) (cells : Array (Cell Value)) :
    ∃ refused after, ∀ rules start source,
      sweepLast (grid.withChance rules start)
        ((grid.withChance rules start).frame signal)
        remaining cells source = (refused, after, source) := by
  induction remaining generalizing cells with
  | zero => exact ⟨none, cells, fun rules start source => rfl⟩
  | succ remaining ih =>
      cases found : cells[cells.size - (remaining + 1)]? with
      | none =>
          refine ⟨none, cells, fun rules start source => ?_⟩
          rw [sweepLast]
          simp only [found]
      | some cell =>
          rcases exists_mapCell_eq_lift nothing signal
            (cells.setIfInBounds (cells.size - (remaining + 1)) cell.keepValue)
            cell.keepValue with
            ⟨result, lifted⟩
          cases result with
          | error fault =>
              refine ⟨some fault,
                cells.setIfInBounds (cells.size - (remaining + 1))
                  cell.keepValue, fun rules start source => ?_⟩
              rw [sweepLast]
              simp only [found, lifted]
              rfl
          | ok mapped =>
              rcases ih ((cells.setIfInBounds (cells.size - (remaining + 1))
                  cell.keepValue).setIfInBounds (cells.size - (remaining + 1))
                  mapped) with
                ⟨refused, after, swept⟩
              refine ⟨refused, after, fun rules start source => ?_⟩
              rw [sweepLast]
              simp only [found, lifted]
              exact swept rules start source

/--
A frame that draws nothing is the same for all rules and all sources, and leaves
them alone.
-/
theorem advance_withChance (nothing : grid.level.DrawsNothing)
    (signal : Array Value) (now : Number)
    (rules : List (Rule Real Value Source)) (source : Source) :
    (grid.withChance rules source).advance signal now =
      ((grid.advance signal now).1,
        (grid.advance signal now).2.withChance rules source) := by
  rcases exists_sweepLast_withChance nothing signal grid.cells.size
      grid.cells with
    ⟨refused, after, swept⟩
  have own : grid.sweep signal = (refused, after, grid.source) :=
    swept grid.rules grid.source grid.source
  have other :
      (grid.withChance rules source).sweep signal = (refused, after, source) :=
    swept rules source source
  rw [advance, advance, own, other]
  by_cases empty : signal.isEmpty = true
  · rw [if_pos empty, if_pos empty]
  · rw [if_neg empty, if_neg empty]
    cases refused with
    | none => rfl
    | some fault => rfl

theorem source_advance (nothing : grid.level.DrawsNothing)
    (signal : Array Value) (now : Number) :
    (grid.advance signal now).2.source = grid.source := by
  have same := advance_withChance nothing signal now grid.rules grid.source
  change grid.advance signal now = _ at same
  rw [same]
  rfl

end WithoutDraws

/-! ## Frames cell by cell -/

section CellByCell

open Arithmetic (mul less setting fraction)

/--
What a completed frame draws for the cell at a position, and what it does to
the value of the cell.

The reading is the one at which the rules are searched for this cell.  With the
standard rules, in any order, a fraction is drawn where the search comes to the
flip rule at a sample inside its window, and nowhere else.
-/
structure DrawsAndTouches (grid : Grid Real Value Source) (signal : Array Value)
    (new : Array (Cell Value)) (sources : Nat → Source) (position : Nat)
    (old later : Cell Value) : Prop where
  nothing : grid.level.DrawsNothing → sources (position + 1) = sources position
  chance : grid.level = .probabilistic →
    sources (position + 1) = (RandomSource.fraction (sources position)).2 ∧
      ∃ sample product, heardAt signal 0 old.index = .ok sample ∧
        mul sample (setting grid.settings.probabilistic.scale) = .ok product ∧
        less (fraction (RandomSource.fraction (sources position)).1) product =
          .ok later.state
  keeps : grid.level = .probabilistic ∨ grid.level = .entropy →
    later.value = old.value
  rules : grid.level = .rules → ∃ reading,
    (grid.frame signal).reading old.keepValue
      (grid.neighboursInSweep new position) =
        .ok reading ∧
      reading.own = heardAt signal grid.offset old.index ∧
      (later.value = old.value ∨ ∃ count rest,
        Rule.Search reading grid.rules (sources position) count rest
          (.found .decay)) ∧
      (grid.rules.Perm Rule.Standard.rules →
        (Rule.Standard.FlipReached reading grid.rules (sources position) →
            sources (position + 1) =
              (RandomSource.fraction (sources position)).2) ∧
          (¬ Rule.Standard.FlipReached reading grid.rules (sources position) →
            sources (position + 1) = sources position))

variable {grid : Grid Real Value Source} {signal : Array Value}
  {new : Array (Cell Value)} {sources : Nat → Source} {position : Nat}
  {old later : Cell Value}

theorem MappedInOrder.drawsAndTouches (nonempty : 0 < signal.size)
    (stays : Arithmetic.store old.value = .ok old.value)
    (inOrder : MappedInOrder grid signal new sources position old later) :
    DrawsAndTouches grid signal new sources position old later := by
  rcases inOrder.mapped with ⟨value, mapped, stored⟩
  change grid.level.map old.keepValue (grid.frame signal) _ _ = _ at mapped
  have unchanged (same : value = old.value) : later.value = old.value := by
    rw [same, stays] at stored
    exact (Except.ok.inj stored).symm
  refine ⟨fun nothing => nothing.source_eq mapped, ?_, ?_, ?_⟩
  · intro level
    rw [level] at mapped
    rcases Level.map_probabilistic_eq_ok_iff.mp mapped with
      ⟨sample, product, heard, scaled, compared, -, left⟩
    rw [sample_frame grid nonempty] at heard
    exact ⟨left, sample, product, heard, scaled, compared⟩
  · rintro (level | level)
    · rw [level] at mapped
      rcases Level.map_probabilistic_eq_ok_iff.mp mapped with
        ⟨_, _, _, _, _, same, _⟩
      exact unchanged same
    · rw [level] at mapped
      have same : value = old.keepValue.value := Level.value_map_entropy mapped
      exact unchanged same
  · intro level
    rw [level] at mapped
    rcases exists_reading_frame grid nonempty old.keepValue
      (grid.neighboursInSweep new position) with ⟨reading, read, ofCell, -, own⟩
    rw [Level.map_rules read] at mapped
    refine ⟨reading, read, own, ?_, fun standard => ?_⟩
    · rcases Rule.value_follow mapped with same | ⟨-, decays⟩
      · rw [ofCell] at same
        exact Or.inl (unchanged same)
      · exact Or.inr decays
    · rcases Rule.Standard.firstMatch_of_follow standard mapped with
        ⟨found, searched⟩
      exact ⟨fun flip =>
        Rule.Standard.source_firstMatch_of_flipReached standard flip searched,
        fun noFlip => Rule.Standard.source_firstMatch_of_not_flipReached
          standard noFlip searched⟩

end CellByCell

/-! ## Completed frames -/

section Completed

variable {grid after : Grid Float Sample Source} {signal : Array Sample}
  {now : Number}

/--
The sources that a completed frame passes through, and what it draws for every
cell.
-/
theorem Reachable.exists_sources (reachable : Reachable grid)
    (completed : grid.advance signal now = (.ok (), after)) :
    after.cells.size = grid.cells.size ∧
      ∃ sources : Nat → Source, sources 0 = grid.source ∧
        sources grid.cells.size = after.source ∧
        ∀ (position : Nat) (old later : Cell Sample),
          grid.cells[position]? = some old →
          after.cells[position]? = some later →
            DrawsAndTouches grid signal after.cells sources position old
              later := by
  rcases Completion.exists_swept ⟨grid, signal, now, after, completed⟩ with
    ⟨nonempty, cells, source, swept, left⟩
  change after = grid.finished signal now cells source at left
  rcases swept.mappedInOrder reachable.laidOut with
    ⟨sources, first, last, inOrder⟩
  rw [left]
  refine ⟨by simpa [finished] using swept.size, sources, first, last, ?_⟩
  intro position old later oldFound laterFound
  have reached : position < grid.cells.size :=
    (Array.getElem?_eq_some_iff.mp oldFound).1
  rcases inOrder position reached with
    ⟨earlier, mapped, earlierFound, mappedFound, ordered⟩
  rw [oldFound] at earlierFound
  cases earlierFound
  simp only [finished, Array.getElem?_map, mappedFound, Option.map_some,
    Option.some.injEq] at laterFound
  rw [← laterFound]
  exact (ordered.settle now).drawsAndTouches nonempty
    (reachable.store_value oldFound)

/--
A completed frame changes the cells, the source and the offset of a grid, and
nothing else.

At the levels that draw nothing it leaves the source alone, and with other rules
and another source it is completed with the same cells and the same offset.  At
every level the source is handed on from position to position, and for every
cell it is told what is drawn and when the value is kept.
-/
theorem drawsAndTouches_of_advance (reachable : Reachable grid)
    (completed : grid.advance signal now = (.ok (), after)) :
    after =
      { grid with
        cells := after.cells
        source := after.source
        offset := after.offset } ∧
      (grid.level.DrawsNothing → after.source = grid.source ∧
        ∀ (rules : List (Rule Float Sample Source)) (source : Source),
          { grid with rules, source }.advance signal now =
            (.ok (), { after with rules, source })) ∧
      after.cells.size = grid.cells.size ∧
      ∃ sources : Nat → Source, sources 0 = grid.source ∧
        sources grid.cells.size = after.source ∧
        ∀ (position : Nat) (old later : Cell Sample),
          grid.cells[position]? = some old →
          after.cells[position]? = some later →
            DrawsAndTouches grid signal after.cells sources position old
              later := by
  refine ⟨?_, fun nothing => ⟨?_, fun rules source => ?_⟩,
    reachable.exists_sources completed⟩
  · rcases Completion.exists_swept ⟨grid, signal, now, after, completed⟩ with
      ⟨-, cells, source, -, left⟩
    change after = grid.finished signal now cells source at left
    rw [left]
    rfl
  · have kept := source_advance nothing signal now
    rwa [completed] at kept
  · have same := advance_withChance nothing signal now rules source
    rwa [completed] at same

/--
Three cells in a row hear a sample inside the flip window, a loud one and a
quiet one, and the flip rule is the first to be evaluated.
-/
theorem drawsAndTouches_of_advance_row :
    ∃ (grid after : Grid Float Sample Random.Twister) (signal : Array Sample)
      (now : Number),
      Reachable grid ∧ grid.level = .rules ∧
      grid.rules.Perm Rule.Standard.rules ∧
        grid.advance signal now = (.ok (), after) ∧
        after =
          { grid with
            cells := after.cells
            source := after.source
            offset := after.offset } ∧
        (grid.level.DrawsNothing → after.source = grid.source ∧
          ∀ (rules : List (Rule Float Sample Random.Twister))
            (source : Random.Twister),
            { grid with rules, source }.advance signal now =
              (.ok (), { after with rules, source })) ∧
        after.cells.size = grid.cells.size ∧
        ∃ sources : Nat → Random.Twister, sources 0 = grid.source ∧
          sources grid.cells.size = after.source ∧
          ∀ (position : Nat) (old later : Cell Sample),
            grid.cells[position]? = some old →
            after.cells[position]? = some later →
              DrawsAndTouches grid signal after.cells sources position old
                later := by
  let grid : Grid Float Sample Random.Twister :=
    (empty .rules .standard [Rule.Standard.midFlip, Rule.Standard.loud,
      Rule.Standard.quiet] .orthogonal (Random.Twister.ofSeed 0)).layOut 1 3
  let signal : Array Sample := #[.ofDouble 0.5, .single 0.9, .wide 0.0]
  have made : make (.int 1) (.int 3) (.int 5)
      (.int 4) grid.settings grid.rules grid.source =
      .ok grid := rfl
  have reachable : Reachable grid := .make ⟨1, rfl⟩ ⟨3, rfl⟩ made
  have standard : grid.rules.Perm Rule.Standard.rules :=
    (List.Perm.swap ..).trans ((List.Perm.swap ..).cons _)
  have floating : ∀ sample ∈ signal, sample.IsFloating := by
    intro sample member
    simp only [signal, List.mem_toArray, List.mem_cons, List.not_mem_nil,
      or_false] at member
    rcases member with rfl | rfl | rfl
    · exact .double _
    · exact .single _
    · exact .wide _
  rcases finished_of_standard reachable standard (by decide) floating
      (.int 0) with
    ⟨cells, source, completed⟩
  exact ⟨grid, _, signal, _, reachable, rfl, standard, completed,
    drawsAndTouches_of_advance reachable completed⟩

end Completed

end Grid

end SoundGrid

import Mathlib
import SoundGrid.Proofs.Fault
import SoundGrid.Proofs.Grid.IndexOrder
import SoundGrid.Proofs.Signal.View

/-!
# The ripple over a run

Every completed frame moves the ripple on by the speed that is in force at its
end, and nothing else moves it, as long as the grid is not reset.  The offset is
brought into the length of the signal at the end of a frame and once more at the
start of the next one, and the rippled index a third time.  If all signals have
one length, none of this can be seen from outside: conditions read the sample
that lies as far from their own place as all speeds so far add up to.

The induction carries the offset up to multiples of that length.  Frames that
are refused in between do not matter to it, for they keep the offset.
-/

namespace SoundGrid

/-! ## What conditions read -/

section Reading

variable {Real Value Source : Type}

/-- What the conditions of the rules read at a cell of a frame. -/
def Frame.reading (frame : Frame Real Value Source) (cell : Cell Value)
    (neighbours : Int) : Except Fault (Reading Real Value) := do
  if frame.length = 0 then
    throw (.misuse .divisionByZero)
  let rippled ← pick frame.signal
    ((cell.index + frame.offset).fmod frame.length)
  let view : SignalView Value :=
    ⟨frame.signal, cell.index.fmod frame.length, rippled⟩
  pure ⟨cell, .view view, neighbours, frame.settings.rules⟩

theorem Frame.exists_view_of_reading {frame : Frame Real Value Source}
    {cell : Cell Value} {neighbours : Int} {reading : Reading Real Value}
    (read : frame.reading cell neighbours = .ok reading) :
    ¬ frame.length = 0 ∧ ∃ rippled,
      pick frame.signal ((cell.index + frame.offset).fmod frame.length) =
        .ok rippled ∧
        reading = ⟨cell, .view ⟨frame.signal, cell.index.fmod frame.length,
          rippled⟩, neighbours, frame.settings.rules⟩ := by
  rw [Frame.reading] at read
  by_cases empty : frame.length = 0
  · rw [if_pos empty] at read
    cases read
  · rw [if_neg empty] at read
    rcases bind_eq_ok_iff.mp read with ⟨rippled, picked, returned⟩
    exact ⟨empty, rippled, picked, (Except.ok.inj returned).symm⟩

/--
A reading of a signal in which the own sample lies so far behind the cell's own
place.
-/
structure Reading.IsShifted (signal : Array Value) (shift : Nat)
    (reading : Reading Real Value) : Prop where
  size : reading.heard.size = signal.size
  own : ∃ sample, pick signal ((reading.cell.index + shift) % signal.size) =
    .ok sample ∧ reading.own = .ok sample
  others : ∀ position value, position % signal.size ≠
    reading.cell.index % signal.size →
    (reading.heard.get position = .ok value ↔ pick signal position = .ok value)

/-- Only the remainder of a shift can be seen. -/
theorem Reading.IsShifted.of_mod_eq {signal : Array Value} {shift other : Nat}
    {reading : Reading Real Value} (shifted : reading.IsShifted signal shift)
    (same : shift % signal.size = other % signal.size) :
    reading.IsShifted signal other where
  size := shifted.size
  own := by
    have remainders : (shift : Int) % signal.size = other % signal.size := by
      exact_mod_cast same
    have places : (reading.cell.index + other) % (signal.size : Int) =
        (reading.cell.index + shift) % signal.size := by
      rw [← Int.add_emod_emod, ← remainders, Int.add_emod_emod]
    rw [places]
    exact shifted.own
  others := shifted.others

/--
In a frame with samples conditions read a view that is shifted by the frame's
offset.
-/
theorem Frame.exists_reading {frame : Frame Real Value Source} {shift : Nat}
    (length : frame.length = frame.signal.size) (offset : frame.offset = shift)
    (nonempty : 0 < frame.signal.size) (cell : Cell Value) (neighbours : Int) :
    ∃ reading, frame.reading cell neighbours = .ok reading ∧
      reading.cell = cell ∧ reading.settings = frame.settings.rules ∧
      reading.IsShifted frame.signal shift := by
  have notEmpty : ¬ (frame.signal.size : Int) = 0 := by omega
  have places (index : Int) :
      index.fmod frame.signal.size = index % frame.signal.size :=
    Int.fmod_eq_emod_of_nonneg index (by omega)
  rcases pick_of_isIndex (fmod_isIndex (cell.index + shift) nonempty) with
    ⟨rippled, picked, -⟩
  let view : SignalView Value :=
    ⟨frame.signal, cell.index.fmod frame.signal.size, rippled⟩
  have read : frame.reading cell neighbours =
      .ok ⟨cell, .view view, neighbours, frame.settings.rules⟩ := by
    simp only [Frame.reading, length, offset, if_neg notEmpty, picked]
    rfl
  refine ⟨_, read, rfl, rfl, rfl, ⟨rippled, ?_, ?_⟩, ?_⟩
  · rw [← places]
    exact picked
  · have inView : ¬ view.base.size = 0 := Nat.ne_of_gt nonempty
    have index : view.get view.index = .ok rippled :=
      SignalView.get_index (fmod_isIndex cell.index nonempty)
    rw [Reading.own]
    exact (if_neg inView).trans index
  · intro position value elsewhere
    apply SignalView.get_eq_ok_iff
    change position % (frame.signal.size : Int) ≠
      cell.index.fmod frame.signal.size % _
    rw [places, Int.emod_emod]
    exact elsewhere

variable [Arithmetic Real Value] [RandomSource Source]

/--
The value and state that the first rule which holds for a reading gives its
cell.
-/
def Rule.follow (rules : List (Rule Real Value Source))
    (reading : Reading Real Value) : Chance Source (Value × Bool) := do
  match ← firstMatch reading rules with
  | none => pure (reading.cell.value, reading.cell.state)
  | some rule => rule.action.apply reading.cell reading.settings

/--
The rules of a frame map a cell by what they read there, and by nothing else.
-/
theorem Level.map_rules {frame : Frame Real Value Source} {cell : Cell Value}
    {neighbours : Int} {reading : Reading Real Value}
    (read : frame.reading cell neighbours = .ok reading) :
    Level.rules.map cell frame neighbours =
      Rule.follow frame.rules reading := by
  rcases Frame.exists_view_of_reading read with ⟨notEmpty, rippled, picked, rfl⟩
  rw [Level.map, Rule.step, if_neg notEmpty, picked]
  rfl

end Reading

/-! ## Completed frames -/

namespace Grid

section Completion

variable {Value Source : Type} [Arithmetic Float Value] [RandomSource Source]

variable (Value Source) in
/--
A frame that was completed: what it started from, its signal and time, and what
it left.
-/
structure Completion where
  before : Grid Float Value Source
  signal : Array Value
  now : Number
  after : Grid Float Value Source
  completed : before.advance signal now = (.ok (), after)

theorem Completion.exists_swept (frame : Completion Value Source) :
    0 < frame.signal.size ∧
      ∃ cells source,
        Swept frame.before (frame.before.frame frame.signal)
            frame.before.cells.size cells source ∧
          frame.after =
            frame.before.finished frame.signal frame.now cells source := by
  have completed := frame.completed
  have nonempty : 0 < frame.signal.size := by
    apply Nat.pos_of_ne_zero
    intro empty
    rw [advance, if_pos (Array.isEmpty_iff_size_eq_zero.mpr empty)] at completed
    cases completed
  refine ⟨nonempty, ?_⟩
  rcases advance_cases frame.before frame.signal frame.now with
    ⟨-, outcome⟩ | ⟨cells, source, swept, outcome⟩ |
    ⟨position, cell, cells, fault, rest, -, outcome⟩
  · rw [outcome] at completed
    cases completed
  · rw [outcome] at completed
    exact ⟨cells, source, swept, (Prod.mk.inj completed).2.symm⟩
  · rw [outcome] at completed
    cases completed

/--
A completed frame moves the ripple on by the speed that it leaves in force.
-/
theorem Completion.offset_after (frame : Completion Value Source) :
    frame.after.offset =
      (frame.before.offset + frame.after.settings.rules.rippleSpeed) %
        frame.signal.size := by
  rcases frame.exists_swept with ⟨-, cells, source, -, left⟩
  rw [left]
  rfl

/-- The frame that an operation completes, if it is one and is not refused. -/
def completion? (grid : Grid Float Value Source) :
    Operation Value → Option (Completion Value Source)
  | .advance signal now =>
      if done : (grid.advance signal now).1.isOk = true then
        some ⟨grid, signal, now, (grid.advance signal now).2,
          eq_ok_of_isOk done⟩
      else
        none
  | _ => none

theorem of_completion?_eq_some {grid : Grid Float Value Source}
    {operation : Operation Value} {frame : Completion Value Source}
    (found : grid.completion? operation = some frame) :
    operation = .advance frame.signal frame.now ∧ frame.before = grid ∧
      (grid.perform operation).2 = frame.after := by
  cases operation with
  | advance signal now =>
      simp only [completion?, Option.dite_none_right_eq_some] at found
      rcases found with ⟨done, same⟩
      rw [← Option.some.inj same]
      exact ⟨rfl, rfl, rfl⟩
  | setLevel | setParameter | assign | shuffleRules | draw | resize | reset =>
      cases found

/-- Everything else keeps the ripple where it is, except for a reset. -/
theorem offset_perform_of_no_completion {grid : Grid Float Value Source}
    {operation : Operation Value} (nothing : grid.completion? operation = none)
    (noReset : operation ≠ .reset) :
    (grid.perform operation).2.offset = grid.offset := by
  have control (kept : operation.IsControl) :
      (grid.perform operation).2.offset = grid.offset := by
    rcases differInControls_perform grid kept with
      ⟨level, settings, rules, source, left⟩
    rw [left]
  cases operation with
  | advance signal now =>
      rcases advance_cases grid signal now with
        ⟨-, outcome⟩ | ⟨cells, source, -, outcome⟩ |
        ⟨position, cell, cells, fault, rest, -, outcome⟩
      · rw [perform, outcome]
      · have done : (grid.advance signal now).1.isOk = true := by
          rw [outcome]
          rfl
        rw [completion?, dif_pos done] at nothing
        cases nothing
      · rw [perform, outcome]
  | resize rows columns =>
      rw [perform]
      rcases grid.resize_cases rows columns with
        ⟨fault, outcome⟩ | ⟨newRows, fault, -, -, -, outcome⟩ |
        ⟨newRows, newColumns, -, -, outcome⟩
      · rw [outcome]
      · rw [outcome]
      · rw [outcome]
        rfl
  | reset => exact absurd rfl noReset
  | setLevel | setParameter | assign | shuffleRules | draw =>
      exact control trivial

/-! ## Runs -/

/-- The frames that a run completes, in their order. -/
def completions (grid : Grid Float Value Source) :
    List (Operation Value) → List (Completion Value Source)
  | [] => []
  | operation :: rest =>
      (grid.completion? operation).toList ++
        completions (grid.perform operation).2 rest

/-- The ripple speeds at the ends of some frames, added up. -/
def travelled (frames : List (Completion Value Source)) : Nat :=
  (frames.map fun frame => frame.after.settings.rules.rippleSpeed).sum

/--
Every completed frame starts from where the operations before it have led.
-/
theorem exists_prefix_of_completion {grid : Grid Float Value Source}
    {operations : List (Operation Value)} {place : Nat}
    {frame : Completion Value Source}
    (found : (grid.completions operations)[place]? = some frame) :
    ∃ earlier later, operations =
        earlier ++ .advance frame.signal frame.now :: later ∧
      frame.before = grid.run earlier ∧
        grid.completions earlier =
          (grid.completions operations).take place := by
  induction operations generalizing grid place with
  | nil => cases found
  | cons operation rest ih =>
      rw [completions] at found ⊢
      cases own : grid.completion? operation with
      | none =>
          rw [own] at found
          rcases ih found with ⟨earlier, later, split, reached, taken⟩
          refine ⟨operation :: earlier, later, by rw [split]; rfl, reached, ?_⟩
          rw [completions, own]
          exact taken
      | some first =>
          rw [own] at found
          cases place with
          | zero =>
              cases found
              rcases of_completion?_eq_some own with ⟨advances, before, -⟩
              exact ⟨[], rest, by rw [advances]; rfl, before, rfl⟩
          | succ place =>
              rcases ih found with ⟨earlier, later, split, reached, taken⟩
              refine ⟨operation :: earlier, later, by rw [split]; rfl,
                reached, ?_⟩
              rw [completions, own, taken]
              rfl

/-- Between resets the ripple is where the completed frames have carried it. -/
theorem offset_run {length : Nat} {operations : List (Operation Value)}
    (noReset : ∀ operation ∈ operations, operation ≠ .reset)
    (grid : Grid Float Value Source)
    (lengths : ∀ frame ∈ grid.completions operations,
      frame.signal.size = length) :
    (grid.run operations).offset =
      if grid.completions operations = [] then grid.offset
      else (grid.offset + travelled (grid.completions operations)) %
        length := by
  induction operations generalizing grid with
  | nil => rfl
  | cons operation rest ih =>
      have noResetLater : ∀ later ∈ rest, later ≠ .reset :=
        fun later member =>
          noReset later (List.mem_cons_of_mem operation member)
      rw [completions] at lengths ⊢
      rw [run]
      cases own : grid.completion? operation with
      | none =>
          rw [own] at lengths
          have kept := offset_perform_of_no_completion own
            (noReset operation List.mem_cons_self)
          rw [ih noResetLater _ lengths, kept]
          rfl
      | some first =>
          rcases of_completion?_eq_some own with ⟨-, before, after⟩
          rw [own, after, Option.toList_some, List.singleton_append] at lengths
          rw [after, Option.toList_some, List.singleton_append]
          have moved : first.after.offset =
              (grid.offset + first.after.settings.rules.rippleSpeed) %
                length := by
            rw [first.offset_after, before, lengths first List.mem_cons_self]
          have lengthsLater : ∀ frame ∈ first.after.completions rest,
              frame.signal.size = length :=
            fun frame member =>
              lengths frame (List.mem_cons_of_mem first member)
          rw [ih noResetLater _ lengthsLater,
            if_neg (List.cons_ne_nil _ _), moved]
          -- The remainder at the end of this frame vanishes in that of a later
          -- one.
          by_cases last : first.after.completions rest = []
          · rw [if_pos last, last]
            rfl
          · rw [if_neg last, Nat.mod_add_mod, Nat.add_assoc]
            rfl

/-! ## The ripple in closed form -/

/--
A completed frame with the ripple so far behind: all conditions read signals
that are shifted so, and its rules made the new cells out of such readings.
-/
structure Completion.Rippled (frame : Completion Value Source)
    (shift : Nat) : Prop where
  reads : ∀ (cell : Cell Value) (neighbours : Int), ∃ reading,
    (frame.before.frame frame.signal).reading cell neighbours = .ok reading ∧
      reading.cell = cell ∧ reading.settings = frame.before.settings.rules ∧
        reading.IsShifted frame.signal shift
  maps :
    frame.before.level = .rules → ∀ (position : Nat) (old new : Cell Value),
    frame.before.cells[position]? = some old →
    frame.after.cells[position]? = some new →
      ∃ neighbours reading source rest value,
        (frame.before.frame frame.signal).reading old.keepValue neighbours =
          .ok reading ∧
          Rule.follow frame.before.rules reading source =
            .ok (value, new.state) rest ∧
            Arithmetic.store value = .ok new.value

theorem Completion.rippled (frame : Completion Value Source) :
    frame.Rippled frame.before.offset := by
  rcases frame.exists_swept with ⟨nonempty, cells, source, swept, left⟩
  have reads (cell : Cell Value) (neighbours : Int) : ∃ reading,
      (frame.before.frame frame.signal).reading cell neighbours = .ok reading ∧
        reading.cell = cell ∧ reading.settings = frame.before.settings.rules ∧
          reading.IsShifted frame.signal frame.before.offset := by
    have reduced : (frame.before.frame frame.signal).offset =
        (frame.before.offset % frame.signal.size : Nat) := rfl
    rcases Frame.exists_reading rfl reduced nonempty cell neighbours with
      ⟨reading, read, own, settings, shifted⟩
    exact ⟨reading, read, own, settings, shifted.of_mod_eq (Nat.mod_mod _ _)⟩
  refine ⟨reads, ?_⟩
  intro followed position old new oldFound newFound
  rcases swept.replay with ⟨sources, -, -, replayed⟩
  have reached : position < frame.before.cells.size :=
    (Array.getElem?_eq_some_iff.mp oldFound).1
  rcases replayed position reached with
    ⟨earlier, later, seen, earlierFound, laterFound, -, made⟩
  rw [oldFound] at earlierFound
  cases earlierFound
  rw [left, finished] at newFound
  simp only [Array.getElem?_map, laterFound, Option.map_some,
    Option.some.injEq] at newFound
  subst newFound
  rcases mapCell_eq_ok_iff.mp made with
    ⟨neighbours, value, state, stored, -, mapped, kept, rfl⟩
  rcases reads old.keepValue neighbours with ⟨reading, read, -, -, -⟩
  rw [followed, Level.map_rules read] at mapped
  exact ⟨neighbours, reading, _, _, value, read, mapped, kept⟩

theorem Completion.Rippled.of_mod_eq {frame : Completion Value Source}
    {shift other : Nat} (rippled : frame.Rippled shift)
    (same : shift % frame.signal.size = other % frame.signal.size) :
    frame.Rippled other where
  reads cell neighbours := by
    rcases rippled.reads cell neighbours with
      ⟨reading, read, own, settings, shifted⟩
    exact ⟨reading, read, own, settings, shifted.of_mod_eq same⟩
  maps := rippled.maps

/--
Between resets, as long as the signals of all completed frames have one length,
conditions read the sample that lies as far from their cell as the ripple had
come at the start and all completed frames have carried it since.
-/
theorem rippled_of_completions {grid : Grid Float Value Source} {length : Nat}
    {operations : List (Operation Value)}
    (noReset : ∀ operation ∈ operations, operation ≠ .reset)
    (lengths : ∀ frame ∈ grid.completions operations,
      frame.signal.size = length) :
    (∀ (place : Nat) (frame : Completion Value Source),
        (grid.completions operations)[place]? = some frame →
          frame.Rippled (grid.offset +
            travelled ((grid.completions operations).take place))) ∧
      (grid.completions operations ≠ [] →
        (grid.run operations).offset =
          (grid.offset + travelled (grid.completions operations)) %
            length) := by
  constructor
  · intro place frame found
    rcases exists_prefix_of_completion found with
      ⟨earlier, later, rfl, before, taken⟩
    have lengthsEarlier :
        ∀ frame ∈ grid.completions earlier, frame.signal.size = length := by
      rw [taken]
      exact fun frame member => lengths frame (List.mem_of_mem_take member)
    have reached := offset_run (fun operation member =>
      noReset operation (List.mem_append_left _ member)) grid lengthsEarlier
    apply frame.rippled.of_mod_eq
    rw [before, reached, lengths frame (List.mem_of_getElem? found), ← taken]
    by_cases first : grid.completions earlier = []
    · rw [if_pos first, first]
      rfl
    · rw [if_neg first, Nat.mod_mod]
  · intro some
    rw [offset_run noReset grid lengths, if_neg some]

end Completion

/--
The square by rules, with the ripple three samples on.  Of four frames one has
no samples and one stops at a text; the two others are completed, the second
of them after the ripple was sped up.
-/
theorem rippled_of_completions_square :
    ∃ (grid : Grid Float Sample Random.Twister)
      (operations : List (Operation Sample)),
      grid.level = .rules ∧ grid.offset = 3 ∧
        (grid.completions operations).map
          (fun frame => frame.after.settings.rules.rippleSpeed) = [1, 7] ∧
        (grid.run operations).offset = 1 ∧
        (∀ (place : Nat) (frame : Completion Sample Random.Twister),
          (grid.completions operations)[place]? = some frame →
            frame.Rippled (grid.offset +
              travelled ((grid.completions operations).take place))) ∧
        (grid.completions operations ≠ [] →
          (grid.run operations).offset =
            (grid.offset + travelled (grid.completions operations)) % 5) := by
  let loud : Sample := .ofDouble 0.75
  let quiet : Sample := .ofInt 0
  let grid := { square with level := .rules, offset := 3 }
  let operations : List (Operation Sample) :=
    [.advance #[loud, quiet, quiet, loud, quiet] (.int 0),
      .advance #[] (.int 1),
      .setParameter (.text "ripple_speed") (.int 7) .null,
      .advance #[.plain (.text "x"), loud, loud, loud, loud] (.int 2),
      .advance #[quiet, loud, quiet, loud, quiet] (.int 3)]
  have noReset : ∀ operation ∈ operations, operation ≠ .reset := by
    simp [operations]
  have lengths :
      ∀ frame ∈ grid.completions operations, frame.signal.size = 5 := by
    have sizes : (grid.completions operations).all
        (fun frame => frame.signal.size == 5) := by
      decide +kernel
    simpa using sizes
  exact ⟨grid, operations, rfl, rfl, by decide +kernel, by decide +kernel,
    rippled_of_completions noReset lengths⟩

end Grid

end SoundGrid

import SoundGrid.Proofs.Grid.OtherRules
import SoundGrid.Proofs.Random.Draws

/-!
# Shuffled rules

A shuffle puts the rules of a grid in an order that its draws decide, each order
by draws of its own, and it changes nothing else but the source.

It does so in a list that the grid keeps for itself. Callers have lists too, and
a grid is made of one of them, but the construction copies it. On a shelf all
these lists stand side by side, so that one of them could be changed for
another. What is done with the grid and its rules changes the grid's own list
alone, and there only the order.
-/

namespace SoundGrid

namespace Rule

variable {Real Value Source : Type}
  {rules order : List (Rule Real Value Source)}

/-- The rules in the order that draws lead to. -/
def arrange (rules : List (Rule Real Value Source))
    (draws : Random.Draws (rules.length - 1)) : List (Rule Real Value Source) :=
  (Random.exchangeFrom rules.toArray (rules.length - 1) draws).toList

theorem perm_arrange (rules : List (Rule Real Value Source))
    (draws : Random.Draws (rules.length - 1)) :
    (arrange rules draws).Perm rules :=
  Array.perm_iff_toList_perm.mp (Random.perm_exchangeFrom rules.toArray _ draws)

theorem existsUnique_arrange (distinct : rules.Nodup)
    (reordered : order.Perm rules) : ∃! draws, arrange rules draws = order := by
  have arrays : order.toArray.Perm rules.toArray :=
    Array.perm_iff_toList_perm.mpr reordered
  rcases Random.existsUnique_exchangeFrom distinct arrays with
    ⟨draws, reached, unique⟩
  refine ⟨draws, congrArg Array.toList reached, fun others leads => ?_⟩
  exact unique others (Array.toList_inj.mp leads)

theorem shuffle_eq_arrange [RandomSource Source]
    (rules : List (Rule Real Value Source)) (source : Source) :
    shuffle rules source =
      (arrange rules (Random.drawsFrom (rules.length - 1) source).1,
        (Random.drawsFrom (rules.length - 1) source).2) := by
  have drawn : Random.shuffle rules.toArray source = _ :=
    Random.shuffleFrom_eq rules.toArray (rules.length - 1) source
  rw [shuffle, drawn]
  rfl

end Rule

/--
Lists of rules by their places, and a grid that keeps its own rules at one of
them.
-/
structure Shelf (Value Source : Type) where
  lists : Array (List (Rule Float Value Source))
  own : Nat
  grid : Grid Float Value Source

namespace Shelf

variable {Value Source : Type} {shelf : Shelf Value Source}
  {grid : Grid Float Value Source} {place : Nat}

/--
A new grid beside the lists that there are; its rules are copied to a new place.
-/
def holding (lists : Array (List (Rule Float Value Source)))
    (grid : Grid Float Value Source) : Shelf Value Source :=
  ⟨lists.push grid.rules, lists.size, grid⟩

theorem own_holding_lt (lists : Array (List (Rule Float Value Source)))
    (grid : Grid Float Value Source) :
    (holding lists grid).own < (holding lists grid).lists.size := by
  simp [holding]

/--
The lists of callers are at other places than the copy, and they are as before.
-/
theorem getElem?_lists_holding {lists : Array (List (Rule Float Value Source))}
    (grid : Grid Float Value Source) {rules : List (Rule Float Value Source)}
    (found : lists[place]? = some rules) :
    place ≠ (holding lists grid).own ∧
      (holding lists grid).lists[place]? = some rules := by
  have before : place ≠ lists.size :=
    Nat.ne_of_lt (Array.getElem?_eq_some_iff.mp found).1
  refine ⟨before, ?_⟩
  rw [holding, Array.getElem?_push, if_neg before]
  exact found

/-- The grid with the rules that stand at its place. -/
def current (shelf : Shelf Value Source) : Grid Float Value Source :=
  shelf.grid.withRules (shelf.lists[shelf.own]?.getD [])

theorem current_holding (lists : Array (List (Rule Float Value Source)))
    (grid : Grid Float Value Source) : (holding lists grid).current = grid := by
  simp only [current, holding, Array.getElem?_push_size, Option.getD_some]
  rfl

/-- Puts back a grid, with its rules in their place. -/
def keep (shelf : Shelf Value Source)
    (grid : Grid Float Value Source) : Shelf Value Source :=
  { shelf with grid, lists := shelf.lists.setIfInBounds shelf.own grid.rules }

theorem current_keep (inside : shelf.own < shelf.lists.size) :
    (shelf.keep grid).current = grid := by
  rw [current, keep]
  simp only [Array.getElem?_setIfInBounds_self_of_lt inside, Option.getD_some]
  rfl

/--
What an event does not change: the place of the grid's rules, and their
multiset.
-/
structure Keeps (shelf next : Shelf Value Source) : Prop where
  own : next.own = shelf.own
  size : next.lists.size = shelf.lists.size
  reordered : next.current.rules.Perm shelf.current.rules

theorem keeps_keep (inside : shelf.own < shelf.lists.size)
    (reordered : grid.rules.Perm shelf.current.rules) :
    shelf.Keeps (shelf.keep grid) where
  own := rfl
  size := Array.size_setIfInBounds
  reordered := by
    rw [current_keep inside]
    exact reordered

/-! ## Events -/

/--
What can be done with the grid, with its rules, and with the lists of callers.
-/
inductive Event (Value Source : Type) where
  | operate (operation : Grid.Operation Value)
  /-- Searches the rules. -/
  | search (reading : Reading Float Value)
  /-- Has the rules map a cell. -/
  | step (frame : Frame Float Value Source) (cell : Cell Value)
    (neighbours : Int)
  /-- Shuffles the rules with another source than that of the grid. -/
  | shuffle (source : Source)
  /-- Replaces a list of a caller. -/
  | write (place : Nat) (rules : List (Rule Float Value Source))

/-- An event in which no caller replaces the list at a place. -/
def Event.Leaves (place : Nat) : Event Value Source → Prop
  | .write other _ => other ≠ place
  | _ => True

/-- What a computation leaves of the source. -/
def left {Result : Type} : EStateM.Result Fault Source Result → Source
  | .ok _ rest | .error _ rest => rest

variable [Arithmetic Float Value] [RandomSource Source]

/-- The shelf after an event. -/
def perform (shelf : Shelf Value Source) :
    Event Value Source → Shelf Value Source
  | .operate operation => shelf.keep (shelf.current.perform operation).2
  | .search reading =>
      shelf.keep { shelf.current with
        source := left (Rule.firstMatch reading shelf.current.rules
          shelf.current.source) }
  | .step frame cell neighbours =>
      shelf.keep { shelf.current with
        source :=
          left (Rule.step shelf.current.rules cell frame.signal frame.length
            frame.offset neighbours frame.settings.rules shelf.current.source) }
  | .shuffle source =>
      shelf.keep
        (shelf.current.withRules (Rule.shuffle shelf.current.rules source).1)
  | .write place rules =>
      if place = shelf.own then shelf
      else { shelf with lists := shelf.lists.setIfInBounds place rules }

/-- The shelf after a run of events. -/
def run (shelf : Shelf Value Source) :
    List (Event Value Source) → Shelf Value Source
  | [] => shelf
  | event :: rest => run (shelf.perform event) rest

theorem keeps_perform (inside : shelf.own < shelf.lists.size)
    (event : Event Value Source) : shelf.Keeps (shelf.perform event) := by
  cases event with
  | operate operation =>
      exact keeps_keep inside (Grid.perm_rules_perform _ operation)
  | search reading => exact keeps_keep inside (List.Perm.refl _)
  | step frame cell neighbours => exact keeps_keep inside (List.Perm.refl _)
  | shuffle source => exact keeps_keep inside (Rule.perm_shuffle _ source)
  | write place rules =>
      rw [perform]
      split
      · exact ⟨rfl, rfl, List.Perm.refl _⟩
      · next elsewhere =>
          refine ⟨rfl, Array.size_setIfInBounds, List.Perm.of_eq ?_⟩
          simp only [current, Array.getElem?_setIfInBounds_ne elsewhere]

theorem keeps_run (inside : shelf.own < shelf.lists.size)
    (events : List (Event Value Source)) : shelf.Keeps (shelf.run events) := by
  induction events generalizing shelf with
  | nil => exact ⟨rfl, rfl, List.Perm.refl _⟩
  | cons event rest ih =>
      have first := keeps_perform inside event
      have others := ih (by rw [first.own, first.size]; exact inside)
      exact ⟨others.own.trans first.own, others.size.trans first.size,
        others.reordered.trans first.reordered⟩

/-- A list at another place changes only when its caller replaces it. -/
theorem getElem?_lists_perform (elsewhere : place ≠ shelf.own)
    {event : Event Value Source} (leaves : event.Leaves place) :
    (shelf.perform event).lists[place]? = shelf.lists[place]? := by
  cases event with
  | operate | search | step | shuffle =>
      exact Array.getElem?_setIfInBounds_ne elsewhere.symm
  | write other rules =>
      rw [perform]
      split
      · rfl
      · exact Array.getElem?_setIfInBounds_ne leaves

theorem getElem?_lists_run (inside : shelf.own < shelf.lists.size)
    (elsewhere : place ≠ shelf.own) {events : List (Event Value Source)}
    (leaves : ∀ event ∈ events, event.Leaves place) :
    (shelf.run events).lists[place]? = shelf.lists[place]? := by
  induction events generalizing shelf with
  | nil => rfl
  | cons event rest ih =>
      rcases List.forall_mem_cons.mp leaves with ⟨now, later⟩
      have kept := keeps_perform inside event
      rw [run, ih (by rw [kept.own, kept.size]; exact inside)
        (by rw [kept.own]; exact elsewhere) later,
        getElem?_lists_perform elsewhere now]

/--
Draws and orders of distinct rules correspond one to one, and the rules of a
grid are only ever put into another order, in a list of its own.
-/
theorem own_rules_shuffled_uniformly :
    (∀ (rules : List (Rule Float Value Source)) (source : Source),
      (Rule.shuffle rules source).1.Perm rules ∧
        Rule.shuffle rules source =
          (Rule.arrange rules (Random.drawsFrom (rules.length - 1) source).1,
            (Random.drawsFrom (rules.length - 1) source).2)) ∧
    (∀ rules : List (Rule Float Value Source), rules.Nodup →
      Fintype.card (Random.Draws (rules.length - 1)) = rules.length.factorial ∧
        (∀ draws, (Rule.arrange rules draws).Perm rules) ∧
        ∀ order : List (Rule Float Value Source), order.Perm rules →
          ∃! draws, Rule.arrange rules draws = order) ∧
    (∀ grid : Grid Float Value Source,
      grid.shuffleRules =
        { grid with
          rules := (Rule.shuffle grid.rules grid.source).1
          source := (Rule.shuffle grid.rules grid.source).2 }) ∧
    (∀ (rows columns level connectivity : Datum) (settings : Settings Float)
      (rules : List (Rule Float Value Source)) (source : Source)
      (grid : Grid Float Value Source),
      Grid.make rows columns level connectivity settings rules source =
        .ok grid → grid.rules = rules) ∧
    ∀ (lists : Array (List (Rule Float Value Source)))
      (grid : Grid Float Value Source) (events : List (Event Value Source)),
      ((holding lists grid).run events).current.rules.length =
        grid.rules.length ∧
      ((holding lists grid).run events).current.rules.Perm grid.rules ∧
        ∀ place rules, lists[place]? = some rules →
          (∀ event ∈ events, event.Leaves place) →
          ((holding lists grid).run events).lists[place]? = some rules := by
  refine ⟨?shuffles, ?draws, ?others, ?taken, ?run⟩
  case shuffles =>
    exact fun rules source =>
      ⟨Rule.perm_shuffle rules source, Rule.shuffle_eq_arrange rules source⟩
  case draws =>
    intro rules distinct
    refine ⟨?_, Rule.perm_arrange rules, fun order reordered =>
      Rule.existsUnique_arrange distinct reordered⟩
    rw [Random.card_draws]
    cases rules with
    | nil => rfl
    | cons rule rest => rfl
  case others => exact fun grid => rfl
  case taken =>
    intro rows columns level connectivity settings rules source grid made
    exact Grid.rules_of_make made
  case run =>
    intro lists grid events
    have inside := own_holding_lt lists grid
    have kept := (keeps_run inside events).reordered
    rw [current_holding] at kept
    refine ⟨kept.length_eq, kept, fun place rules found leaves => ?_⟩
    rcases getElem?_lists_holding grid found with ⟨elsewhere, before⟩
    rw [getElem?_lists_run inside elsewhere leaves, before]

/--
Three rules in the list of a caller, and a grid that is made of them: it
shuffles its rules, they are shuffled with another source, and another list is
replaced.
-/
theorem own_rules_shuffled_uniformly_three :
    ∃ (rules order : List (Rule Float Sample Random.Twister))
      (lists : Array (List (Rule Float Sample Random.Twister)))
      (grid : Grid Float Sample Random.Twister)
      (events : List (Event Sample Random.Twister)),
      rules.Nodup ∧ order.Perm rules ∧ order ≠ rules ∧
        Fintype.card (Random.Draws (rules.length - 1)) = 6 ∧
        (∃! draws, Rule.arrange rules draws = order) ∧
        grid.rules = rules ∧
        ((holding lists grid).run events).current.rules.Perm rules ∧
        lists[0]? = some rules ∧
        ((holding lists grid).run events).lists[0]? = some rules := by
  let rules : List (Rule Float Sample Random.Twister) :=
    [Rule.Standard.loud, Rule.Standard.quiet, Rule.Standard.midFlip]
  let order : List (Rule Float Sample Random.Twister) :=
    [Rule.Standard.midFlip, Rule.Standard.quiet, Rule.Standard.loud]
  let lists : Array (List (Rule Float Sample Random.Twister)) := #[rules, []]
  let source := Random.Twister.ofSeed 0
  let grid : Grid Float Sample Random.Twister :=
    (Grid.empty .rules .standard rules .orthogonal source).layOut 2 2
  let events : List (Event Sample Random.Twister) :=
    [.operate .shuffleRules, .shuffle (Random.Twister.ofSeed 3), .write 1 order,
      .operate (.advance #[.ofDouble 0.5] (.int 0))]
  have distinct : rules.Nodup := List.Nodup.of_map Rule.name (by decide)
  have reordered : order.Perm rules := List.reverse_perm rules
  have different : order ≠ rules := by
    intro equal
    have names := congrArg (List.map Rule.name) equal
    revert names
    decide
  have made : Grid.make (.int 2) (.int 2) (.int 5)
      (.int 4) .standard rules source = .ok grid :=
    rfl
  have leaves : ∀ event ∈ events, event.Leaves 0 := by
    simp [events, Event.Leaves]
  have draws := own_rules_shuffled_uniformly.2.1 rules distinct
  have taken := own_rules_shuffled_uniformly.2.2.2.1 _ _ _ _ _ _ _ _ made
  have kept := own_rules_shuffled_uniformly.2.2.2.2 lists grid events
  refine ⟨rules, order, lists, grid, events, distinct, reordered, different,
    draws.1, draws.2.2 order reordered, taken, ?_, rfl,
    kept.2.2 0 rules rfl leaves⟩
  rw [← taken]
  exact kept.2.1

end Shelf

end SoundGrid

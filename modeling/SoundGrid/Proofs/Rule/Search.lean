import SoundGrid.Proofs.Grid.Ripple
import SoundGrid.Proofs.Signal.Replaced
import SoundGrid.Rule.Formula

/-!
# How rules are searched

A search evaluates conditions in the order of the rules, and it ends in one of
three ways: a condition refuses, a condition holds, or there are no more rules.
`Search` says so of a list of any length, with what the conditions draw on the
way, and a step is what follows from the ending.

Which conditions were evaluated cannot be seen from a result.  So every rule is
given a watch that notes its place and its reading in the source before its
condition is evaluated.  The watched rules do what the rules do, and when they
are done the notes tell the evaluations one by one.
-/

namespace SoundGrid.Rule

variable {Real Value Source : Type}

/-! ## Searches -/

/-- Rules whose conditions are evaluated one after another and do not hold. -/
inductive Skipped (reading : Reading Real Value) :
    List (Rule Real Value Source) → Source → Source → Prop where
  | nil {source : Source} : Skipped reading [] source source
  | cons {rule : Rule Real Value Source} {rest : List (Rule Real Value Source)}
      {source middle last : Source}
      (own : rule.condition reading source = .ok false middle)
      (others : Skipped reading rest middle last) :
      Skipped reading (rule :: rest) source last

/--
The ways in which a search ends: a condition refuses, or it holds, or none does.
-/
inductive Ending where
  | refused (fault : Fault)
  | found (action : Action)
  | exhausted

/--
How many conditions a search evaluates, what they leave of the source, and how
it ends.
-/
inductive Search (reading : Reading Real Value)
    (rules : List (Rule Real Value Source)) (source : Source) :
    Nat → Source → Ending → Prop where
  | refused {before after : List (Rule Real Value Source)}
    {rule : Rule Real Value Source} {middle rest : Source} {fault : Fault}
    (split : rules = before ++ rule :: after)
    (skipped : Skipped reading before source middle)
    (refuses : rule.condition reading middle = .error fault rest) :
      Search reading rules source (before.length + 1) rest (.refused fault)
  | found {before after : List (Rule Real Value Source)}
    {rule : Rule Real Value Source} {middle rest : Source}
    (split : rules = before ++ rule :: after)
    (skipped : Skipped reading before source middle)
    (holds : rule.condition reading middle = .ok true rest) :
      Search reading rules source (before.length + 1) rest (.found rule.action)
  | exhausted {rest : Source} (skipped : Skipped reading rules source rest) :
      Search reading rules source rules.length rest .exhausted

variable {reading : Reading Real Value}
  {rules before after : List (Rule Real Value Source)}
  {rule : Rule Real Value Source} {source middle rest : Source}

theorem exists_search (reading : Reading Real Value)
    (rules : List (Rule Real Value Source)) (source : Source) :
    ∃ count rest ending, Search reading rules source count rest ending := by
  induction rules generalizing source with
  | nil => exact ⟨0, source, .exhausted, .exhausted .nil⟩
  | cons rule others ih =>
      cases evaluated : rule.condition reading source with
      | error fault rest =>
          exact ⟨1, rest, .refused fault,
            .refused (List.nil_append _).symm .nil evaluated⟩
      | ok holds middle =>
          cases holds with
          | true => exact ⟨1, middle, .found rule.action,
              .found (List.nil_append _).symm .nil evaluated⟩
          | false =>
              rcases ih middle with ⟨_, _, _, search⟩
              cases search with
              | refused split skipped refuses =>
                  exact ⟨_, _, _, .refused (congrArg (rule :: ·) split)
                    (.cons evaluated skipped) refuses⟩
              | found split skipped holds =>
                  exact ⟨_, _, _, .found (congrArg (rule :: ·) split)
                    (.cons evaluated skipped) holds⟩
              | exhausted skipped =>
                  exact ⟨_, _, _, .exhausted (.cons evaluated skipped)⟩

/-- A search goes on behind a rule only when its condition does not hold. -/
theorem firstMatch_cons (reading : Reading Real Value)
    (rule : Rule Real Value Source) (rest : List (Rule Real Value Source))
    (source : Source) :
    firstMatch reading (rule :: rest) source =
      match rule.condition reading source with
      | .ok true middle => .ok (some rule) middle
      | .ok false middle => firstMatch reading rest middle
      | .error fault middle => .error fault middle := by
  rw [firstMatch, Chance.bind_apply]
  cases rule.condition reading source with
  | ok holds middle => cases holds <;> rfl
  | error fault middle => rfl

theorem Skipped.firstMatch (skipped : Skipped reading before source middle)
    (after : List (Rule Real Value Source)) :
    firstMatch reading (before ++ after) source =
      Rule.firstMatch reading after middle := by
  induction skipped with
  | nil => rfl
  | cons own _ ih =>
      rw [List.cons_append, firstMatch_cons, own]
      exact ih

section Steps

variable [Arithmetic Real Value] [RandomSource Source]

/-- What follows for a cell from the way in which a search ends. -/
def Ending.conclude (ending : Ending) (cell : Cell Value)
    (settings : RuleSettings Real) : Chance Source (Value × Bool) :=
  match ending with
  | refused fault => throw fault
  | found action => action.apply cell settings
  | exhausted => pure (cell.value, cell.state)

theorem Search.follow {count : Nat} {ending : Ending}
    (search : Search reading rules source count rest ending) :
    follow rules reading source =
      ending.conclude reading.cell reading.settings rest := by
  rw [Rule.follow, Chance.bind_apply]
  cases search with
  | refused split skipped refuses =>
      rw [split, skipped.firstMatch, firstMatch_cons, refuses]
      rfl
  | found split skipped holds =>
      rw [split, skipped.firstMatch, firstMatch_cons, holds]
      rfl
  | exhausted skipped =>
      have searched := skipped.firstMatch []
      rw [List.append_nil] at searched
      rw [searched]
      rfl

/-- A step follows the rules from what is read in its frame. -/
theorem step_eq {Other : Type} (frame : Frame Real Value Other)
    (cell : Cell Value) (neighbours : Int)
    (rules : List (Rule Real Value Source)) :
    step rules cell frame.signal frame.length frame.offset neighbours
      frame.settings.rules =
      Chance.lift (frame.reading cell neighbours) >>= follow rules := by
  rw [step, Frame.reading]
  by_cases empty : frame.length = 0
  · rw [if_pos empty, if_pos empty]
    rfl
  · rw [if_neg empty, if_neg empty]
    cases pick frame.signal ((cell.index + frame.offset).fmod frame.length) with
    | error fault => rfl
    | ok rippled => rfl

/-- A step looks at its rules in a search alone. -/
theorem step_congr {Other : Type} {frame : Frame Real Value Other}
    {cell : Cell Value} {neighbours : Int}
    {others : List (Rule Real Value Source)}
    (same : ∀ reading, frame.reading cell neighbours = .ok reading →
      firstMatch reading others = firstMatch reading rules) :
    step others cell frame.signal frame.length frame.offset neighbours
      frame.settings.rules =
      step rules cell frame.signal frame.length frame.offset neighbours
        frame.settings.rules := by
  rw [step_eq, step_eq]
  cases read : frame.reading cell neighbours with
  | error fault => rfl
  | ok reading =>
      change follow others reading = follow rules reading
      rw [follow, follow, same reading read]

theorem step_eq_follow {Other : Type} {frame : Frame Real Value Other}
    {cell : Cell Value} {neighbours : Int} {reading : Reading Real Value}
    (read : frame.reading cell neighbours = .ok reading)
    (rules : List (Rule Real Value Source)) :
    step rules cell frame.signal frame.length frame.offset neighbours
      frame.settings.rules =
      follow rules reading := by
  rw [step_eq, read]
  rfl

end Steps

/-! ## Watches -/

/--
A source with the readings at which conditions were evaluated, by the places of
their rules.
-/
structure Watched (Real Value Source : Type) where
  source : Source
  evaluated : List (Nat × Reading Real Value)

instance [RandomSource Source] : RandomSource (Watched Real Value Source) where
  fraction watched :=
    let (drawn, source) := RandomSource.fraction watched.source
    (drawn, { watched with source })
  below bound watched :=
    let (drawn, source) := RandomSource.below bound watched.source
    (drawn, { watched with source })
  below_lt bound watched positive :=
    RandomSource.below_lt bound watched.source positive

/-- A result with what was evaluated until then. -/
def withEvaluated {Result : Type}
    (evaluated : List (Nat × Reading Real Value)) :
    EStateM.Result Fault Source Result →
    EStateM.Result Fault (Watched Real Value Source) Result
  | .ok result source => .ok result ⟨source, evaluated⟩
  | .error fault source => .error fault ⟨source, evaluated⟩

/--
The rule with a watch that notes every evaluation of its condition, and with
which reading.
-/
def watch (place : Nat) (rule : Rule Real Value Source) :
    Rule Real Value (Watched Real Value Source) where
  name := rule.name
  action := rule.action
  condition reading := fun watched =>
    withEvaluated (watched.evaluated ++ [(place, reading)])
      (rule.condition reading watched.source)

/-- Rules with their watches, numbered from a place on. -/
def watchFrom (place : Nat) :
    List (Rule Real Value Source) →
      List (Rule Real Value (Watched Real Value Source))
  | [] => []
  | rule :: rest => watch place rule :: watchFrom (place + 1) rest

/-- One evaluation with the same reading for each of so many places. -/
def eachOnce (reading : Reading Real Value) (place count : Nat) :
    List (Nat × Reading Real Value) :=
  (List.range' place count).map fun place => (place, reading)

theorem eachOnce_succ (reading : Reading Real Value) (place count : Nat) :
    eachOnce reading place (count + 1) =
      (place, reading) :: eachOnce reading (place + 1) count :=
  rfl

theorem watchFrom_append (place : Nat) (before : List (Rule Real Value Source))
    (rule : Rule Real Value Source) (after : List (Rule Real Value Source)) :
    watchFrom place (before ++ rule :: after) =
      watchFrom place before ++
        watch (place + before.length) rule ::
          watchFrom (place + before.length + 1) after := by
  induction before generalizing place with
  | nil => rfl
  | cons first rest ih =>
      rw [List.cons_append, watchFrom, ih, List.length_cons, Nat.add_right_comm]
      rfl

theorem length_watchFrom (place : Nat) (rules : List (Rule Real Value Source)) :
    (watchFrom place rules).length = rules.length := by
  induction rules generalizing place with
  | nil => rfl
  | cons rule rest ih => rw [watchFrom, List.length_cons, ih, List.length_cons]

/--
What a watched condition does is what the condition does, with one more
evaluation noted.
-/
theorem condition_watch (place : Nat) (rule : Rule Real Value Source)
    (reading : Reading Real Value) (source : Source)
    (evaluated : List (Nat × Reading Real Value)) :
    (watch place rule).condition reading ⟨source, evaluated⟩ =
      withEvaluated (evaluated ++ [(place, reading)])
        (rule.condition reading source) :=
  rfl

theorem Skipped.watchFrom (skipped : Skipped reading before source middle)
    (place : Nat) (evaluated : List (Nat × Reading Real Value)) :
    Skipped reading (Rule.watchFrom place before) ⟨source, evaluated⟩
      ⟨middle, evaluated ++ eachOnce reading place before.length⟩ := by
  induction skipped generalizing place evaluated with
  | nil =>
      rw [List.length_nil, eachOnce, List.range'_zero, List.map_nil,
        List.append_nil]
      exact .nil
  | @cons rule rest source middle last own _ ih =>
      have noted := ih (place + 1) (evaluated ++ [(place, reading)])
      rw [List.append_assoc, List.singleton_append, ← eachOnce_succ] at noted
      refine .cons ?_ noted
      rw [condition_watch, own]
      rfl

/--
Watched rules are searched as they are without, and each evaluation is noted
once.
-/
theorem Search.watchFrom {count : Nat} {ending : Ending}
    (search : Search reading rules source count rest ending) (place : Nat)
    (evaluated : List (Nat × Reading Real Value)) :
    Search reading (Rule.watchFrom place rules) ⟨source, evaluated⟩ count
      ⟨rest, evaluated ++ eachOnce reading place count⟩ ending := by
  have last (length : Nat) : evaluated ++ eachOnce reading place (length + 1) =
      evaluated ++ eachOnce reading place length ++
        [(place + length, reading)] := by
    rw [eachOnce, List.range'_1_concat, List.map_append, List.append_assoc]
    rfl
  cases search with
  | @refused before after rule middle rest fault split skipped refuses =>
      subst split
      have noted : (watch (place + before.length) rule).condition reading
          ⟨middle, evaluated ++ eachOnce reading place before.length⟩ =
            .error fault ⟨rest,
              evaluated ++ eachOnce reading place (before.length + 1)⟩ := by
        rw [condition_watch, refuses, last]
        rfl
      have refused := Search.refused (watchFrom_append place before rule after)
        (skipped.watchFrom place evaluated) noted
      rwa [length_watchFrom] at refused
  | @found before after rule middle rest split skipped holds =>
      subst split
      have noted : (watch (place + before.length) rule).condition reading
          ⟨middle, evaluated ++ eachOnce reading place before.length⟩ =
            .ok true ⟨rest,
              evaluated ++ eachOnce reading place (before.length + 1)⟩ := by
        rw [condition_watch, holds, last]
        rfl
      have found := Search.found (watchFrom_append place before rule after)
        (skipped.watchFrom place evaluated) noted
      rwa [length_watchFrom] at found
  | exhausted skipped =>
      have exhausted := Search.exhausted (skipped.watchFrom place evaluated)
      rwa [length_watchFrom] at exhausted

/--
The reading in a frame is that of the signal with the own entry replaced by the
rippled one.
-/
theorem exists_reading_acting {frame : Frame Real Value Source}
    (length : frame.length = frame.signal.size)
    (nonempty : 0 < frame.signal.size) (cell : Cell Value) (neighbours : Int) :
    ∃ view rippled, frame.reading cell neighbours =
        .ok ⟨cell, .view view, neighbours, frame.settings.rules⟩ ∧
      frame.signal.toList[((cell.index + frame.offset) %
        frame.signal.size).toNat]? = some rippled ∧
      view.ActsAs (frame.signal.toList.set
        (cell.index % frame.signal.size).toNat rippled) := by
  have notEmpty : ¬ (frame.signal.size : Int) = 0 := by omega
  have remainder (index : Int) :
      index.fmod frame.signal.size = index % frame.signal.size :=
    Int.fmod_eq_emod_of_nonneg index (by omega)
  have place := fmod_isIndex cell.index nonempty
  have shifted := fmod_isIndex (cell.index + frame.offset) nonempty
  rcases pick_of_isIndex shifted with ⟨rippled, picked, -⟩
  refine ⟨⟨frame.signal, cell.index.fmod frame.signal.size, rippled⟩, rippled,
    ?_, ?_, ?_⟩
  · simp only [Frame.reading, length, if_neg notEmpty, picked]
    rfl
  · have found := (pick_eq_ok_iff.mp picked).2
    rw [if_neg (by omega), remainder] at found
    rw [Array.getElem?_toList]
    exact found
  · rw [← remainder]
    exact SignalView.actsAs_set place.1

section Steps

variable [Arithmetic Real Value] [RandomSource Source]

/-- Actions draw from a watched source as from the source itself. -/
theorem apply_watched (action : Action) (cell : Cell Value)
    (settings : RuleSettings Real) (source : Source)
    (evaluated : List (Nat × Reading Real Value)) :
    action.apply cell settings
      (⟨source, evaluated⟩ : Watched Real Value Source) =
      withEvaluated evaluated (action.apply cell settings source) := by
  cases action with
  | on | off | flip | scatter => rfl
  | decay =>
      rw [Action.apply, Action.apply]
      cases Arithmetic.mul cell.value
          (Arithmetic.setting settings.decayFactor) with
      | error fault => rfl
      | ok value =>
          change EStateM.bind (Chance.lift (Arithmetic.less value _)) _ _ =
            withEvaluated evaluated
              (EStateM.bind (Chance.lift (Arithmetic.less value _)) _ _)
          cases Arithmetic.less value
              (Arithmetic.setting settings.decayFloor) with
          | error fault => rfl
          | ok faint => rfl

theorem conclude_watched (ending : Ending) (cell : Cell Value)
    (settings : RuleSettings Real) (source : Source)
    (evaluated : List (Nat × Reading Real Value)) :
    ending.conclude cell settings
      (⟨source, evaluated⟩ : Watched Real Value Source) =
      withEvaluated evaluated (ending.conclude cell settings source) := by
  cases ending with
  | refused fault => rfl
  | found action => exact apply_watched action cell settings source evaluated
  | exhausted => rfl

theorem follow_watchFrom {count : Nat} {ending : Ending}
    (search : Search reading rules source count rest ending) :
    follow (Rule.watchFrom 0 rules) reading ⟨source, []⟩ =
      withEvaluated (eachOnce reading 0 count)
        (ending.conclude reading.cell reading.settings rest) := by
  rw [(search.watchFrom 0 []).follow, List.nil_append, conclude_watched]

/-! ## Steps -/

/--
A step of a cell in a frame: the reading at which conditions are evaluated, how
many of them are, what they leave of the source, and how their search ends.
-/
structure StepsInOrder (frame : Frame Real Value Source)
    (rules : List (Rule Real Value Source)) (cell : Cell Value)
    (neighbours : Int) (source : Source) (reading : Reading Real Value)
    (count : Nat) (rest : Source) (ending : Ending) : Prop where
  /--
  Conditions read the cell, the count, and the signal with the own entry
  replaced.
  -/
  reads : ∃ view rippled, reading =
    ⟨cell, .view view, neighbours, frame.settings.rules⟩ ∧
    frame.signal.toList[((cell.index + frame.offset) %
      frame.signal.size).toNat]? = some rippled ∧
    view.ActsAs
      (frame.signal.toList.set (cell.index % frame.signal.size).toNat rippled)
  search : Search reading rules source count rest ending
  outcome :
    step rules cell frame.signal frame.length frame.offset neighbours
      frame.settings.rules source =
      ending.conclude cell frame.settings.rules rest
  /--
  With watches the same comes out, and the first rules have been evaluated once
  each.
  -/
  evaluated :
    step (Rule.watchFrom 0 rules) cell frame.signal frame.length
        frame.offset neighbours frame.settings.rules ⟨source, []⟩ =
      withEvaluated (eachOnce reading 0 count)
        (ending.conclude cell frame.settings.rules rest)

/--
The first rule that holds decides: a step evaluates conditions in order, up to
the first one that refuses or holds, and each of them once and on one reading.
-/
theorem exists_stepsInOrder (frame : Frame Real Value Source)
    (length : frame.length = frame.signal.size)
    (nonempty : 0 < frame.signal.size) (rules : List (Rule Real Value Source))
    (cell : Cell Value) (neighbours : Int) (source : Source) :
    ∃ reading count rest ending,
      StepsInOrder frame rules cell neighbours source reading count rest
        ending := by
  rcases exists_reading_acting length nonempty cell neighbours with
    ⟨view, rippled, read, found, acts⟩
  rcases exists_search ⟨cell, .view view, neighbours, frame.settings.rules⟩
      rules source with
    ⟨count, rest, ending, search⟩
  refine ⟨_, count, rest, ending, ⟨view, rippled, rfl, found, acts⟩,
    search, ?_, ?_⟩
  · rw [step_eq_follow read]
    exact search.follow
  · rw [step_eq_follow read]
    exact follow_watchFrom search

/--
The first rule has an answer that counts as false, the second one the rippled
sample to compare, and the third one an answer that counts as true.  The last
one would refuse.
-/
theorem exists_stepsInOrder_third :
    ∃ (frame : Frame Float Sample Random.Twister)
      (rules : List (Rule Float Sample Random.Twister)) (cell : Cell Sample)
      (source : Random.Twister) (reading : Reading Float Sample) (count : Nat)
      (rest : Random.Twister) (ending : Ending),
      frame.length = frame.signal.size ∧ 0 < frame.signal.size ∧
      rules.length = 4 ∧ count = 3 ∧
        StepsInOrder frame rules cell 0 source reading count rest ending := by
  let frame : Frame Float Sample Random.Twister :=
    { signal := #[.ofDouble 0.25, .ofDouble 0.75, .ofDouble 0.5]
      length := 3
      offset := 1
      settings := .standard
      rules := [] }
  let rules : List (Rule Float Sample Random.Twister) :=
    [(Formula.constant (.list [])).toRule "" .on,
      (Formula.compare .above .own (.constant (.double 0.6))).toRule "" .off,
      (Formula.constant (.text "yes")).toRule "" .scatter,
      (Formula.refuse .division "never").toRule "" .flip]
  let cell : Cell Sample := Cell.fresh (.ofDouble 0) 1 3
  let source := Random.Twister.ofSeed 0
  have nonempty : 0 < frame.signal.size := by decide
  rcases exists_stepsInOrder frame rfl nonempty rules cell 0 source with
    ⟨reading, count, rest, ending, stepped⟩
  refine ⟨frame, rules, cell, source, reading, count, rest, ending, rfl,
    nonempty, rfl, ?_, stepped⟩
  let evaluations
      (result : EStateM.Result Fault (Watched Float Sample Random.Twister)
        (Sample × Bool)) : Nat :=
    match result with
    | .ok _ watched | .error _ watched => watched.evaluated.length
  have counted (result : EStateM.Result Fault Random.Twister (Sample × Bool)) :
      evaluations (withEvaluated (eachOnce reading 0 count) result) =
        count := by
    cases result <;> simp [evaluations, withEvaluated, eachOnce]
  have three :
      evaluations (step (Rule.watchFrom 0 rules) cell frame.signal frame.length
        frame.offset 0 frame.settings.rules ⟨source, []⟩) = 3 := by
    decide +kernel
  rw [stepped.evaluated, counted] at three
  exact three

end Steps

end SoundGrid.Rule

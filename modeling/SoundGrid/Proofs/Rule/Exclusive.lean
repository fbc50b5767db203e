import SoundGrid.Proofs.Rule.Order
import SoundGrid.Proofs.Rule.Search
import SoundGrid.Rule.Formula

/-!
# Rules that exclude each other

Where conditions answer without drawing or refusing, a search only asks which of
them hold.  If no two of them do, any two rules can be exchanged, and a search
finds the same in every order.  If two of them do, each order of the two takes
the action of its own first rule.
-/

namespace SoundGrid.Rule

variable {Real Value Source : Type} {reading : Reading Real Value}
  {rules others : List (Rule Real Value Source)}
  {first second : Rule Real Value Source}

/-- The condition holds, and nothing is drawn. -/
def Holds (reading : Reading Real Value)
    (rule : Rule Real Value Source) : Prop :=
  rule.condition reading = pure true

theorem Passes.not_holds (passes : first.Passes reading) (source : Source) :
    ¬ first.Holds reading := by
  intro holds
  have same := congrFun (passes.symm.trans holds) source
  cases same

/--
Rules that answer a reading without a draw or a refusal, and of which at most
one holds.
-/
structure Exclusive (reading : Reading Real Value)
    (rules : List (Rule Real Value Source)) : Prop where
  answers : ∀ rule ∈ rules, rule.Holds reading ∨ rule.Passes reading
  atMostOne : rules.Pairwise fun first second =>
    ¬ (first.Holds reading ∧ second.Holds reading)

theorem Exclusive.pairwise_exchangeable (exclusive : Exclusive reading rules) :
    rules.Pairwise (Exchangeable reading) := by
  refine exclusive.atMostOne.imp_of_mem
    fun {first second} firstMember secondMember apart => ?_
  rcases exclusive.answers first firstMember with firstHolds | firstPasses
  · rcases exclusive.answers second secondMember with secondHolds | secondPasses
    · exact absurd ⟨firstHolds, secondHolds⟩ apart
    · exact (exchangeable_of_passes secondPasses).symm
  · exact exchangeable_of_passes firstPasses

theorem Exclusive.firstMatch_eq (exclusive : Exclusive reading rules)
    (reordered : others.Perm rules) :
    firstMatch reading others = firstMatch reading rules :=
  (firstMatch_perm reordered.symm exclusive.pairwise_exchangeable).symm

theorem Exclusive.perm (exclusive : Exclusive reading rules)
    (reordered : others.Perm rules) : Exclusive reading others where
  answers rule member := exclusive.answers rule (reordered.mem_iff.mp member)
  atMostOne :=
    (reordered.pairwise_iff fun apart both => apart both.symm).mpr
      exclusive.atMostOne

/-- A rule that passes can be put before rules that exclude each other. -/
theorem Exclusive.cons_of_passes (exclusive : Exclusive reading rules)
    (passes : first.Passes reading) (source : Source) :
    Exclusive reading (first :: rules) where
  answers := List.forall_mem_cons.mpr ⟨Or.inr passes, exclusive.answers⟩
  atMostOne := by
    refine List.pairwise_cons.mpr ⟨fun second _ both => ?_, exclusive.atMostOne⟩
    exact passes.not_holds source both.1

/-- A formula that has an answer and its negation exclude each other. -/
theorem exclusive_not {reading : Reading Float Sample} {formula : Formula}
    {answer : Bool} (answers : formula.eval reading = .ok answer)
    (source : Source) (name otherName : String) (action other : Action) :
    Exclusive reading
      [(formula.toRule name action : Rule Float Sample Source),
        (Formula.not formula).toRule otherName other] := by
  have own : (formula.toRule name action :
      Rule Float Sample Source).condition reading = pure answer := by
    change Chance.lift (formula.eval reading) = _
    rw [answers]
    rfl
  have opposite : ((Formula.not formula).toRule otherName other :
      Rule Float Sample Source).condition reading = pure !answer := by
    change Chance.lift ((Formula.not formula).eval reading) = _
    rw [Formula.eval, answers]
    rfl
  constructor
  · simp only [List.mem_cons, List.not_mem_nil, or_false, forall_eq_or_imp,
      forall_eq]
    cases answer with
    | true => exact ⟨Or.inl own, Or.inr opposite⟩
    | false => exact ⟨Or.inr own, Or.inl opposite⟩
  · refine List.pairwise_pair.mpr fun both => ?_
    cases answer with
    | true => exact Passes.not_holds opposite source both.2
    | false => exact Passes.not_holds own source both.1

section Steps

variable [Arithmetic Real Value] [RandomSource Source]
  {frame : Frame Real Value Source} {cell : Cell Value} {neighbours : Int}

/-- A step of a cell in a frame, by given rules. -/
def stepIn (frame : Frame Real Value Source)
    (rules : List (Rule Real Value Source)) (cell : Cell Value)
    (neighbours : Int) : Chance Source (Value × Bool) :=
  step rules cell frame.signal frame.length frame.offset neighbours
    frame.settings.rules

/--
A step by rules that exclude each other where they are evaluated does not depend
on order.
-/
theorem stepIn_eq_of_exclusive (reordered : others.Perm rules)
    (exclusive : ∀ reading, frame.reading cell neighbours = .ok reading →
      Exclusive reading rules) :
      stepIn frame others cell neighbours =
        stepIn frame rules cell neighbours :=
  step_congr fun reading read =>
    (exclusive reading read).firstMatch_eq reordered

/-- Where its condition holds, the first rule decides. -/
theorem stepIn_cons_of_holds {source rest : Source}
    (read : frame.reading cell neighbours = .ok reading)
    (holds : first.condition reading source = .ok true rest)
    (others : List (Rule Real Value Source)) :
    stepIn frame (first :: others) cell neighbours source =
      first.action.apply cell frame.settings.rules rest := by
  have found :
      Search reading (first :: others) source 1 rest (.found first.action) :=
    .found (List.nil_append _).symm .nil holds
  rcases Frame.exists_view_of_reading read with ⟨-, rippled, -, own⟩
  rw [stepIn, step_eq_follow read, found.follow, own]
  rfl

end Steps

end SoundGrid.Rule

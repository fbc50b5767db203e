import SoundGrid.Proofs.Sample.Threshold
import SoundGrid.Rule.Standard

/-!
# The order of rules

A search stops at the first rule that holds, so in general the order of the
rules matters, and also how much is drawn.  It does not matter for two rules of
which one does not hold and draws nothing, nor for two that refuse in the same
way.

Of the standard rules this is so for each two of them whenever the thresholds
are nested: a sample lies in at most one of the quiet range, the flip window and
the loud range, and only the rule of its range may hold or draw.
-/

namespace SoundGrid

variable {Real Value Source : Type}

namespace Rule

variable {reading : Reading Real Value} {first second : Rule Real Value Source}

/-- Two rules whose order a search cannot tell. -/
def Exchangeable (reading : Reading Real Value)
    (first second : Rule Real Value Source) : Prop :=
  ∀ rest, firstMatch reading (first :: second :: rest) =
    firstMatch reading (second :: first :: rest)

theorem Exchangeable.symm (exchangeable : Exchangeable reading first second) :
    Exchangeable reading second first :=
  fun rest => (exchangeable rest).symm

/-- A search does not depend on the order of rules that can be exchanged. -/
theorem firstMatch_perm {rules others : List (Rule Real Value Source)}
    (reordered : rules.Perm others)
    (exchangeable : rules.Pairwise (Exchangeable reading)) :
    firstMatch reading rules = firstMatch reading others := by
  induction reordered with
  | nil => rfl
  | cons rule _ ih =>
      have rest := ih (List.pairwise_cons.mp exchangeable).2
      rw [firstMatch, firstMatch, rest]
  | swap rule other rest =>
      exact (List.pairwise_cons.mp exchangeable).1 rule
        (List.mem_cons_self ..) rest
  | trans reordered _ firstIh secondIh =>
      have middle :=
        (reordered.pairwise_iff fun swapped => swapped.symm).mp exchangeable
      exact (firstIh exchangeable).trans (secondIh middle)

/-- The condition does not hold, and nothing is drawn. -/
def Passes (reading : Reading Real Value)
    (rule : Rule Real Value Source) : Prop :=
  rule.condition reading = pure false

theorem Passes.firstMatch (passes : first.Passes reading)
    (rest : List (Rule Real Value Source)) :
    firstMatch reading (first :: rest) = firstMatch reading rest := by
  rw [Rule.firstMatch, passes, pure_bind]
  rfl

theorem exchangeable_of_passes (passes : first.Passes reading) :
    Exchangeable reading first second := by
  intro rest
  rw [passes.firstMatch, firstMatch, firstMatch, passes.firstMatch]

theorem exchangeable_of_refuses {fault : Fault}
    (firstRefuses : first.condition reading = throw fault)
    (secondRefuses : second.condition reading = throw fault) :
    Exchangeable reading first second := by
  have stops {rule : Rule Real Value Source}
      (refuses : rule.condition reading = throw fault)
      (rest : List (Rule Real Value Source)) :
      firstMatch reading (rule :: rest) = throw fault := by
    rw [firstMatch, refuses]
    rfl
  intro rest
  rw [stops firstRefuses, stops secondRefuses]

end Rule

/-- The quiet range, the flip window and the loud range do not meet. -/
structure RuleSettings.Nested [LE Real]
    (settings : RuleSettings Real) : Prop where
  quietWindow : settings.quietThreshold ≤ settings.flipMin
  windowLoud : settings.flipMax ≤ settings.loudThreshold
  quietLoud : settings.quietThreshold ≤ settings.loudThreshold

namespace Rule.Standard

open Arithmetic (IsPlaced less setting)

variable [Arithmetic Real Value] {reading : Reading Real Value} {entry : Value}

/-! ## Refusals -/

/-- The own sample is refused by every threshold, or there is none. -/
def Refused (reading : Reading Real Value) (fault : Fault) : Prop :=
  ∀ given : Real, (reading.own >>= fun entry => less entry (setting given)) =
    .error fault ∧
    (reading.own >>= fun entry => less (setting given) entry) = .error fault

theorem Refused.inWindow {fault : Fault} (refused : Refused reading fault) :
    inWindow reading = .error fault := by
  have low := (refused reading.settings.flipMin).2
  rw [Standard.inWindow]
  cases read : reading.own with
  | error cause =>
      rw [read] at low
      exact low
  | ok entry =>
      rw [read] at low
      change less _ entry = .error fault at low
      change (less _ entry >>= _) = _
      rw [low]
      rfl

theorem Refused.condition [RandomSource Source] {fault : Fault}
    (refused : Refused reading fault) {rule : Rule Real Value Source}
    (standard : rule ∈ (rules : List (Rule Real Value Source))) :
    rule.condition reading = throw fault := by
  simp only [rules, List.mem_cons, List.not_mem_nil, or_false] at standard
  rcases standard with rfl | rfl | rfl
  · change Chance.lift (reading.own >>= fun entry => less (setting _) entry) = _
    rw [(refused _).2]
    rfl
  · change Chance.lift (reading.own >>= fun entry => less entry (setting _)) = _
    rw [(refused _).1]
    rfl
  · change (Chance.lift (Standard.inWindow reading) >>= _) = _
    rw [refused.inWindow]
    rfl

theorem Refused.pairwise_exchangeable [RandomSource Source] {fault : Fault}
    (refused : Refused reading fault) :
    (rules : List (Rule Real Value Source)).Pairwise
    (Exchangeable reading) := by
  apply List.pairwise_of_forall_mem_list
  intro first firstStandard second secondStandard
  exact exchangeable_of_refuses (refused.condition firstStandard)
    (refused.condition secondStandard)

/-! ## Ranges -/

theorem passes_loud (read : reading.own = .ok entry)
    (low : less (setting reading.settings.loudThreshold) entry = .ok false) :
    Passes reading (loud : Rule Real Value Source) := by
  change Chance.lift (reading.own >>= fun entry => less (setting _) entry) = _
  rw [read]
  change Chance.lift (less (setting _) entry) = _
  rw [low]
  rfl

theorem passes_quiet (read : reading.own = .ok entry)
    (high : less entry (setting reading.settings.quietThreshold) = .ok false) :
    Passes reading (quiet : Rule Real Value Source) := by
  change Chance.lift (reading.own >>= fun entry => less entry (setting _)) = _
  rw [read]
  change Chance.lift (less entry (setting _)) = _
  rw [high]
  rfl

variable [RandomSource Source]

theorem passes_midFlip {isAbove isBelow : Bool} (read : reading.own = .ok entry)
    (above : less (setting reading.settings.flipMin) entry = .ok isAbove)
    (below : less entry (setting reading.settings.flipMax) = .ok isBelow)
    (missed : isAbove = false ∨ isBelow = false) :
    Passes reading (midFlip : Rule Real Value Source) := by
  have outside : inWindow reading = .ok false := by
    rw [inWindow, read]
    change (less (setting _) entry >>= _) = _
    rw [above]
    rcases missed with rfl | rfl
    · rfl
    · cases isAbove with
      | true => exact below
      | false => rfl
  change (Chance.lift (inWindow reading) >>= _) = _
  rw [outside]
  rfl

variable [LE Real]

/--
Of any two standard rules one is for a range in which the own sample does not
lie.
-/
theorem pairwise_exchangeable_of_between (nested : reading.settings.Nested)
    (read : reading.own = .ok entry) {isBelow isAbove : Real → Bool}
    (below : ∀ given, less entry (setting given) = .ok (isBelow given))
    (above : ∀ given, less (setting given) entry = .ok (isAbove given))
    (apart : ∀ low high, low ≤ high → isBelow low = true →
      isAbove high = false) :
    (rules : List (Rule Real Value Source)).Pairwise
      (Exchangeable reading) := by
  have loudPasses (low : isAbove reading.settings.loudThreshold = false) :
      Passes reading (loud : Rule Real Value Source) :=
    passes_loud read (by rw [above, low])
  have quietPasses (high : isBelow reading.settings.quietThreshold = false) :
      Passes reading (quiet : Rule Real Value Source) :=
    passes_quiet read (by rw [below, high])
  have loudQuiet :
      Exchangeable reading (loud : Rule Real Value Source) quiet := by
    cases high : isBelow reading.settings.quietThreshold with
    | true =>
        exact exchangeable_of_passes
          (loudPasses (apart _ _ nested.quietLoud high))
    | false => exact (exchangeable_of_passes (quietPasses high)).symm
  have loudMidFlip :
      Exchangeable reading (loud : Rule Real Value Source) midFlip := by
    cases within : isBelow reading.settings.flipMax with
    | true =>
        exact exchangeable_of_passes
          (loudPasses (apart _ _ nested.windowLoud within))
    | false =>
        exact (exchangeable_of_passes
          (passes_midFlip read (above _) (below _) (Or.inr within))).symm
  have quietMidFlip :
      Exchangeable reading (quiet : Rule Real Value Source) midFlip := by
    cases high : isBelow reading.settings.quietThreshold with
    | true =>
        have missed := apart _ _ nested.quietWindow high
        exact (exchangeable_of_passes
          (passes_midFlip read (above _) (below _) (Or.inl missed))).symm
    | false => exact exchangeable_of_passes (quietPasses high)
  simp only [rules, List.pairwise_cons, List.mem_cons, List.not_mem_nil,
    or_false, forall_eq_or_imp, forall_eq, List.Pairwise.nil, and_true]
  exact ⟨⟨loudQuiet, loudMidFlip⟩, quietMidFlip, fun _ impossible =>
    impossible.elim⟩

/-- With nested thresholds any two standard rules can be exchanged. -/
theorem pairwise_exchangeable (nested : reading.settings.Nested)
    (placed : ∀ entry : Value, IsPlaced entry) :
    (rules : List (Rule Real Value Source)).Pairwise
    (Exchangeable reading) := by
  cases read : reading.own with
  | error fault =>
      have refused : Refused reading fault := by
        intro given
        rw [read]
        exact ⟨rfl, rfl⟩
      exact refused.pairwise_exchangeable
  | ok entry =>
      cases placed entry with
      | refused fault below above =>
          have refused : Refused reading fault := by
            intro given
            rw [read]
            exact ⟨below given, above given⟩
          exact refused.pairwise_exchangeable
      | between isBelow isAbove below above apart =>
          exact pairwise_exchangeable_of_between nested read below above apart

/--
With nested thresholds a search among the standard rules does not depend on
their order.
-/
theorem firstMatch_eq (nested : reading.settings.Nested)
    (placed : ∀ entry : Value, IsPlaced entry)
    {first second : List (Rule Real Value Source)}
    (firstStandard : first.Perm rules) (secondStandard : second.Perm rules) :
    firstMatch reading first = firstMatch reading second := by
  have exchangeable : first.Pairwise (Exchangeable reading) :=
    (firstStandard.pairwise_iff fun swapped => swapped.symm).mpr
      (pairwise_exchangeable nested placed)
  exact firstMatch_perm (firstStandard.trans secondStandard.symm) exchangeable

end Rule.Standard

end SoundGrid

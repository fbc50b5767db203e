import SoundGrid.Mapping
import SoundGrid.Proofs.Chance
import SoundGrid.Proofs.Sample.Floating
import SoundGrid.Proofs.Signal.View
import SoundGrid.Rule.Standard

/-!
# Mappings that return

Every level maps every cell of a frame that has samples, as long as the
arithmetic refuses none of them.  The indices are what matters: the cell's own
index and the rippled one are brought into the signal by a remainder, and a
drawn one is below the length.  At the level of the rules this needs rules
whose conditions and actions return, and the standard ones do.
-/

namespace SoundGrid

variable {Real Value Source : Type} {sound : Value → Prop}

/-! ## Rules -/

namespace Rule

section Step

variable {rules : List (Rule Real Value Source)}

/--
A search returns when the conditions do, and what it finds is one of the rules.
-/
theorem returns_firstMatch {reading : Reading Real Value}
    (conditions : ∀ rule ∈ rules,
      Chance.Returns (rule.condition reading) fun _ => True) :
    Chance.Returns (firstMatch reading rules) fun found =>
      ∀ rule, found = some rule → rule ∈ rules := by
  induction rules with
  | nil =>
      apply Chance.returns_pure
      intro rule impossible
      cases impossible
  | cons first rest ih =>
      rw [firstMatch]
      apply (conditions first (List.mem_cons_self ..)).bind
      intro holds _
      cases holds with
      | true =>
          apply Chance.returns_pure
          rintro rule ⟨⟩
          exact List.mem_cons_self ..
      | false =>
          have later := ih fun rule listed =>
            conditions rule (List.mem_cons_of_mem _ listed)
          exact later.mono fun found listed rule equal =>
            List.mem_cons_of_mem _ (listed rule equal)

variable [Arithmetic Real Value] [RandomSource Source]

/-- A rule whose condition and action return on samples and values of a kind. -/
structure IsReliable (sound : Value → Prop)
    (rule : Rule Real Value Source) : Prop where
  condition (reading : Reading Real Value) :
    (∃ own, reading.own = .ok own ∧ sound own) →
      Chance.Returns (rule.condition reading) fun _ => True
  action (cell : Cell Value) (settings : RuleSettings Real) : sound cell.value →
    Chance.Returns (rule.action.apply cell settings :
      Chance Source (Value × Bool)) fun result =>
      sound result.1

/-- Reliable rules map every cell of a signal with samples. -/
theorem returns_step (reliable : ∀ rule ∈ rules, rule.IsReliable sound)
    {cell : Cell Value} (soundCell : sound cell.value) {signal : Array Value}
    (nonempty : 0 < signal.size) (soundSignal : ∀ sample ∈ signal, sound sample)
    (offset neighbours : Int) (settings : RuleSettings Real) :
    Chance.Returns (step rules cell signal signal.size offset neighbours
      settings) fun result =>
      sound result.1 := by
  have notEmpty : ¬ (signal.size : Int) = 0 := by omega
  rw [step, if_neg notEmpty]
  have rippled := pick_of_isIndex (fmod_isIndex (cell.index + offset) nonempty)
  apply Chance.Returns.bind (Chance.returns_lift rippled)
  intro shifted shiftedMember
  let view : SignalView Value := ⟨signal, cell.index.fmod signal.size, shifted⟩
  have own : ∃ entry,
      (⟨cell, .view view, neighbours, settings⟩ : Reading Real Value).own =
      .ok entry ∧ sound entry := by
    have inView : 0 < view.base.size := nonempty
    rcases Reading.own_of_view inView with ⟨entry, read, rfl | member⟩
    · exact ⟨_, read, soundSignal _ shiftedMember⟩
    · exact ⟨entry, read, soundSignal entry member⟩
  apply Chance.Returns.bind
    (returns_firstMatch fun rule listed =>
      (reliable rule listed).condition _ own)
  intro found listed
  cases found with
  | none => exact Chance.returns_pure soundCell
  | some rule =>
      exact (reliable rule (listed rule rfl)).action cell settings soundCell

end Step

namespace Standard

variable [Arithmetic Real Value] {reading : Reading Real Value}

theorem returns_loud (total : Arithmetic.Total sound)
    (own : ∃ entry, reading.own = .ok entry ∧ sound entry) :
    Chance.Returns ((loud : Rule Real Value Source).condition reading) fun _ =>
      True := by
  rcases own with ⟨entry, read, soundEntry⟩
  rcases total.less _ entry (total.setting reading.settings.loudThreshold)
      soundEntry with
    ⟨answer, compared⟩
  apply Chance.returns_lift_of_exists
  refine ⟨answer, ?_⟩
  rw [read]
  exact compared

theorem returns_quiet (total : Arithmetic.Total sound)
    (own : ∃ entry, reading.own = .ok entry ∧ sound entry) :
    Chance.Returns ((quiet : Rule Real Value Source).condition reading) fun _ =>
      True := by
  rcases own with ⟨entry, read, soundEntry⟩
  rcases total.less entry _ soundEntry
      (total.setting reading.settings.quietThreshold) with
    ⟨answer, compared⟩
  apply Chance.returns_lift_of_exists
  refine ⟨answer, ?_⟩
  rw [read]
  exact compared

theorem exists_inWindow (total : Arithmetic.Total sound)
    (own : ∃ entry, reading.own = .ok entry ∧ sound entry) :
    ∃ answer, inWindow reading = .ok answer := by
  rcases own with ⟨entry, read, soundEntry⟩
  rcases total.less _ entry (total.setting reading.settings.flipMin)
      soundEntry with
    ⟨above, comparedLow⟩
  rcases total.less entry _ soundEntry
      (total.setting reading.settings.flipMax) with
    ⟨below, comparedHigh⟩
  refine ⟨if above then below else false, ?_⟩
  simp only [inWindow, read, comparedLow, bind, Except.bind]
  cases above with
  | true => exact comparedHigh
  | false => rfl

variable [RandomSource Source]

theorem returns_midFlip (total : Arithmetic.Total sound)
    (own : ∃ entry, reading.own = .ok entry ∧ sound entry) :
    Chance.Returns ((midFlip : Rule Real Value Source).condition reading)
      fun _ => True := by
  rcases exists_inWindow total own with ⟨within, tested⟩
  apply Chance.Returns.bind (Chance.returns_lift_of_exists ⟨within, tested⟩)
  intro inside _
  cases inside with
  | true =>
      apply Chance.returns_fraction.bind
      intro drawn _
      exact Chance.returns_lift_of_exists
        (total.less _ _ (total.setting reading.settings.flipChance)
          (total.fraction drawn))
  | false => exact Chance.returns_pure trivial

/-- The standard rules are reliable wherever nothing is refused. -/
theorem isReliable (total : Arithmetic.Total sound)
    {rule : Rule Real Value Source}
    (standard : rule ∈ (rules : List (Rule Real Value Source))) :
    rule.IsReliable sound := by
  simp only [Standard.rules, List.mem_cons, List.not_mem_nil,
    or_false] at standard
  rcases standard with rfl | rfl | rfl
  · exact ⟨fun reading own => returns_loud total own,
      fun cell settings soundCell => Chance.returns_pure soundCell⟩
  · exact ⟨fun reading own => returns_quiet total own,
      fun cell settings soundCell => Chance.returns_pure soundCell⟩
  · exact ⟨fun reading own => returns_midFlip total own,
      fun cell settings soundCell => Chance.returns_pure soundCell⟩

end Standard

end Rule

/-! ## Levels -/

namespace Mapping

variable [Arithmetic Real Value]

theorem exists_toward (total : Arithmetic.Total sound)
    {current target part : Value} (soundCurrent : sound current)
    (soundTarget : sound target) (soundPart : sound part) :
    ∃ value, Arithmetic.toward current target part = .ok value ∧
      sound value := by
  rcases total.sub target current soundTarget soundCurrent with
    ⟨distance, subtracted, soundDistance⟩
  rcases total.mul distance part soundDistance soundPart with
    ⟨step, scaled, soundStep⟩
  rcases total.add current step soundCurrent soundStep with
    ⟨value, added, soundValue⟩
  refine ⟨value, ?_, soundValue⟩
  rw [Arithmetic.toward, subtracted]
  change (Arithmetic.mul distance part >>= fun step =>
    Arithmetic.add current step) = _
  rw [scaled]
  exact added

theorem exists_direct (total : Arithmetic.Total sound)
    (settings : DirectSettings Real) {sample : Value}
    (soundSample : sound sample) :
    ∃ result, direct settings sample = .ok result ∧ sound result.1 := by
  rcases total.less _ sample (total.setting settings.threshold) soundSample with
    ⟨answer, compared⟩
  refine ⟨(sample, answer), ?_, soundSample⟩
  rw [direct, Arithmetic.above, compared]
  rfl

theorem exists_smoothed (total : Arithmetic.Total sound)
    (settings : SmoothedSettings Real) {current sample : Value}
    (soundCurrent : sound current) (soundSample : sound sample) :
    ∃ result, smoothed settings current sample = .ok result ∧
      sound result.1 := by
  rcases exists_toward total soundCurrent soundSample
      (total.setting settings.smoothing) with
    ⟨value, moved, soundValue⟩
  rcases total.less _ value (total.setting settings.threshold) soundValue with
    ⟨answer, compared⟩
  refine ⟨(value, answer), ?_, soundValue⟩
  rw [smoothed, moved]
  change (Arithmetic.less _ value >>= fun answer => pure (value, answer)) = _
  rw [compared]
  rfl

theorem exists_neighborhood (total : Arithmetic.Total sound)
    (settings : NeighborhoodSettings Real) {sample : Value}
    (soundSample : sound sample) (state : Bool) (neighbours : Int) :
    ∃ result, neighborhood settings sample state neighbours = .ok result ∧
      sound result.1 := by
  rcases total.less _ sample (total.setting settings.activeThreshold)
      soundSample with
    ⟨active, comparedActive⟩
  rcases total.less sample _ soundSample
      (total.setting settings.inactiveThreshold) with
    ⟨inactive, comparedInactive⟩
  rcases total.countLess neighbours settings.neighbourLimit with
    ⟨few, comparedFew⟩
  rcases total.lessCount settings.neighbourLimit neighbours with
    ⟨many, comparedMany⟩
  simp only [neighborhood, Arithmetic.above, comparedActive, comparedInactive,
    comparedFew, comparedMany, bind, Except.bind, pure, Except.pure]
  cases active <;> cases few <;> cases inactive <;> exact ⟨_, rfl, soundSample⟩

variable [RandomSource Source]

theorem returns_probabilistic (total : Arithmetic.Total sound)
    (settings : ProbabilisticSettings Real) {current sample : Value}
    (soundCurrent : sound current) (soundSample : sound sample) :
    Chance.Returns (probabilistic settings current sample :
      Chance Source (Value × Bool)) fun result => sound result.1 := by
  apply Chance.returns_fraction.bind
  intro drawn _
  apply Chance.Returns.bind
    (Chance.returns_lift
      (total.mul sample _ soundSample (total.setting settings.scale)))
  intro chance soundChance
  apply Chance.Returns.bind (Chance.returns_lift_of_exists
    (total.less _ chance (total.fraction drawn) soundChance))
  intro state _
  exact Chance.returns_pure soundCurrent

theorem returns_entropy (total : Arithmetic.Total sound)
    (settings : EntropySettings Real) {frame : Frame Real Value Source}
    (length : frame.length = frame.signal.size)
    (nonempty : 0 < frame.signal.size)
    (soundSignal : ∀ sample ∈ frame.signal, sound sample) {current : Value}
    (soundCurrent : sound current) :
    Chance.Returns (entropy settings frame current) fun result =>
      sound result.1 := by
  have notEmpty : ¬ (frame.signal.size : Int) ≤ 0 := by omega
  rw [entropy, length, if_neg notEmpty, Int.toNat_natCast]
  apply (Chance.returns_below nonempty).bind
  intro chosen inside
  have isIndex :
      0 ≤ (chosen : Int) ∧ (chosen : Int) < frame.signal.size := by omega
  apply Chance.Returns.bind (Chance.returns_lift (pick_of_isIndex isIndex))
  intro sample member
  apply Chance.Returns.bind (Chance.returns_lift_of_exists
    (total.less _ sample (total.setting settings.threshold)
      (soundSignal sample member)))
  intro state _
  exact Chance.returns_pure soundCurrent

end Mapping

namespace Level

variable [Arithmetic Real Value] [RandomSource Source]

/--
A frame that every level can map: samples and rules that are never refused.
-/
structure CanMap (sound : Value → Prop)
    (frame : Frame Real Value Source) : Prop where
  length : frame.length = frame.signal.size
  nonempty : 0 < frame.signal.size
  samples : ∀ sample ∈ frame.signal, sound sample
  rules : ∀ rule ∈ frame.rules, rule.IsReliable sound

theorem CanMap.exists_sample {frame : Frame Real Value Source}
    (canMap : CanMap sound frame) (index : Int) :
    ∃ sample, frame.sample index = .ok sample ∧ sound sample := by
  have notEmpty : ¬ (frame.signal.size : Int) = 0 := by
    have := canMap.nonempty
    omega
  rcases pick_of_isIndex (fmod_isIndex index canMap.nonempty) with
    ⟨sample, picked, member⟩
  refine ⟨sample, ?_, canMap.samples sample member⟩
  rw [Frame.sample, canMap.length, if_neg notEmpty]
  exact picked

/-- Every level maps every cell with a value that is never refused. -/
theorem returns_map (total : Arithmetic.Total sound) (level : Level)
    {cell : Cell Value} (soundCell : sound cell.value)
    {frame : Frame Real Value Source} (canMap : CanMap sound frame)
    (neighbours : Int) :
    Chance.Returns (level.map cell frame neighbours) fun result =>
      sound result.1 := by
  have sampled : Chance.Returns
      (Chance.lift (frame.sample cell.index) : Chance Source Value)
      sound := Chance.returns_lift (canMap.exists_sample cell.index)
  cases level with
  | direct =>
      apply sampled.bind
      intro sample soundSample
      exact Chance.returns_lift (Mapping.exists_direct total _ soundSample)
  | opacity =>
      apply sampled.bind
      intro sample soundSample
      exact Chance.returns_pure soundSample
  | smoothed =>
      apply sampled.bind
      intro sample soundSample
      exact Chance.returns_lift
        (Mapping.exists_smoothed total _ soundCell soundSample)
  | probabilistic =>
      apply sampled.bind
      intro sample soundSample
      exact Mapping.returns_probabilistic total _ soundCell soundSample
  | entropy =>
      exact Mapping.returns_entropy total _ canMap.length canMap.nonempty
        canMap.samples soundCell
  | rules =>
      rw [map, canMap.length]
      exact Rule.returns_step canMap.rules soundCell canMap.nonempty
        canMap.samples _ _ _
  | neighborhood =>
      apply sampled.bind
      intro sample soundSample
      exact Chance.returns_lift
        (Mapping.exists_neighborhood total _ soundSample cell.state neighbours)

end Level

end SoundGrid

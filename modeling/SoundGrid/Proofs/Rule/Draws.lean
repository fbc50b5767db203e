import SoundGrid.Proofs.Rule.Search

/-!
# What rules draw

Only two things in the rules draw from the random source: a condition may, and
the action that scatters does.  Of the standard rules one condition draws a
single fraction, and it does so only when it is evaluated at a sample inside the
flip window.

The rules before it decide whether it is evaluated.  They are the loud and the
quiet one in some order, or one of them, or none; none of these draws, so the
search comes to the flip rule with the source that it started from or does not
come to it at all.
-/

namespace SoundGrid.Rule

variable {Real Value Source : Type} {reading : Reading Real Value}
  {rules before after : List (Rule Real Value Source)}
  {rule : Rule Real Value Source} {source rest : Source}

/-! ## Searches without draws -/

/-- A condition that is decided without a draw. -/
def IsPlain (reading : Reading Real Value)
    (rule : Rule Real Value Source) : Prop :=
  ∃ answer, rule.condition reading = Chance.lift answer

theorem IsPlain.source_eq (plain : rule.IsPlain reading) {holds : Bool}
    (evaluated : rule.condition reading source = .ok holds rest) :
    rest = source := by
  rcases plain with ⟨answer, decided⟩
  rw [decided] at evaluated
  exact (Chance.lift_eq_ok_iff.mp evaluated).2.symm

/-- Plain rules that are passed over leave the source alone. -/
theorem Skipped.source_eq (skipped : Skipped reading before source rest)
    (plain : ∀ rule ∈ before, rule.IsPlain reading) : rest = source := by
  induction skipped with
  | nil => rfl
  | cons own _ ih =>
      rcases List.forall_mem_cons.mp plain with ⟨ownPlain, othersPlain⟩
      rw [ih othersPlain, ownPlain.source_eq own]

/--
A search draws nothing among plain rules, or it goes on behind them as if they
were not there.
-/
theorem firstMatch_plain_append (plain : ∀ rule ∈ before, rule.IsPlain reading)
    {found : Option (Rule Real Value Source)}
    (searched : firstMatch reading (before ++ after) source = .ok found rest) :
    rest = source ∨
      Skipped reading before source source ∧
      firstMatch reading after source = .ok found rest := by
  induction before with
  | nil => exact Or.inr ⟨.nil, searched⟩
  | cons rule others ih =>
      rcases List.forall_mem_cons.mp plain with ⟨ownPlain, othersPlain⟩
      rw [List.cons_append, firstMatch_cons] at searched
      cases evaluated : rule.condition reading source with
      | error fault middle =>
          rw [evaluated] at searched
          cases searched
      | ok holds middle =>
          have kept := ownPlain.source_eq evaluated
          subst kept
          rw [evaluated] at searched
          cases holds with
          | true =>
              cases searched
              exact Or.inl rfl
          | false =>
              rcases ih othersPlain searched with none | ⟨skipped, continued⟩
              · exact Or.inl none
              · exact Or.inr ⟨.cons evaluated skipped, continued⟩

theorem source_eq_of_plain (plain : ∀ rule ∈ rules, rule.IsPlain reading)
    {found : Option (Rule Real Value Source)}
    (searched : firstMatch reading rules source = .ok found rest) :
    rest = source := by
  rw [← List.append_nil rules] at searched
  rcases firstMatch_plain_append plain searched with none | ⟨-, exhausted⟩
  · exact none
  · exact (Chance.pure_eq_ok_iff.mp exhausted).2.symm

/-- What a search finds is one of the rules. -/
theorem mem_of_firstMatch
    (searched : firstMatch reading rules source = .ok (some rule) rest) :
    rule ∈ rules := by
  induction rules generalizing source with
  | nil => cases (Chance.pure_eq_ok_iff.mp searched).1
  | cons first others ih =>
      rw [firstMatch_cons] at searched
      cases evaluated : first.condition reading source with
      | error fault middle =>
          rw [evaluated] at searched
          cases searched
      | ok holds middle =>
          rw [evaluated] at searched
          cases holds with
          | true =>
              cases searched
              exact List.mem_cons_self ..
          | false => exact List.mem_cons_of_mem _ (ih searched)

section Steps

variable [Arithmetic Real Value] [RandomSource Source] {result : Value × Bool}

open Arithmetic (mul setting) in
/-- The rules give a cell its own value, unless what they find is a decay. -/
theorem value_follow
    (returned : follow rules reading source = .ok result rest) :
    result.1 = reading.cell.value ∨
      mul reading.cell.value (setting reading.settings.decayFactor) =
        .ok result.1 ∧ ∃ count middle,
        Search reading rules source count middle (.found .decay) := by
  rcases exists_search reading rules source with ⟨count, middle, ending, search⟩
  rw [search.follow] at returned
  cases ending with
  | refused fault => cases returned
  | exhausted =>
      rw [← (Chance.pure_eq_ok_iff.mp returned).1]
      exact Or.inl rfl
  | found action =>
      cases action with
      | decay =>
          rcases Chance.bind_eq_ok_iff.mp returned with
            ⟨value, left, multiplied, afterProduct⟩
          rcases Chance.bind_eq_ok_iff.mp afterProduct with
            ⟨faint, last, -, concluded⟩
          rw [← (Chance.pure_eq_ok_iff.mp concluded).1]
          exact Or.inr ⟨(Chance.lift_eq_ok_iff.mp multiplied).1, count,
            middle, search⟩
      | on | off | flip =>
          rw [← (Chance.pure_eq_ok_iff.mp returned).1]
          exact Or.inl rfl
      | scatter =>
          rcases Chance.bind_eq_ok_iff.mp returned with
            ⟨drawn, left, -, concluded⟩
          rw [← (Chance.pure_eq_ok_iff.mp concluded).1]
          exact Or.inl rfl

end Steps

/-! ## The standard rules -/

namespace Standard

open Arithmetic (less setting)

variable [Arithmetic Real Value] [RandomSource Source]

/--
The flip rule is evaluated in a search, and the own sample lies inside its
window.
-/
structure FlipReached (reading : Reading Real Value)
    (rules : List (Rule Real Value Source)) (source : Source) : Prop where
  reached : ∃ before after middle, rules = before ++ midFlip :: after ∧
    Skipped reading before source middle
  inside : ∃ sample, reading.own = .ok sample ∧
    less (setting reading.settings.flipMin) sample = .ok true ∧
    less sample (setting reading.settings.flipMax) = .ok true

theorem inWindow_eq_true_iff :
    inWindow reading = .ok true ↔
      ∃ sample, reading.own = .ok sample ∧
        less (setting reading.settings.flipMin) sample = .ok true ∧
        less sample (setting reading.settings.flipMax) = .ok true := by
  constructor
  · intro within
    rcases bind_eq_ok_iff.mp within with ⟨sample, own, tested⟩
    rcases bind_eq_ok_iff.mp tested with ⟨isAbove, above, tested⟩
    cases isAbove with
    | true => exact ⟨sample, own, above, tested⟩
    | false => cases tested
  · rintro ⟨sample, own, above, below⟩
    rw [inWindow, own]
    change (less _ sample >>= _) = _
    rw [above]
    exact below

/--
All standard rules but the flip rule are plain, wherever it stands among them.
-/
theorem plain_of_split (reading : Reading Real Value)
    (standard : rules.Perm Standard.rules)
    (split : rules = before ++ midFlip :: after) :
    (∀ rule ∈ before, rule.IsPlain reading) ∧
      ∀ rule ∈ after, rule.IsPlain reading := by
  have others : (before ++ after).Perm [loud, quiet] := by
    have last : (Standard.rules : List (Rule Real Value Source)).Perm
        (midFlip :: [loud, quiet]) :=
      List.perm_append_singleton midFlip [loud, quiet]
    have moved :
        (midFlip :: (before ++ after)).Perm (midFlip :: [loud, quiet]) := by
      refine List.perm_middle.symm.trans ?_
      rw [← split]
      exact standard.trans last
    exact moved.cons_inv
  have plain : ∀ rule ∈ before ++ after, rule.IsPlain reading := by
    intro rule listed
    have ofTwo := others.mem_iff.mp listed
    simp only [List.mem_cons, List.not_mem_nil, or_false] at ofTwo
    rcases ofTwo with rfl | rfl
    · exact ⟨_, rfl⟩
    · exact ⟨_, rfl⟩
  exact ⟨fun rule listed => plain rule (List.mem_append_left _ listed),
    fun rule listed => plain rule (List.mem_append_right _ listed)⟩

theorem exists_split (standard : rules.Perm Standard.rules) :
    ∃ before after, rules = before ++ midFlip :: after :=
  List.append_of_mem (standard.mem_iff.mpr (by simp [Standard.rules]))

/--
Inside its window the flip rule draws a fraction, whether it holds or not.
-/
theorem source_midFlip_of_inside
    (inside : inWindow reading = .ok true) {holds : Bool}
    (evaluated : (midFlip : Rule Real Value Source).condition reading source =
      .ok holds rest) : rest = (RandomSource.fraction source).2 := by
  change (Chance.lift (inWindow reading) >>= _) source = _ at evaluated
  rw [inside] at evaluated
  rcases Chance.bind_eq_ok_iff.mp evaluated with ⟨drawn, middle, draw, compared⟩
  cases draw
  exact (Chance.lift_eq_ok_iff.mp compared).2.symm

theorem source_midFlip_of_outside
    (outside : inWindow reading ≠ .ok true) {holds : Bool}
    (evaluated : (midFlip : Rule Real Value Source).condition reading source =
      .ok holds rest) : rest = source := by
  rcases Chance.bind_eq_ok_iff.mp evaluated with
    ⟨within, middle, tested, decided⟩
  rcases Chance.lift_eq_ok_iff.mp tested with ⟨window, rfl⟩
  cases within with
  | true => exact (outside window).elim
  | false => exact (Chance.pure_eq_ok_iff.mp decided).2.symm

/-- Behind the flip rule nothing more is drawn. -/
theorem source_midFlip_cons (plain : ∀ rule ∈ after, rule.IsPlain reading)
    {found : Option (Rule Real Value Source)}
    (searched : firstMatch reading (midFlip :: after) source = .ok found rest) :
    ∃ holds, (midFlip : Rule Real Value Source).condition reading source =
      .ok holds rest := by
  rw [firstMatch_cons] at searched
  cases evaluated :
      (midFlip : Rule Real Value Source).condition reading source with
  | error fault middle =>
      rw [evaluated] at searched
      cases searched
  | ok holds middle =>
      rw [evaluated] at searched
      cases holds with
      | true =>
          cases searched
          exact ⟨true, rfl⟩
      | false =>
          rw [source_eq_of_plain plain searched]
          exact ⟨false, rfl⟩

theorem source_firstMatch_of_flipReached (standard : rules.Perm Standard.rules)
    (flip : FlipReached reading rules source)
    {found : Option (Rule Real Value Source)}
    (searched : firstMatch reading rules source = .ok found rest) :
    rest = (RandomSource.fraction source).2 := by
  rcases flip with ⟨⟨before, after, middle, split, skipped⟩, inside⟩
  rcases plain_of_split reading standard split with ⟨beforePlain, afterPlain⟩
  have start := skipped.source_eq beforePlain
  subst start
  rw [split, skipped.firstMatch] at searched
  rcases source_midFlip_cons afterPlain searched with ⟨holds, evaluated⟩
  exact source_midFlip_of_inside (inWindow_eq_true_iff.mpr inside) evaluated

theorem source_firstMatch_of_not_flipReached
    (standard : rules.Perm Standard.rules)
    (noFlip : ¬ FlipReached reading rules source)
    {found : Option (Rule Real Value Source)}
    (searched : firstMatch reading rules source = .ok found rest) :
    rest = source := by
  rcases exists_split standard with ⟨before, after, split⟩
  rcases plain_of_split reading standard split with ⟨beforePlain, afterPlain⟩
  rw [split] at searched
  rcases firstMatch_plain_append beforePlain searched with
    none | ⟨skipped, continued⟩
  · exact none
  · rcases source_midFlip_cons afterPlain continued with ⟨holds, evaluated⟩
    refine source_midFlip_of_outside (fun within => noFlip ?_) evaluated
    exact ⟨⟨before, after, source, split, skipped⟩,
      inWindow_eq_true_iff.mp within⟩

/--
No action of the standard rules draws: a step leaves what its search leaves.
-/
theorem firstMatch_of_follow {result : Value × Bool}
    (standard : rules.Perm Standard.rules)
    (returned : follow rules reading source = .ok result rest) :
    ∃ found, firstMatch reading rules source = .ok found rest := by
  rcases Chance.bind_eq_ok_iff.mp returned with
    ⟨found, middle, searched, concluded⟩
  suffices kept : rest = middle by
    rw [kept]
    exact ⟨found, searched⟩
  cases found with
  | none => exact (Chance.pure_eq_ok_iff.mp concluded).2.symm
  | some rule =>
      have listed := standard.mem_iff.mp (mem_of_firstMatch searched)
      simp only [Standard.rules, List.mem_cons, List.not_mem_nil,
        or_false] at listed
      rcases listed with rfl | rfl | rfl
      · exact (Chance.pure_eq_ok_iff.mp concluded).2.symm
      · exact (Chance.pure_eq_ok_iff.mp concluded).2.symm
      · exact (Chance.pure_eq_ok_iff.mp concluded).2.symm

end Standard

end SoundGrid.Rule

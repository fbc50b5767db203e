import SoundGrid.Rule

/-!
# Results of draws

A computation that draws either returns a result together with the source that
it leaves, or refuses.  This module says, for the ways in which such
computations are built, what they must have done when they returned a result
or refused, and when they are sure to return one.  Proofs about frames take
computations apart with these statements and never open the monad.
-/

namespace SoundGrid.Chance

variable {Source First Second : Type}

/-- A result without a draw is the result itself and leaves the source alone. -/
@[simp]
theorem pure_eq_ok_iff {given result : First} {source rest : Source} :
    (pure given : Chance Source First) source = .ok result rest ↔
      given = result ∧ source = rest := by
  change EStateM.Result.ok given source = .ok result rest ↔ _
  simp

/-- A lifted computation returns a result when the computation does. -/
@[simp]
theorem lift_eq_ok_iff {given : Except Fault First} {result : First}
    {source rest : Source} :
    lift given source = .ok result rest ↔
      given = .ok result ∧ source = rest := by
  cases given with
  | ok value =>
      simp [lift]
  | error fault =>
      constructor
      · intro returned
        cases returned
      · rintro ⟨impossible, -⟩
        cases impossible

/-- The second part of a chain goes on where the first one returned a result. -/
theorem bind_apply (first : Chance Source First)
    (second : First → Chance Source Second) (source : Source) :
    (first >>= second) source =
      match first source with
      | .ok value middle => second value middle
      | .error fault middle => .error fault middle := by
  change EStateM.bind first second source = _
  rw [EStateM.bind]
  cases first source <;> rfl

/--
A chain returns a result when its first part does and its second part after it.
-/
theorem bind_eq_ok_iff {first : Chance Source First}
    {second : First → Chance Source Second} {result : Second}
    {source rest : Source} :
    (first >>= second) source = .ok result rest ↔
      ∃ value middle, first source = .ok value middle ∧
        second value middle = .ok result rest := by
  rw [bind_apply]
  cases first source with
  | ok value middle =>
      constructor
      · intro returned
        exact ⟨value, middle, rfl, returned⟩
      · rintro ⟨value, middle, produced, returned⟩
        cases produced
        exact returned
  | error fault middle =>
      simp

/-- A lifted computation refuses when the computation does. -/
@[simp]
theorem lift_eq_error_iff {given : Except Fault First} {fault : Fault}
    {source rest : Source} :
    lift given source = .error fault rest ↔
      given = .error fault ∧ source = rest := by
  cases given with
  | ok value =>
      constructor
      · intro refused
        cases refused
      · rintro ⟨impossible, -⟩
        cases impossible
  | error cause =>
      change EStateM.Result.error cause source = .error fault rest ↔ _
      simp

/-- A chain refuses when its first part does, or its second part after it. -/
theorem bind_eq_error_iff {first : Chance Source First}
    {second : First → Chance Source Second} {fault : Fault}
    {source rest : Source} :
    (first >>= second) source = .error fault rest ↔
      first source = .error fault rest ∨
        ∃ value middle, first source = .ok value middle ∧
          second value middle = .error fault rest := by
  rw [bind_apply]
  cases first source with
  | ok value middle =>
      constructor
      · intro refused
        exact Or.inr ⟨value, middle, rfl, refused⟩
      · rintro (impossible | ⟨value, middle, produced, refused⟩)
        · cases impossible
        · cases produced
          exact refused
  | error cause middle =>
      simp

/-! ## Results from every source -/

/-- A computation returns a result with a property, whatever the source. -/
def Returns (computation : Chance Source First) (holds : First → Prop) : Prop :=
  ∀ source, ∃ result rest, computation source = .ok result rest ∧ holds result

theorem returns_pure {holds : First → Prop} {given : First}
    (held : holds given) : Returns (pure given : Chance Source First) holds :=
  fun source => ⟨given, source, rfl, held⟩

theorem returns_lift {holds : First → Prop} {given : Except Fault First}
    (returned : ∃ result, given = .ok result ∧ holds result) :
    Returns (lift given : Chance Source First) holds := by
  rcases returned with ⟨result, rfl, held⟩
  exact returns_pure held

theorem returns_lift_of_exists {given : Except Fault First}
    (returned : ∃ result, given = .ok result) :
    Returns (lift given : Chance Source First) fun _ => True := by
  rcases returned with ⟨result, given⟩
  exact returns_lift ⟨result, given, trivial⟩

theorem Returns.bind {first : Chance Source First}
    {second : First → Chance Source Second} {middle : First → Prop}
    {holds : Second → Prop} (before : Returns first middle)
    (after : ∀ value, middle value → Returns (second value) holds) :
    Returns (first >>= second) holds := by
  intro source
  rcases before source with ⟨value, left, returned, held⟩
  rcases after value held left with ⟨result, rest, continued, done⟩
  exact ⟨result, rest,
    bind_eq_ok_iff.mpr ⟨value, left, returned, continued⟩, done⟩

theorem Returns.mono {computation : Chance Source First}
    {holds weaker : First → Prop} (returns : Returns computation holds)
    (implied : ∀ result, holds result → weaker result) :
    Returns computation weaker := by
  intro source
  rcases returns source with ⟨result, rest, returned, held⟩
  exact ⟨result, rest, returned, implied result held⟩

variable [RandomSource Source]

theorem returns_fraction :
    Returns (fraction : Chance Source Fraction) fun _ => True :=
  fun _ => ⟨_, _, rfl, trivial⟩

/-- Below a positive bound an index is drawn. -/
theorem returns_below {bound : Nat} (positive : 0 < bound) :
    Returns (below bound : Chance Source Nat) fun chosen => chosen < bound :=
  fun source => ⟨_, _, rfl, RandomSource.below_lt bound source positive⟩

end SoundGrid.Chance

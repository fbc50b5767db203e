import SoundGrid.Proofs.Settings.Grammar

/-!
# A whole set checked again

A parameter gets a value alone: the value is checked, and then the flip window.
The other parameters of its set could be checked again as well, in their order
and with the new value among them.  In valid settings this makes no difference,
neither to what is accepted nor to the fault of what is refused, because a value
that was accepted once is accepted as itself.
-/

namespace SoundGrid

namespace Settings

variable {settings reached : Settings Float}

theorem windowOpen_iff :
    settings.windowOpen = true ↔
      ¬ settings.get .flipMax < settings.get .flipMin := by
  rw [windowOpen, Bool.not_eq_true', decide_eq_false_iff_not]
  exact Iff.rfl

/--
The set of a parameter written out, with what is given for that parameter.
-/
def revised (settings : Settings Float) (parameter : Parameter)
    (given : Datum) : List (Text × Datum) :=
  parameter.level.parameters.map fun other =>
    (Text.ofString other.name,
      if other = parameter then given
      else .ofNumber (other.toNumber (settings.get other)))

theorem lookup?_revised (settings : Settings Float) (parameter : Parameter)
    (given : Datum) {other : Parameter}
    (own : other ∈ parameter.level.parameters) :
    Datum.lookup? other.name (settings.revised parameter given) = some
      (if other = parameter then given
        else .ofNumber (other.toNumber (settings.get other))) := by
  have unique : ∀ level : Level, ∀ parameter ∈ level.parameters,
      ∀ other ∈ level.parameters,
      other.name = parameter.name → other = parameter := by
    intro level
    cases level <;> decide
  exact Datum.lookup?_map own (unique _ other own)

theorem fill_append (given : List (Text × Datum))
    (first second : List Parameter) (settings : Settings Float) :
    fill given (first ++ second) settings = fill given first settings >>=
      fill given second := by
  rw [fill_eq_foldlM, List.foldlM_append]
  simp only [← fill_eq_foldlM]

section Revised

variable (admitted : settings.AllAdmitted) {parameter : Parameter}
  {given : Datum} {parameters : List Parameter}

include admitted

/-- The values that a set keeps are accepted as themselves. -/
theorem fill_revised_of_notMem
    (own : ∀ other ∈ parameters, other ∈ parameter.level.parameters)
    (elsewhere : parameter ∉ parameters)
    (kept : ∀ other ∈ parameters, reached.get other = settings.get other) :
    fill (settings.revised parameter given) parameters reached =
      .ok reached := by
  induction parameters with
  | nil => rfl
  | cons other rest ih =>
      rw [List.mem_cons, not_or] at elsewhere
      rw [fill,
        lookup?_revised settings parameter given (own other List.mem_cons_self),
        if_neg (Ne.symm elsewhere.1), ← kept other List.mem_cons_self]
      have admits : other.Admits (reached.get other) :=
        kept other List.mem_cons_self ▸ admitted other
      simp only [Parameter.accept_toNumber admits, put_get]
      exact ih (fun later member =>
        own later (List.mem_cons_of_mem other member)) elsewhere.2
        (fun later member => kept later (List.mem_cons_of_mem other member))

/--
Filling in a set again changes the one parameter that something new is given
for.
-/
theorem fill_revised_of_mem (nodup : parameters.Nodup)
    (own : ∀ other ∈ parameters, other ∈ parameter.level.parameters)
    (among : parameter ∈ parameters) :
    fill (settings.revised parameter given) parameters settings =
      (parameter.accept given).map (settings.put parameter) := by
  rcases List.append_of_mem among with ⟨before, after, rfl⟩
  rw [List.nodup_append, List.nodup_cons] at nodup
  have notBefore : parameter ∉ before :=
    fun member => nodup.2.2 parameter member parameter List.mem_cons_self rfl
  have first :
      fill (settings.revised parameter given) before settings = .ok settings :=
    fill_revised_of_notMem admitted
      (fun other member => own other (List.mem_append_left _ member)) notBefore
      (fun _ _ => rfl)
  rw [fill_append, first]
  change fill (settings.revised parameter given)
    (parameter :: after) settings = _
  rw [fill, lookup?_revised settings parameter given (own parameter among),
    if_pos rfl]
  dsimp only
  cases parameter.accept given with
  | error fault => rfl
  | ok value =>
      have different {other : Parameter} (member : other ∈ after) :
          other ≠ parameter :=
        fun same => nodup.2.1.1 (same ▸ member)
      have ownAfter (other : Parameter) (member : other ∈ after) :=
        own other
          (List.mem_append_right _ (List.mem_cons_of_mem parameter member))
      exact fill_revised_of_notMem admitted ownAfter nodup.2.1.1
        (fun other member => get_put_of_ne settings value (different member))

/--
A value that is checked before the window is followed by nothing that is new.
-/
theorem fillLevel_revised_of_early
    (early : parameter ≠ .rippleSpeed ∧ parameter ≠ .decayFloor) :
    settings.fillLevel parameter.level (settings.revised parameter given) =
      settings.assign parameter given := by
  have among : parameter ∈ beforeWindow parameter.level :=
    mem_beforeWindow_iff.mpr ⟨parameter.mem_parameters, early⟩
  have notLate : parameter ∉ afterWindow parameter.level :=
    fun member => (mem_afterWindow_iff.mp member).2 early
  rw [fillLevel, fill_revised_of_mem admitted (nodup_beforeWindow _)
    (fun other member => (mem_beforeWindow_iff.mp member).1) among, assign]
  cases parameter.accept given with
  | error fault => rfl
  | ok value =>
      change ((settings.put parameter value).checkWindow >>=
        fill (settings.revised parameter given) (afterWindow parameter.level)) =
          (settings.put parameter value).checkWindow
      rw [checkWindow]
      split
      · exact fill_revised_of_notMem admitted
          (fun other member => (mem_afterWindow_iff.mp member).1) notLate
          (fun other member => get_put_of_ne settings value fun same =>
            notLate (same ▸ member))
      · rfl

/-- A value that is checked after the window is no end of it. -/
theorem fillLevel_revised_of_late (opened : settings.windowOpen = true)
    (late : ¬ (parameter ≠ .rippleSpeed ∧ parameter ≠ .decayFloor)) :
    settings.fillLevel parameter.level (settings.revised parameter given) =
      settings.assign parameter given := by
  have among : parameter ∈ afterWindow parameter.level :=
    mem_afterWindow_iff.mpr ⟨parameter.mem_parameters, late⟩
  have notEarly : parameter ∉ beforeWindow parameter.level :=
    fun member => late (mem_beforeWindow_iff.mp member).2
  rw [fillLevel, fill_revised_of_notMem admitted
    (fun other member => (mem_beforeWindow_iff.mp member).1) notEarly
      (fun _ _ => rfl)]
  change (settings.checkWindow >>=
    fill (settings.revised parameter given) (afterWindow parameter.level)) = _
  rw [checkWindow_eq_ok_iff.mpr ⟨opened, rfl⟩]
  change fill (settings.revised parameter given)
    (afterWindow parameter.level) settings = _
  rw [fill_revised_of_mem admitted (nodup_afterWindow _)
    (fun other member => (mem_afterWindow_iff.mp member).1) among, assign]
  cases parameter.accept given with
  | error fault => rfl
  | ok value =>
      have least : .flipMin ≠ parameter := fun same => late (by simp [← same])
      have greatest : .flipMax ≠ parameter := fun same =>
        late (by simp [← same])
      have stillOpen : (settings.put parameter value).windowOpen = true := by
        rw [windowOpen_iff, get_put_of_ne settings value least,
          get_put_of_ne settings value greatest]
        exact windowOpen_iff.mp opened
      exact (checkWindow_eq_ok_iff.mpr ⟨stillOpen, rfl⟩).symm

end Revised

/--
To give a parameter of valid settings a value is to check its whole set again:
what is kept passes every check and stays as it is.
-/
theorem assign_eq_fillLevel (valid : settings.Valid) (parameter : Parameter)
    (given : Datum) :
    settings.assign parameter given =
      settings.fillLevel parameter.level
        (settings.revised parameter given) := by
  by_cases early : parameter ≠ .rippleSpeed ∧ parameter ≠ .decayFloor
  · exact (fillLevel_revised_of_early valid.admitted early).symm
  · exact (fillLevel_revised_of_late valid.admitted
      (valid_iff.mp valid).2 early).symm

end Settings

end SoundGrid

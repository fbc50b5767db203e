import SoundGrid.Proofs.Settings.Assignment

/-!
# Settings changed one by one

A document of settings can also be followed entry by entry, each of which
changes one parameter and is checked on its own. Not every order will do: the
flip window may be empty in between. When it is, the end that was moved last has
to be moved first, so some order always goes through.

The entries of a document give parameters the values that they have in the end.
`Edit.Copies` says this of one attempt and `Leads` of many.  Whatever the order,
settings that are led to others can only become those.
-/

namespace SoundGrid

/-! ## Rule settings on their own -/

/-- The parameters of the rules are in the set of the rules. -/
theorem Settings.get_withRules (first second : Settings Float)
    (rules : RuleSettings Float) {parameter : Parameter}
    (own : parameter.level = .rules) :
    { first with rules := rules }.get parameter =
      { second with rules := rules }.get parameter := by
  cases parameter <;> first | rfl | cases own

/-- Rule settings that keep every promise. -/
structure RuleSettings.Valid (rules : RuleSettings Float) : Prop where
  admitted : ∀ parameter : Parameter, parameter.level = .rules →
    parameter.Admits ({ Settings.standard with rules := rules }.get parameter)
  window : rules.flipMin ≤ rules.flipMax

theorem RuleSettings.Valid.admits {settings : Settings Float}
    (valid : settings.rules.Valid) {parameter : Parameter}
    (own : parameter.level = .rules) :
    parameter.Admits (settings.get parameter) := by
  have admits := valid.admitted parameter own
  rw [Settings.get_withRules Settings.standard settings settings.rules own]
    at admits
  exact admits

theorem Settings.Valid.rules {settings : Settings Float}
    (valid : settings.Valid) : settings.rules.Valid where
  admitted parameter own := by
    rw [Settings.get_withRules Settings.standard settings settings.rules own]
    exact valid.admitted parameter
  window := valid.window

namespace Settings

variable {settings start goal reached : Settings Float}

/-! ## Attempts one after another -/

/-- Attempts one after another, up to the first that is refused. -/
def writeAll (settings : Settings Float) (edits : List Edit) :
    Except Fault (Settings Float) :=
  edits.foldlM (fun reached edit =>
    reached.write edit.key edit.name edit.given) settings

/-- An attempt to give a parameter the value that it has in other settings. -/
structure Edit.Copies (edit : Edit) (goal : Settings Float)
    (parameter : Parameter) : Prop where
  set : levelOf edit.key = .ok parameter.level
  named : parameterOf parameter.level edit.name = .ok parameter
  accepted : parameter.accept edit.given = .ok (goal.get parameter)

theorem Edit.Copies.unique {edit : Edit} {first second : Parameter}
    (copiesFirst : edit.Copies goal first)
    (copiesSecond : edit.Copies goal second) : first = second := by
  have level := copiesFirst.set
  rw [copiesSecond.set] at level
  have named := copiesFirst.named
  rw [← Except.ok.inj level, copiesSecond.named] at named
  exact (Except.ok.inj named).symm

theorem Edit.Copies.write_eq {edit : Edit} {parameter : Parameter}
    (copies : edit.Copies goal parameter) (settings : Settings Float) :
    settings.write edit.key edit.name edit.given =
      (settings.takeOver goal [parameter]).checkWindow := by
  rw [write, copies.set]
  change (parameterOf parameter.level edit.name >>= fun parameter =>
    settings.assign parameter edit.given) = _
  rw [copies.named]
  change settings.assign parameter edit.given = _
  rw [assign, copies.accepted]
  rfl

/-- Copies go through as long as the flip window is open after each of them. -/
theorem writeAll_eq_ok_iff {edits : List Edit} {parameters : List Parameter}
    (opened : start.windowOpen = true)
    (copies : List.Forall₂ (fun edit parameter => edit.Copies goal parameter)
      edits parameters) :
    start.writeAll edits = .ok reached ↔
      reached = start.takeOver goal parameters ∧
        ∀ before, before <+:
        parameters → (start.takeOver goal before).windowOpen = true := by
  induction copies generalizing start with
  | nil =>
      constructor
      · rintro ⟨⟩
        refine ⟨rfl, fun before isPrefix => ?_⟩
        rw [List.prefix_nil.mp isPrefix]
        exact opened
      · rintro ⟨rfl, -⟩
        rfl
  | @cons edit parameter edits rest copiesFirst _ ih =>
      have split : start.writeAll (edit :: edits) = .ok reached ↔
          (start.takeOver goal [parameter]).windowOpen = true ∧
            (start.takeOver goal [parameter]).writeAll edits = .ok reached := by
        rw [writeAll, List.foldlM_cons, bind_eq_ok_iff, copiesFirst.write_eq]
        simp only [checkWindow_eq_ok_iff, and_assoc, exists_and_left,
          exists_eq_left]
        exact Iff.rfl
      rw [split]
      constructor
      · rintro ⟨first, later⟩
        rcases (ih first).mp later with ⟨rfl, stays⟩
        refine ⟨rfl, fun before isPrefix => ?_⟩
        cases before with
        | nil => exact opened
        | cons other before =>
            rcases List.cons_prefix_cons.mp isPrefix with ⟨rfl, shorter⟩
            exact stays before shorter
      · rintro ⟨rfl, stays⟩
        have first :=
          stays [parameter] (List.cons_prefix_cons.mpr ⟨rfl, List.nil_prefix⟩)
        refine ⟨first, (ih first).mpr ⟨rfl, fun before isPrefix => ?_⟩⟩
        exact stays (parameter :: before)
          (List.cons_prefix_cons.mpr ⟨rfl, isPrefix⟩)

/-- Attempts that between them turn settings into others, if none is refused. -/
def Leads (start goal : Settings Float) (edits : List Edit) : Prop :=
  ∃ parameters, List.Forall₂ (fun edit parameter => edit.Copies goal parameter)
    edits parameters ∧ start.takeOver goal parameters = goal

/-- What is taken over does not depend on the order. -/
theorem takeOver_congr {first second : List Parameter}
    (same : ∀ parameter, parameter ∈ first ↔ parameter ∈ second) :
    start.takeOver goal first = start.takeOver goal second := by
  apply eq_of_get
  intro parameter
  simp only [get_takeOver, same]

theorem Leads.perm {edits order : List Edit} (leads : Leads start goal edits)
    (reordered : order.Perm edits) : Leads start goal order := by
  rcases leads with ⟨parameters, copies, arrives⟩
  rcases List.perm_comp_forall₂ reordered copies with
    ⟨others, copiesOthers, permuted⟩
  refine ⟨others, copiesOthers, ?_⟩
  rw [takeOver_congr fun _ => permuted.mem_iff]
  exact arrives

theorem Leads.unique {edits : List Edit} (leads : Leads start goal edits)
    (opened : start.windowOpen = true)
    (written : start.writeAll edits = .ok reached) : reached = goal := by
  rcases leads with ⟨parameters, copies, arrives⟩
  rw [((writeAll_eq_ok_iff opened copies).mp written).1, arrives]

/-- Each of some copies has its parameter. -/
theorem exists_parameters_of_copies {edits : List Edit}
    (copies : ∀ edit ∈ edits, ∃ parameter, edit.Copies goal parameter) :
    ∃ parameters,
      List.Forall₂ (fun edit parameter => edit.Copies goal parameter) edits
        parameters := by
  induction edits with
  | nil => exact ⟨[], List.Forall₂.nil⟩
  | cons edit rest ih =>
      rcases List.forall_mem_cons.mp copies with ⟨⟨parameter, first⟩, others⟩
      rcases ih others with ⟨parameters, rest⟩
      exact ⟨parameter :: parameters, List.Forall₂.cons first rest⟩

/--
Settings are led to others by copies that leave no parameter out that differs.
-/
theorem leads_of_copies {edits : List Edit}
    (copies : ∀ edit ∈ edits, ∃ parameter, edit.Copies goal parameter)
    (differing : ∀ parameter, start.get parameter ≠ goal.get parameter →
      ∃ edit ∈ edits, edit.Copies goal parameter) : Leads start goal edits := by
  rcases exists_parameters_of_copies copies with ⟨parameters, paired⟩
  refine ⟨parameters, paired, eq_of_get fun parameter => ?_⟩
  rw [get_takeOver]
  split
  · rfl
  · next missing =>
    by_contra different
    rcases differing parameter different with ⟨edit, member, copiesIt⟩
    rcases List.mem_iff_getElem.mp member with ⟨position, inside, rfl⟩
    have alsoInside : position < parameters.length := paired.length_eq ▸ inside
    have copiesOther := List.Forall₂.get paired inside alsoInside
    exact missing (copiesIt.unique copiesOther ▸ List.getElem_mem alsoInside)

/-! ## An order that goes through -/

theorem windowOpen_of_le
    (ordered : settings.get .flipMin ≤ settings.get .flipMax) :
    settings.windowOpen = true :=
  windowOpen_iff.mpr (Number.Double.not_lt_of_le ordered)

/-- One end of the window can wait: as long as it does, the window is open. -/
theorem exists_lastEnd (startValid : start.rules.Valid)
    (goalValid : goal.rules.Valid) :
    ∃ last : Parameter, ∀ parameters, last ∉ parameters →
      (start.takeOver goal parameters).windowOpen = true := by
  have startOrdered : start.get .flipMin ≤ start.get .flipMax :=
    startValid.window
  have goalOrdered : goal.get .flipMin ≤ goal.get .flipMax := goalValid.window
  by_cases above : start.get .flipMax < goal.get .flipMin
  · -- The new window lies above the old one, so its upper end comes first.
    refine ⟨.flipMin, fun parameters waiting => windowOpen_of_le ?_⟩
    rw [get_takeOver, get_takeOver, if_neg waiting]
    split
    · exact Number.Double.le_trans startOrdered
        (Number.Double.le_trans (Number.Double.le_of_lt above) goalOrdered)
    · exact startOrdered
  · refine ⟨.flipMax, fun parameters waiting => windowOpen_of_le ?_⟩
    have ofRules :
        Parameter.flipMin.level = .rules ∧ Parameter.flipMax.level = .rules :=
      ⟨rfl, rfl⟩
    rcases startValid.admits ofRules.2 with ⟨greatest, greatestTaken, same⟩
    rcases goalValid.admits ofRules.1 with ⟨least, leastTaken, sameLeast⟩
    change greatest = start.get .flipMax at same
    change least = goal.get .flipMin at sameLeast
    rw [← same, ← sameLeast,
      Number.Double.not_lt_iff greatestTaken.finite leastTaken.finite] at above
    rw [get_takeOver, get_takeOver, if_neg waiting]
    split
    · rw [← sameLeast, ← same]
      exact above
    · exact startOrdered

/-- Parameters can be put in an order in which the window never closes. -/
theorem exists_safe_order (startValid : start.rules.Valid)
    (goalValid : goal.rules.Valid) {parameters : List Parameter}
    (arrives : start.takeOver goal parameters = goal) :
    ∃ order : List Parameter, order.Perm parameters ∧
      ∀ before, before <+:
      order → (start.takeOver goal before).windowOpen = true := by
  rcases exists_lastEnd startValid goalValid with ⟨last, waits⟩
  let early := parameters.filter (· ≠ last)
  let late := parameters.filter (¬ · ≠ last)
  have permuted : (early ++ late).Perm parameters := by
    simpa [early, late] using List.filter_append_perm (· ≠ last) parameters
  refine ⟨early ++ late, permuted, fun before isPrefix => ?_⟩
  by_cases moved : last ∈ before
  · -- All others have been moved before, so the goal is reached.
    have complete : early <+: before := by
      rcases List.prefix_or_prefix_of_prefix isPrefix
          (List.prefix_append early late) with
        short | long
      · exact absurd (short.subset moved) (by simp [early])
      · exact long
    have all (parameter : Parameter) :
        parameter ∈ before ↔ parameter ∈ parameters := by
      refine ⟨fun member => permuted.subset (isPrefix.subset member),
        fun member => ?_⟩
      by_cases same : parameter = last
      · exact same ▸ moved
      · exact complete.subset
          (List.mem_filter.mpr ⟨member, by simpa using same⟩)
    rw [takeOver_congr all, arrives]
    exact windowOpen_of_le goalValid.window
  · exact waits before moved

/--
Whoever leads settings to others can choose an order in which nothing is
refused.
-/
theorem Leads.exists_order {edits : List Edit} (leads : Leads start goal edits)
    (startValid : start.rules.Valid) (goalValid : goal.rules.Valid) :
    ∃ order : List Edit, order.Perm edits ∧
      start.writeAll order = .ok goal := by
  rcases leads with ⟨parameters, copies, arrives⟩
  rcases exists_safe_order startValid goalValid arrives with
    ⟨others, permuted, stays⟩
  have composed :
      Relation.Comp
        (List.Forall₂ fun edit parameter => Edit.Copies edit goal parameter)
        List.Perm edits others :=
    ⟨parameters, copies, permuted.symm⟩
  rw [List.forall₂_comp_perm_eq_perm_comp_forall₂] at composed
  rcases composed with ⟨order, reordered, copiesInOrder⟩
  have opened := windowOpen_of_le startValid.window
  refine ⟨order, reordered.symm,
    (writeAll_eq_ok_iff opened copiesInOrder).mpr ⟨?_, stays⟩⟩
  rw [takeOver_congr fun _ => permuted.mem_iff, arrives]

/-! ## Rules turned into others -/

theorem levelOf_key (level : Level) :
    levelOf (.text level.key) = .ok level := by
  have known : Level.ofKey? level.key = some level := by
    cases level <;> decide
  simp only [levelOf, Text.string?_ofString, Option.bind_some, known]

theorem parameterOf_name (parameter : Parameter) :
    parameterOf parameter.level (.text parameter.name) = .ok parameter := by
  have known : parameter.level.parameter? parameter.name = some parameter := by
    cases parameter <;> decide
  simp only [parameterOf, Text.string?_ofString, Option.bind_some, known]

/-- An attempt that writes a value out is a copy of it. -/
theorem copies_toNumber {parameter : Parameter}
    (admits : parameter.Admits (goal.get parameter)) :
    Edit.Copies ⟨.text parameter.level.key, .text parameter.name,
      .ofNumber (parameter.toNumber (goal.get parameter))⟩ goal parameter where
  set := levelOf_key parameter.level
  named := parameterOf_name parameter
  accepted := Parameter.accept_toNumber admits

/--
Valid rules are turned into any others by changes of single parameters, none
refused.
-/
theorem exists_edits_of_rules {settings : Settings Float}
    {rules : RuleSettings Float} (startValid : settings.rules.Valid)
    (valid : rules.Valid) :
    ∃ edits : List Edit, (∀ edit ∈ edits, edit.key = .text Level.rules.key) ∧
      settings.writeAll edits = .ok { settings with rules := rules } := by
  let goal : Settings Float := { settings with rules := rules }
  let written (parameter : Parameter) : Edit :=
    ⟨.text parameter.level.key, .text parameter.name,
      .ofNumber (parameter.toNumber (goal.get parameter))⟩
  have goalValid : goal.rules.Valid := valid
  have copies {parameter : Parameter} (own : parameter.level = .rules) :
      (written parameter).Copies goal parameter :=
    copies_toNumber (goalValid.admits own)
  have elsewhere {parameter : Parameter} (other : parameter.level ≠ .rules) :
      goal.get parameter = settings.get parameter := by
    cases parameter <;> first | rfl | exact absurd rfl other
  have leads : Leads settings goal (Level.rules.parameters.map written) := by
    apply leads_of_copies
    · intro edit member
      rcases List.mem_map.mp member with ⟨parameter, own, rfl⟩
      exact ⟨parameter, copies (mem_parameters_iff.mp own)⟩
    · intro parameter different
      have own : parameter.level = .rules := by
        by_contra other
        exact different (elsewhere other).symm
      exact ⟨_, List.mem_map_of_mem (mem_parameters_iff.mpr own), copies own⟩
  rcases leads.exists_order startValid goalValid with ⟨order, permuted, arrives⟩
  refine ⟨order, fun edit member => ?_, arrives⟩
  rcases List.mem_map.mp (permuted.subset member) with ⟨parameter, own, rfl⟩
  change Datum.text parameter.level.key = _
  rw [mem_parameters_iff.mp own]

end Settings

/-! ## The entries of a document -/

/-- The fields of a datum, which has none if it is no record. -/
def Datum.entries : Datum → List (Text × Datum)
  | record fields => fields
  | _ => []

/-- A field is found when there is no other of its name. -/
theorem Datum.lookup?_eq_some_iff {fields : List (Text × Datum)} {name : Text}
    {value : Datum} (distinct : (fields.map Prod.fst).Nodup) :
    lookup? name fields = some value ↔ (name, value) ∈ fields := by
  induction fields with
  | nil => simp [lookup?]
  | cons field rest ih =>
      rcases field with ⟨key, own⟩
      rw [List.map_cons, List.nodup_cons] at distinct
      rw [lookup?, List.mem_cons, Prod.mk.injEq, ← ih distinct.2]
      by_cases same : key = name
      · subst same
        have absent : lookup? key rest ≠ some value := fun found =>
          distinct.1 (List.mem_map.mpr ⟨_, (ih distinct.2).mp found, rfl⟩)
        simp [absent, eq_comm]
      · simp [same, Ne.symm same]

namespace Settings

/-- The entries of a document, each as an attempt to change one parameter. -/
def entries (sets : List (Text × Datum)) : List Edit :=
  sets.flatMap fun set => set.2.entries.map fun entry =>
    ⟨.text set.1, .text entry.1, entry.2⟩

/--
No two sets of a document have the same name, nor have two values of one set.
This is so for every document that comes from a text: a field that is given
again replaces the one before it.
-/
structure HasDistinctNames (sets : List (Text × Datum)) : Prop where
  keys : (sets.map Prod.fst).Nodup
  names : ∀ set ∈ sets, (set.2.entries.map Prod.fst).Nodup

variable {sets : List (Text × Datum)}

/-- The entries of a document are what it gives for parameters. -/
theorem mem_entries_iff (distinct : HasDistinctNames sets)
    {parameter : Parameter} {value : Datum} :
    ⟨.text parameter.level.key, .text parameter.name, value⟩ ∈ entries sets ↔
      given? sets parameter = some value := by
  rw [given?, setOf]
  simp only [entries, List.mem_flatMap, List.mem_map, Edit.mk.injEq,
    Datum.text.injEq]
  constructor
  · rintro ⟨⟨_, set⟩, among, ⟨_, _⟩, own, rfl, rfl, rfl⟩
    have found := (Datum.lookup?_eq_some_iff distinct.keys).mpr among
    rw [found, Option.getD_some]
    cases set with
    | record fields =>
        exact (Datum.lookup?_eq_some_iff (distinct.names _ among)).mpr own
    | _ => cases own
  · intro given
    cases found : Datum.lookup? parameter.level.key sets with
    | none =>
        rw [found] at given
        cases given
    | some set =>
        have among := (Datum.lookup?_eq_some_iff distinct.keys).mp found
        rw [found, Option.getD_some] at given
        cases set with
        | record fields =>
            have own :=
              (Datum.lookup?_eq_some_iff (distinct.names _ among)).mp given
            exact ⟨_, among, _, own, rfl, rfl, rfl⟩
        | _ => cases given

/-- Every entry of a document of settings names a parameter. -/
theorem exists_parameter_of_entry (distinct : HasDistinctNames sets)
    (grammar : Grammar sets) {edit : Edit} (member : edit ∈ entries sets) :
    ∃ parameter : Parameter, edit.key = .text parameter.level.key ∧
      edit.name = .text parameter.name := by
  rcases List.mem_flatMap.mp member with ⟨⟨key, set⟩, among, listed⟩
  rcases List.mem_map.mp listed with ⟨entry, own, rfl⟩
  rcases grammar.keys _ among with ⟨level, rfl⟩
  have found := (Datum.lookup?_eq_some_iff distinct.keys).mpr among
  have shape := grammar.shapes level
  rw [setOf, found, Option.getD_some] at shape
  rcases shape with rfl | ⟨fields, rfl, known⟩
  · cases own
  · rcases known entry own with ⟨parameter, listed, same⟩
    refine ⟨parameter, ?_, congrArg Datum.text same⟩
    rw [mem_parameters_iff.mp listed]

/-- A document that is accepted leads from the standard settings to its own. -/
theorem leads_entries (distinct : HasDistinctNames sets)
    (accepted : ofDatum (.record sets) = .ok goal) :
    Leads standard goal (entries sets) := by
  rcases ofDatum_eq_ok_iff.mp accepted with ⟨_, ⟨⟩, grammar, states⟩
  have copies {parameter : Parameter} {value : Datum}
      (given : given? sets parameter = some value) :
      Edit.Copies ⟨.text parameter.level.key, .text parameter.name, value⟩ goal
        parameter := by
    have stated := states parameter
    rw [States, given] at stated
    exact ⟨levelOf_key _, parameterOf_name _,
      Parameter.accept_eq_ok_iff.mpr stated⟩
  apply leads_of_copies
  · rintro ⟨key, name, value⟩ member
    rcases exists_parameter_of_entry distinct grammar member with
      ⟨parameter, rfl, rfl⟩
    exact ⟨parameter, copies ((mem_entries_iff distinct).mp member)⟩
  · intro parameter different
    have stated := states parameter
    cases given : given? sets parameter with
    | none =>
        rw [States, given] at stated
        exact absurd stated.symm different
    | some value =>
        exact ⟨_, (mem_entries_iff distinct).mpr given, copies given⟩

/--
A document of settings can be followed entry by entry: from the standard
settings, some order of its entries is never refused and leads to the settings
of the document, and so does every other order that is never refused.  In
general, valid rules are turned into any other valid rules by changes of single
parameters, none of which is refused.
-/
theorem ofDatum_oneByOne :
    (∀ (sets : List (Text × Datum)) (goal : Settings Float),
      HasDistinctNames sets →
      ofDatum (.record sets) = .ok goal →
        (∃ order : List Edit, order.Perm (entries sets) ∧
          standard.writeAll order = .ok goal) ∧
          ∀ (order : List Edit) (reached : Settings Float),
            order.Perm (entries sets) →
            standard.writeAll order = .ok reached → reached = goal) ∧
      ∀ (settings : Settings Float) (rules : RuleSettings Float),
        settings.rules.Valid → rules.Valid →
          ∃ edits : List Edit,
            (∀ edit ∈ edits, edit.key = .text Level.rules.key) ∧
            settings.writeAll edits = .ok { settings with rules := rules } := by
  refine ⟨fun sets goal distinct accepted => ?_, fun _ _ =>
    exists_edits_of_rules⟩
  have leads := leads_entries distinct accepted
  refine ⟨leads.exists_order valid_standard.rules
    (valid_of_ofDatum accepted).rules, ?_⟩
  intro order reached permuted written
  exact (leads.perm permuted).unique (valid_iff.mp valid_standard).2 written

/-- A document that moves the flip window above the standard one. -/
def raisedWindow : List (Text × Datum) :=
  [("rules", .record [("flip_min", .double 0.7), ("flip_max", .text "0.9")])]

/-- Its settings. -/
def raisedWindowSettings : Settings Float :=
  { standard with
    rules := { standard.rules with flipMin := 0.7, flipMax := 0.9 } }

theorem ofDatum_raisedWindow :
    ofDatum (.record raisedWindow) = .ok raisedWindowSettings := by
  have known : ∀ set ∈ raisedWindow, ∃ level : Level,
      set.1 = Text.ofString level.key := by
    intro set member
    rw [List.mem_singleton.mp member]
    exact ⟨.rules, rfl⟩
  have rules : standard.readLevel .rules
      (.record [("flip_min", .double 0.7), ("flip_max", .text "0.9")]) =
        .ok raisedWindowSettings := by
    rw [readLevel_of_known (by decide)]
    exact eq_ok_of_toOption (by decide +kernel)
  rw [ofDatum_of_known known, readLevels_eq_foldlM]
  change (do
    let raised ← standard.readLevel .rules
      (.record [("flip_min", .double 0.7), ("flip_max", .text "0.9")])
    readOne raisedWindow raised .neighborhood >>= pure) = _
  rw [rules]
  rfl

theorem ofDatum_oneByOne_raisedWindow :
    HasDistinctNames raisedWindow ∧
      ofDatum (.record raisedWindow) = .ok raisedWindowSettings ∧
      (∃ order : List Edit, order.Perm (entries raisedWindow) ∧
        standard.writeAll order = .ok raisedWindowSettings) ∧
      (∀ (order : List Edit) (reached : Settings Float),
        order.Perm (entries raisedWindow) →
        standard.writeAll order = .ok reached →
        reached = raisedWindowSettings) ∧
      standard.rules.Valid ∧ raisedWindowSettings.rules.Valid ∧
      ∃ edits : List Edit, (∀ edit ∈ edits, edit.key = .text Level.rules.key) ∧
        standard.writeAll edits = .ok raisedWindowSettings := by
  have distinct : HasDistinctNames raisedWindow := ⟨by decide, by decide⟩
  have accepted := ofDatum_raisedWindow
  have startValid := valid_standard.rules
  have goalValid := (valid_of_ofDatum accepted).rules
  exact ⟨distinct, accepted, (ofDatum_oneByOne.1 _ _ distinct accepted).1,
    (ofDatum_oneByOne.1 _ _ distinct accepted).2, startValid, goalValid,
    ofDatum_oneByOne.2 standard _ startValid goalValid⟩

/--
In the order of this document the window would be empty after the first entry.
-/
example : (standard.writeAll (entries raisedWindow)).isOk = false := by
  decide +kernel

end Settings

end SoundGrid

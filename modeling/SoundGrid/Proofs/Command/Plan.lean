import SoundGrid.Command.Plan
import SoundGrid.Proofs.Configuration.Refusal
import SoundGrid.Proofs.Picture.Render

/-!
# Accepted requests

Which plan there is for a request: `Plan.Answers` says it field by field, and a
plan is made when it answers the request. Where there is none although the files
are there, the request is refused, unless a value was dropped, the configuration
is wrong in something else than a value, or the sound has no name after which
the output could be named.
-/

namespace SoundGrid

/-- A wish that was not dropped has a value. -/
theorem Wish.ne_dropped_iff {Value : Type} {wish : Wish Value} :
    wish ≠ .dropped ↔ ∃ value, wish = .value value := by
  cases wish with
  | value value => simp
  | dropped => simp

theorem Wish.get_eq_ok_iff {Value : Type} {wish : Wish Value} {value : Value} :
    wish.get = .ok value ↔ wish = .value value := by
  cases wish with
  | value given => simp [get]
  | dropped => simp [get]

/-- No value that playing needs was dropped. -/
structure Wishes.Complete (wishes : Wishes) : Prop where
  width : wishes.width ≠ .dropped
  height : wishes.height ≠ .dropped
  cellSize : wishes.cellSize ≠ .dropped
  rate : wishes.rate ≠ .dropped
  window : wishes.window ≠ .dropped
  maxDuration : wishes.maxDuration ≠ some .dropped
  seed : wishes.seed ≠ some .dropped

/-! ## Configuration files -/

namespace Configuration

/-- Bytes of a text that is nested too deep, or has unguarded data in it. -/
def UnguardedFile (bytes : List ℕ) : Prop :=
  ∃ text, Text.Utf8.decode bytes = .ok text ∧
    (Document.read text = .error .tooDeep ∨
      ∃ given, Document.read text = .ok given ∧ Unguarded given)

/-- Unguarded files are refused, and not for a value. -/
theorem UnguardedFile.refused {bytes : List ℕ}
    (unguarded : UnguardedFile bytes) :
    ∃ fault, ofBytes bytes = .error fault ∧ fault.category.isValue = false := by
  rcases unguarded with ⟨text, decoded, deep | ⟨given, read, unguarded⟩⟩
  · refine ⟨.misuse .deepDocument, ?_, rfl⟩
    have unread : parse text = .error (.misuse .deepDocument) := by
      rw [parse, deep]
    rw [ofBytes, decoded]
    exact bind_eq_error_iff.mpr (Or.inl unread)
  · rcases unguarded.refused with ⟨fault, refused, other⟩
    refine ⟨fault, ?_, other⟩
    rw [ofBytes, decoded]
    exact bind_eq_error_iff.mpr
      (Or.inr ⟨given, parse_eq_ok_iff.mpr read, refused⟩)

/-- A value is wrong, or the file is unguarded. -/
theorem isValue_or_unguardedFile {bytes : List ℕ} {fault : Fault}
    (refused : ofBytes bytes = .error fault) :
    fault.category.isValue = true ∨ UnguardedFile bytes := by
  rw [ofBytes] at refused
  split at refused
  · next text decoded =>
    rcases bind_eq_error_iff.mp refused with unread | ⟨given, parsed, later⟩
    · exact (isValue_or_tooDeep unread).imp_right fun deep =>
        ⟨text, decoded, Or.inl deep⟩
    · refine (isValue_or_unguarded later).imp_right fun unguarded => ?_
      exact ⟨text, decoded,
        Or.inr ⟨given, parse_eq_ok_iff.mp parsed, unguarded⟩⟩
  · cases refused
    exact Or.inl rfl

theorem valid_of_ofBytes {bytes : List ℕ} {configuration : Configuration}
    (accepted : ofBytes bytes = .ok configuration) : configuration.Valid := by
  rw [ofBytes] at accepted
  split at accepted
  · rcases bind_eq_ok_iff.mp accepted with ⟨given, -, later⟩
    exact valid_of_ofDatum later
  · cases accepted

end Configuration

/-! ## Sizes of cells -/

/--
The standard look takes every size of cells of which the gap leaves something.
-/
theorem Look.ofFields_cellSize (size : ℤ) :
    ofFields [("cell_size", .int size)] =
      if 2 < size then .ok (sized size)
      else .error (.rejected (if size ≤ 0 then .cellSize else .gap)) := by
  have filled :
      standard.putAll [("cell_size", .int size)] = .ok (sized size) := rfl
  have checked : (sized size).check =
      if (Number.int size).isAtMost (.int 0) then .error (.rejected .cellSize)
      else if !(Number.isAtMost (.int 0) (.int 2) &&
        (Number.int 2).isBelow (.int size)) then
        .error (.rejected .gap)
      else .ok () := rfl
  rw [Number.isAtMost_int, Number.isAtMost_int, Number.isBelow_int] at checked
  rw [ofFields, filled]
  change (do
    (sized size).check
    pure (sized size)) = _
  rw [checked]
  by_cases nothing : size ≤ 0
  · have hidden : ¬ 2 < size := by omega
    simp only [nothing, hidden]
    rfl
  · by_cases visible : 2 < size
    · simp only [nothing, visible]
      rfl
    · simp only [nothing, visible]
      rfl

theorem Look.ofFields_wish {wish : Wish ℤ} {look : Look} :
    ofFields [("cell_size", wish.toDatum .int)] = .ok look ↔
      ∃ size, wish = .value size ∧ 2 < size ∧ look = sized size := by
  cases wish with
  | dropped =>
      refine iff_of_false (fun impossible => nomatch impossible) ?_
      rintro ⟨size, ⟨⟩, -⟩
  | value size =>
      rw [Wish.toDatum, ofFields_cellSize]
      split
      · next visible => simp [visible, eq_comm]
      · next hidden => simp [hidden]

namespace Plan

/-! ## The parts of a plan -/

section Parts

variable {Result : Type} {refusal : Fault → Refusal}
  {given : Except Fault Result} {result : Result} {fault : Fault}

theorem orRefuse_eq_ok_iff :
    orRefuse refusal given = .ok result ↔ given = .ok result := by
  cases given with
  | ok value => simp [orRefuse]
  | error cause =>
      rw [orRefuse]
      split <;> simp

theorem orRefuse_eq_failed_iff :
    orRefuse refusal given = .error (.failed fault) ↔
      given = .error fault ∧ fault.category.isValue = false := by
  cases given with
  | ok value => simp [orRefuse]
  | error cause =>
      rw [orRefuse]
      split
      · next value =>
        refine iff_of_false (fun impossible => nomatch impossible) ?_
        rintro ⟨⟨⟩, other⟩
        rw [value] at other
        cases other
      · next other =>
        constructor
        · rintro ⟨⟩
          exact ⟨rfl, Bool.eq_false_iff.mpr other⟩
        · rintro ⟨⟨⟩, -⟩
          rfl

theorem orFail_eq_ok_iff : orFail given = .ok result ↔ given = .ok result := by
  cases given <;> simp [orFail]

end Parts

variable {surroundings : Surroundings} {request : Request} {wishes : Wishes}
  {plan : Plan} {entry : Entry}

theorem audioEntry_eq_ok_iff {place : Location} :
    audioEntry surroundings place = .ok entry ↔
      surroundings.find place = .ok (some entry) := by
  rw [audioEntry]
  cases found : surroundings.find place with
  | error fault => simp [orFail, bind, Except.bind]
  | ok stands =>
      cases stands with
      | none =>
          simp [orFail, bind, Except.bind, throw, throwThe, MonadExceptOf.throw]
      | some other => simp [orFail, bind, Except.bind, pure, Except.pure]

variable {asked : Option (Wish Location)}

/-- The locations of configurations that are asked for have files. -/
def HasFile (surroundings : Surroundings)
    (asked : Option (Wish Location)) : Prop :=
  ∀ place, asked = some (.value place) →
    ∃ bytes, surroundings.find place = .ok (some (.file bytes))

theorem hasFile_none : HasFile surroundings none :=
  fun _ impossible => nomatch impossible

/-- The files of configurations that are asked for are guarded. -/
def HasGuardedFile (surroundings : Surroundings)
    (asked : Option (Wish Location)) : Prop :=
  ∀ place bytes, asked = some (.value place) →
    surroundings.find place = .ok (some (.file bytes)) →
      ¬ Configuration.UnguardedFile (bytes.map UInt8.toNat)

theorem configurationAt_eq {place : Location} {bytes : List UInt8}
    (found : surroundings.find place = .ok (some (.file bytes))) :
    configurationAt surroundings (some (.value place)) =
      orRefuse (.badConfig place)
        (Configuration.ofBytes (bytes.map UInt8.toNat)) := by
  rw [configurationAt, found]
  rfl

theorem valid_of_configurationAt {configuration : Configuration}
    (configured : configurationAt surroundings asked = .ok configuration) :
    configuration.Valid := by
  have standardValid : Configuration.standard.Valid :=
    ⟨⟨.orthogonal, rfl⟩, Settings.valid_standard⟩
  match asked, configured with
  | none, configured =>
      cases configured
      exact standardValid
  | some .dropped, configured =>
      cases configured
      exact standardValid
  | some (.value place), configured =>
      simp only [configurationAt, bind_eq_ok_iff,
        orFail_eq_ok_iff] at configured
      rcases configured with ⟨stands, found, configured⟩
      cases stands with
      | none => cases configured
      | some entry =>
          rcases bind_eq_ok_iff.mp (orRefuse_eq_ok_iff.mp configured) with
            ⟨bytes, -, accepted⟩
          exact Configuration.valid_of_ofBytes accepted

/--
With a file that is asked for, there is a configuration or a refusal, unless it
is unguarded.
-/
theorem configurationAt_ne_failed_iff (files : HasFile surroundings asked) :
    (∀ fault, configurationAt surroundings asked ≠ .error (.failed fault)) ↔
      HasGuardedFile surroundings asked := by
  constructor
  · rintro settled place bytes rfl found unguarded
    rcases unguarded.refused with ⟨fault, refused, other⟩
    refine settled fault ?_
    rw [configurationAt_eq found]
    exact orRefuse_eq_failed_iff.mpr ⟨refused, other⟩
  · intro guarded fault failed
    match asked, failed with
    | none, failed => cases failed
    | some .dropped, failed => cases failed
    | some (.value place), failed =>
        rcases files place rfl with ⟨bytes, found⟩
        rw [configurationAt_eq found] at failed
        rcases orRefuse_eq_failed_iff.mp failed with ⟨refused, other⟩
        rcases Configuration.isValue_or_unguardedFile refused with
          value | unguarded
        · rw [value] at other
          cases other
        · exact guarded place bytes rfl found unguarded

/--
Timing is in order when rate and window are positive and the length is not below
zero.
-/
theorem checkTiming_eq_ok_iff :
    checkTiming wishes = .ok () ↔
      (∃ rate, wishes.rate = .value rate ∧ 0 < rate) ∧
        (∃ window, wishes.window = .value window ∧ 0 < window) ∧
        ∀ wish, wishes.maxDuration = some wish →
          ∃ duration, wish = .value duration ∧ ¬ duration < 0.0 := by
  simp only [checkTiming, bind_eq_ok_iff, Wish.get_eq_ok_iff, error_bind,
    throw_eq_error, ite_error_eq_ok_iff, not_le]
  constructor
  · rintro ⟨rate, isRate, fast, window, isWindow, long, later⟩
    refine ⟨⟨rate, isRate, fast⟩, ⟨window, isWindow, long⟩, ?_⟩
    intro wish isWish
    rw [isWish] at later
    simp only [bind_eq_ok_iff, Wish.get_eq_ok_iff, ite_error_eq_ok_iff] at later
    rcases later with ⟨duration, isDuration, notNegative, -⟩
    exact ⟨duration, isDuration, notNegative⟩
  · rintro ⟨⟨rate, isRate, fast⟩, ⟨window, isWindow, long⟩, lasting⟩
    refine ⟨rate, isRate, fast, window, isWindow, long, ?_⟩
    cases isWish : wishes.maxDuration with
    | none => rfl
    | some wish =>
        rcases lasting wish isWish with ⟨duration, rfl, notNegative⟩
        simp only [bind_eq_ok_iff, Wish.get_eq_ok_iff, ite_error_eq_ok_iff]
        exact ⟨duration, rfl, notNegative, rfl⟩

/-- What is wrong with the timing is a value, or it was dropped. -/
theorem isValue_of_checkTiming (complete : wishes.Complete) {fault : Fault}
    (refused : checkTiming wishes = .error fault) :
    fault.category.isValue = true := by
  rcases Wish.ne_dropped_iff.mp complete.rate with ⟨rate, isRate⟩
  rcases Wish.ne_dropped_iff.mp complete.window with ⟨window, isWindow⟩
  simp only [checkTiming, isRate, isWindow, Wish.get, bind, Except.bind,
    throw_eq_error, ite_error_eq_error_iff] at refused
  rcases refused with ⟨-, rfl⟩ | ⟨-, ⟨-, rfl⟩ | ⟨-, later⟩⟩
  · rfl
  · rfl
  · cases isWish : wishes.maxDuration with
    | none =>
        rw [isWish] at later
        cases later
    | some wish =>
        rcases Wish.ne_dropped_iff.mp fun dropped =>
          complete.maxDuration (isWish.trans
            (congrArg some dropped)) with ⟨duration, rfl⟩
        rw [isWish] at later
        simp only [ite_error_eq_error_iff] at later
        rcases later with ⟨-, rfl⟩ | ⟨-, impossible⟩
        · rfl
        · cases impossible

/--
Options are in order when the timing is, the level is one, and cells can be
seen.
-/
theorem checkOptions_eq_ok_iff {configuration : Configuration} {level : Level}
    {look : Look} :
    checkOptions wishes configuration = .ok (level, look) ↔
      checkTiming wishes = .ok () ∧ levelOf wishes configuration = .ok level ∧
        ∃ size, wishes.cellSize = .value size ∧ 2 < size ∧
          look = .sized size := by
  simp only [checkOptions, bind_eq_ok_iff, Look.ofFields_wish]
  constructor
  · rintro ⟨done, timed, level, levelled, look, sized, ⟨⟩⟩
    exact ⟨timed, levelled, sized⟩
  · rintro ⟨timed, levelled, sized⟩
    exact ⟨(), timed, level, levelled, look, sized, rfl⟩

theorem isValue_of_checkOptions (complete : wishes.Complete)
    {configuration : Configuration} {fault : Fault}
    (refused : checkOptions wishes configuration = .error fault) :
    fault.category.isValue = true := by
  rcases Wish.ne_dropped_iff.mp complete.cellSize with ⟨size, isSize⟩
  simp only [checkOptions, bind_eq_error_iff] at refused
  rcases refused with
    timing | ⟨-, -, unlevelled | ⟨level, -, unsized | ⟨look, -, impossible⟩⟩⟩
  · exact isValue_of_checkTiming complete timing
  · rw [levelOf] at unlevelled
    split at unlevelled
    · rw [Level.category_of_ofDatum unlevelled]
      rfl
    · cases unlevelled
  · rw [isSize, Wish.toDatum, Look.ofFields_cellSize] at unsized
    split at unsized
    · cases unsized
    · cases unsized
      split <;> rfl
  · cases impossible

/--
There are cells when the frame is at least as large as one cell in both
directions.
-/
theorem cellsOf_eq_ok_iff {rows columns : ℤ} :
    cellsOf wishes = .ok (rows, columns) ↔
      ∃ width height size, wishes.width = .value width ∧
        wishes.height = .value height ∧
        wishes.cellSize = .value size ∧ 0 < size ∧ rows = height / size ∧
        columns = width / size ∧ 0 < rows ∧ 0 < columns := by
  simp only [cellsOf, bind_eq_ok_iff, orFail_eq_ok_iff, Wish.get_eq_ok_iff,
    viewportCells, throw_eq_error, error_bind, ite_error_eq_ok_iff,
    not_le, not_or]
  constructor
  · rintro ⟨-, ⟨width, isWidth, height, isHeight, size, isSize, positive, ⟨⟩⟩,
      ⟨rowsSome, columnsSome⟩, ⟨⟩⟩
    exact ⟨width, height, size, isWidth, isHeight, isSize, positive, by omega,
      by omega, by omega, by omega⟩
  · rintro ⟨width, height, size, isWidth, isHeight, isSize, positive, rfl, rfl,
      rowsSome, columnsSome⟩
    refine ⟨_, ⟨width, isWidth, height, isHeight, size, isSize, positive, rfl⟩,
      ⟨?_, ?_⟩, ?_⟩
    · omega
    · omega
    · rw [max_eq_right rowsSome.le, max_eq_right columnsSome.le]
      rfl

/--
With all values there is a number of cells, if it is not too small, or a
refusal.
-/
theorem cellsOf_ne_failed (complete : wishes.Complete) {size : ℤ}
    (isSize : wishes.cellSize = .value size) (positive : 0 < size)
    (fault : Fault) : cellsOf wishes ≠ .error (.failed fault) := by
  rcases Wish.ne_dropped_iff.mp complete.width with ⟨width, isWidth⟩
  rcases Wish.ne_dropped_iff.mp complete.height with ⟨height, isHeight⟩
  have counted : viewportCells width height size =
      .ok (max 0 (height / size), max 0 (width / size)) :=
    if_neg (not_le.mpr positive)
  simp only [cellsOf, isWidth, isHeight, isSize, Wish.get, bind, Except.bind,
    counted, orFail, throw_eq_error]
  split
  · exact fun impossible => nomatch impossible
  · exact fun impossible => nomatch impossible

/-! ## Whole plans -/

/--
A plan that is what a request asks for, with what stands at the location of the
sound.
-/
structure Answers (surroundings : Surroundings) (request : Request)
    (plan : Plan) (entry : Entry) : Prop where
  found : surroundings.find request.audio = .ok (some entry)
  audio : plan.audio = request.audio
  output : outputOf request = .ok plan.output
  configured :
    configurationAt surroundings request.wishes.config = .ok plan.configuration
  levelled : levelOf request.wishes plan.configuration = .ok plan.level
  sized : ∃ width height size, request.wishes.width = .value width ∧
    request.wishes.height = .value height ∧
    request.wishes.cellSize = .value size ∧ 2 < size ∧
    plan.look = .sized size ∧ plan.rows = height / size ∧
    plan.columns = width / size
  rows : 0 < plan.rows
  columns : 0 < plan.columns
  seed : plan.seed = request.wishes.seed.getD (.value surroundings.entropy)
  shuffleRules : plan.shuffleRules = request.wishes.shuffleRules
  rate : request.wishes.rate = .value plan.rate ∧ 0 < plan.rate
  window : request.wishes.window = .value plan.window ∧ 0 < plan.window
  maxDuration : request.wishes.maxDuration = plan.maxDuration.map .value ∧
    ∀ duration, plan.maxDuration = some duration → ¬ duration < 0.0
  verbose : plan.verbose = request.wishes.verbose

theorem mapM_get_eq_ok_iff {wish : Option (Wish Float)} {given : Option Float} :
    wish.mapM Wish.get = .ok given ↔ wish = given.map .value := by
  cases wish with
  | none =>
      cases given <;> simp [pure, Except.pure]
  | some wish =>
      cases wish <;> cases given <;> simp [Wish.get]

/-- The plans that are made are those that answer their requests. -/
theorem make_eq_ok_iff :
    make surroundings request = .ok (plan, entry) ↔
      Answers surroundings request plan entry := by
  simp only [make, bind_eq_ok_iff, audioEntry_eq_ok_iff, orRefuse_eq_ok_iff,
    orFail_eq_ok_iff, Wish.get_eq_ok_iff, mapM_get_eq_ok_iff]
  constructor
  · rintro ⟨entry, found, configuration, configured, ⟨level, look⟩, options,
      ⟨rows, columns⟩, celled, output, isOutput, rate, isRate, window, isWindow,
      duration, isDuration, ⟨⟩⟩
    rcases checkOptions_eq_ok_iff.mp options with
      ⟨timed, levelled, size, isSize, visible, isLook⟩
    rcases checkTiming_eq_ok_iff.mp timed with
      ⟨⟨_, sameRate, fast⟩, ⟨_, sameWindow, long⟩, lasting⟩
    rcases cellsOf_eq_ok_iff.mp celled with
      ⟨width, height, _, isWidth, isHeight, sameSize, -, isRows, isColumns,
        someRows, someColumns⟩
    rw [isRate] at sameRate
    rw [isWindow] at sameWindow
    rw [isSize] at sameSize
    cases sameRate
    cases sameWindow
    cases sameSize
    refine ⟨found, rfl, isOutput, configured, levelled,
      ⟨width, height, size, isWidth, isHeight, isSize, visible, isLook, isRows,
        isColumns⟩, someRows, someColumns, rfl, rfl, ⟨isRate, fast⟩,
      ⟨isWindow, long⟩, ⟨isDuration, ?_⟩, rfl⟩
    rintro given ⟨⟩
    rcases lasting (.value given) isDuration with ⟨_, ⟨⟩, notNegative⟩
    exact notNegative
  · intro answers
    rcases plan with ⟨audio, output, level, configuration, look, rows, columns,
      seed, shuffleRules, rate, window, maxDuration, verbose⟩
    rcases answers with
      ⟨found, ⟨⟩, isOutput, configured, levelled,
        ⟨width, height, size, isWidth, isHeight, isSize, visible, ⟨⟩, ⟨⟩, ⟨⟩⟩,
        someRows, someColumns, ⟨⟩, ⟨⟩, ⟨isRate, fast⟩, ⟨isWindow, long⟩,
        ⟨isDuration, notNegative⟩, ⟨⟩⟩
    have timed : checkTiming request.wishes = .ok () := by
      refine checkTiming_eq_ok_iff.mpr
        ⟨⟨rate, isRate, fast⟩, ⟨window, isWindow, long⟩, ?_⟩
      intro wish isWish
      rw [isDuration] at isWish
      rcases Option.map_eq_some_iff.mp isWish with ⟨duration, rfl, rfl⟩
      exact ⟨duration, rfl, notNegative duration rfl⟩
    have celled := cellsOf_eq_ok_iff.mpr
      ⟨width, height, size, isWidth, isHeight, isSize, by omega,
        rfl, rfl, someRows, someColumns⟩
    exact ⟨entry, found, configuration, configured, (level, _),
      checkOptions_eq_ok_iff.mpr ⟨timed, levelled, size, isSize, visible, rfl⟩,
      _, celled, output, isOutput, rate, isRate, window, isWindow, maxDuration,
      isDuration, rfl⟩

/-- What a plan was made of was not dropped, apart from the seed. -/
theorem Answers.complete (answers : Answers surroundings request plan entry)
    (seeded : plan.seed ≠ .dropped) : request.wishes.Complete := by
  rcases answers.sized with ⟨width, height, size, isWidth, isHeight, isSize, -⟩
  constructor
  · exact Wish.ne_dropped_iff.mpr ⟨width, isWidth⟩
  · exact Wish.ne_dropped_iff.mpr ⟨height, isHeight⟩
  · exact Wish.ne_dropped_iff.mpr ⟨size, isSize⟩
  · exact Wish.ne_dropped_iff.mpr ⟨plan.rate, answers.rate.1⟩
  · exact Wish.ne_dropped_iff.mpr ⟨plan.window, answers.window.1⟩
  · intro dropped
    have kept := answers.maxDuration.1
    rw [dropped] at kept
    rcases Option.map_eq_some_iff.mp kept.symm with ⟨duration, -, ⟨⟩⟩
  · intro dropped
    rw [answers.seed, dropped] at seeded
    exact seeded rfl

/-- Without an output that was asked for, it was named after the sound. -/
theorem Answers.exists_name (answers : Answers surroundings request plan entry)
    (unasked : request.wishes.output = none) :
    ∃ name, request.audio.name? = some name := by
  have named := answers.output
  rw [outputOf, unasked] at named
  cases own : request.audio.name? with
  | none =>
      rw [own] at named
      cases named
  | some name => exact ⟨name, rfl⟩

/--
There is no plan for a request because something about it is not acceptable.
-/
def IsRefused (surroundings : Surroundings) (request : Request) : Prop :=
  ∃ refusal, make surroundings request = .error (.refused refusal)

/--
Where the sound and the configuration are there, and nothing is dropped, a
request has a plan or is refused, unless the configuration is unguarded or there
is no name for the output.
-/
theorem make_ne_failed
    (found : surroundings.find request.audio = .ok (some entry))
    (files : HasFile surroundings request.wishes.config)
    (guarded : HasGuardedFile surroundings request.wishes.config)
    (complete : request.wishes.Complete)
    (named : request.wishes.output = none →
      ∃ name, request.audio.name? = some name)
    (fault : Fault) :
    make surroundings request ≠ .error (.failed fault) := by
  rcases Wish.ne_dropped_iff.mp complete.rate with ⟨rate, isRate⟩
  rcases Wish.ne_dropped_iff.mp complete.window with ⟨window, isWindow⟩
  have output : ∃ output, outputOf request = .ok output := by
    rw [outputOf]
    cases asked : request.wishes.output with
    | some place => exact ⟨place, rfl⟩
    | none =>
        rcases named asked with ⟨name, isName⟩
        rw [isName]
        exact ⟨_, rfl⟩
  have duration :
      ∃ given, request.wishes.maxDuration.mapM Wish.get = .ok given := by
    cases asked : request.wishes.maxDuration with
    | none => exact ⟨none, rfl⟩
    | some wish =>
        have kept : wish ≠ .dropped := fun dropped =>
          complete.maxDuration (asked.trans (congrArg some dropped))
        rcases Wish.ne_dropped_iff.mp kept with ⟨given, rfl⟩
        exact ⟨some given, rfl⟩
  rcases output with ⟨output, isOutput⟩
  rcases duration with ⟨duration, isDuration⟩
  have audio : audioEntry surroundings request.audio = .ok entry :=
    audioEntry_eq_ok_iff.mpr found
  intro failed
  simp only [make, bind_eq_error_iff] at failed
  rcases failed with
    missing | ⟨same, -,
      unconfigured | ⟨configuration, -,
        refused | ⟨⟨level, look⟩, options, uncelled | ⟨cells, -, later⟩⟩⟩⟩
  · rw [audio] at missing
    cases missing
  · exact (configurationAt_ne_failed_iff files).mpr guarded fault unconfigured
  · rcases orRefuse_eq_failed_iff.mp refused with ⟨refused, other⟩
    rw [isValue_of_checkOptions complete refused] at other
    cases other
  · rcases checkOptions_eq_ok_iff.mp (orRefuse_eq_ok_iff.mp options) with
      ⟨-, -, size, isSize, visible, -⟩
    exact cellsOf_ne_failed complete isSize (by omega) fault uncelled
  · rw [isOutput, isRate, isWindow, isDuration] at later
    simp [orFail, Wish.get, pure, Except.pure] at later

end Plan

end SoundGrid

import SoundGrid.Proofs.Command.Session

/-!
# Sessions from the beginning

A session begins when its plan has a seed and its frames can be counted, and
then it makes them. Otherwise it fails when the sound is loaded already.
-/

namespace SoundGrid

namespace Plan

variable {surroundings : Surroundings} {request : Request} {plan : Plan}
  {recording : Recording} {entry : Entry}

/-! ## Numbers of frames -/

/--
The number of frames of a plan: those of the recording, or those in the greatest
length.
-/
def frameTotal (plan : Plan) (recording : Recording) : Except Fault Int := do
  let count ← recording.frameCount (.int plan.rate)
  match plan.maxDuration with
  | none => pure count
  | some duration => do
      let frames ← Number.mul (.double duration) (.int plan.rate)
      let limit ← frames.whole
      pure (min count limit)

theorem frameTotal_eq_ok_iff {total : ℤ} :
    plan.frameTotal recording = .ok total ↔
      ∃ count limit, recording.frameCount (.int plan.rate) = .ok count ∧
        plan.frameLimit = .ok limit ∧
        (limit.map (min count)).getD count = total := by
  rw [frameTotal, frameLimit, bind_eq_ok_iff]
  cases plan.maxDuration with
  | none => simp [pure, Except.pure]
  | some duration =>
      simp only [bind_eq_ok_iff, map_eq_ok_iff]
      constructor
      · rintro ⟨count, counted, frames, multiplied, limit, isLimit, ⟨⟩⟩
        exact ⟨count, some limit, counted,
          ⟨frames, multiplied, limit, isLimit, rfl⟩, rfl⟩
      · rintro ⟨count, _, counted,
          ⟨frames, multiplied, limit, isLimit, rfl⟩, rfl⟩
        exact ⟨count, counted, frames, multiplied, limit, isLimit, rfl⟩

/--
The rate has a nearest double, and neither the frames of the recording nor those
in the greatest length, if there is one, are too many.
-/
def IsCounted (plan : Plan) (recording : Recording) : Prop :=
  ∃ duration rate, recording.duration = .ok duration ∧
    Number.Double.ofInt? plan.rate = some rate ∧
    (duration * rate).isFinite = true ∧
      ∀ limit, plan.maxDuration = some limit → (limit * rate).isFinite = true

theorem exists_whole_iff {value : Float} :
    (∃ limit, Number.whole (.double value) = .ok limit) ↔
      value.isFinite = true := by
  rw [Number.whole, Number.Double.truncate?, Number.Double.isFinite_iff_scaled?]
  cases Number.Double.scaled? value <;> simp

theorem exists_frameTotal_iff :
    (∃ total, plan.frameTotal recording = .ok total) ↔
      plan.IsCounted recording := by
  have multiplied {rate : Float}
      (found : Number.Double.ofInt? plan.rate = some rate) (duration : Float) :
      Number.mul (.double duration) (.int plan.rate) =
        .ok (.double (duration * rate)) := by
    simp only [Number.mul, Number.apply, Number.align, Number.toDouble,
      Number.doubleOfInt, found]
    rfl
  constructor
  · rintro ⟨total, counted⟩
    rcases bind_eq_ok_iff.mp counted with ⟨count, own, later⟩
    rcases Recording.exists_frameCount_iff.mp ⟨count, own⟩ with
      ⟨duration, rate, lasting, found, finite⟩
    refine ⟨duration, rate, lasting, found, finite, ?_⟩
    intro limit asked
    rw [asked] at later
    simp only [multiplied found, bind_eq_ok_iff, Except.ok.injEq,
      exists_eq_left'] at later
    rcases later with ⟨whole, isWhole, -⟩
    exact exists_whole_iff.mp ⟨whole, isWhole⟩
  · rintro ⟨duration, rate, lasting, found, finite, limited⟩
    rcases Recording.exists_frameCount_iff.mpr
        ⟨duration, rate, lasting, found, finite⟩ with
      ⟨count, counted⟩
    cases asked : plan.maxDuration with
    | none => exact ⟨count, by rw [frameTotal, counted, asked]; rfl⟩
    | some limit =>
        rcases exists_whole_iff.mpr (limited limit asked) with ⟨whole, isWhole⟩
        refine ⟨min count whole, ?_⟩
        rw [frameTotal, asked]
        refine bind_eq_ok_iff.mpr ⟨count, counted, ?_⟩
        exact bind_eq_ok_iff.mpr ⟨_, multiplied found limit,
          bind_eq_ok_iff.mpr ⟨whole, isWhole, rfl⟩⟩

/--
Nothing keeps the frames of a plan from being made: they can be counted, and
each of them fits.
-/
structure Playable (surroundings : Surroundings) (plan : Plan)
    (recording : Recording) : Prop where
  counted : plan.IsCounted recording
  fits : ∀ total, plan.frameTotal recording = .ok total →
    ∀ index : ℕ, (index : ℤ) < total → plan.Fits surroundings index

/-! ## Beginnings -/

theorem Answers.isSound
    (answers : Answers surroundings request plan entry) : plan.IsSound := by
  rcases answers.sized with ⟨-, -, size, -, -, -, visible, isLook, -, -⟩
  exact ⟨answers.rate.2, answers.window.2, answers.rows, answers.columns, size,
    by omega, isLook⟩

/-- A seed is enough for a new grid, which can be played. -/
theorem exists_newGrid (sound : plan.IsSound) (valid : plan.configuration.Valid)
    {seed : ℤ} (seeded : plan.seed = .value seed) :
    ∃ grid, plan.newGrid = .ok grid ∧ (plan.firstGrid grid).IsPlayed ∧
      (plan.firstGrid grid).rows = plan.rows ∧
      (plan.firstGrid grid).columns = plan.columns := by
  rcases valid.connected with ⟨neighbourhood, asked⟩
  obtain ⟨rows, isRows⟩ : ∃ rows : ℕ, plan.rows = rows :=
    ⟨plan.rows.toNat, by have := sound.rows; omega⟩
  obtain ⟨columns, isColumns⟩ : ∃ columns : ℕ, plan.columns = columns :=
    ⟨plan.columns.toNat, by have := sound.columns; omega⟩
  have played := Grid.isPlayed_layOut rows columns plan.level asked
    plan.configuration.settings (Random.Twister.ofSeed seed)
  have made :
      plan.newGrid = .ok ((Grid.empty plan.level plan.configuration.settings
        Rule.Standard.rules neighbourhood (Random.Twister.ofSeed seed)).layOut
      rows columns) := by
    rw [newGrid, seeded, isRows, isColumns]
    exact Grid.make_eq_layOut rows columns plan.level asked _ _ _
  refine ⟨_, made, ?_⟩
  rw [firstGrid, isRows, isColumns]
  split
  · exact ⟨played.shuffleRules, rfl, rfl⟩
  · exact ⟨played, rfl, rfl⟩

/-- The session of a plan when no frame is made yet. -/
def session (surroundings : Surroundings) (plan : Plan) (recording : Recording)
    (grid : Grid Float Sample Random.Twister) (total : ℤ) : Session :=
  ⟨surroundings, plan, recording, plan.playback, ⟨grid, 0, total, []⟩⟩

theorem isPlaying_session (sound : plan.IsSound) (loaded : recording.IsLoaded)
    {grid : Grid Float Sample Random.Twister} (played : grid.IsPlayed)
    (rows : grid.rows = plan.rows) (columns : grid.columns = plan.columns)
    {total : ℤ} (counted : plan.frameTotal recording = .ok total) :
    (plan.session surroundings recording grid total).IsPlaying := by
  refine ⟨sound, rfl, loaded, played, rows, columns, ?_⟩
  rcases frameTotal_eq_ok_iff.mp counted with ⟨count, limit, own, -, rfl⟩
  refine ⟨count, own, ?_⟩
  cases limit with
  | none => exact le_refl count
  | some limit => exact min_le_left count limit

end Plan

namespace Session

variable {surroundings : Surroundings} {request : Request} {plan : Plan}
  {recording : Recording}

theorem filterMap_saved?_details (plan : Plan)
    (grid : Grid Float Sample Random.Twister) :
    (details plan grid).filterMap Event.saved? = [] := by
  rw [details]
  split
  · split <;> rfl
  · rfl

/-- Playing begins when the frames of the recording can be counted. -/
theorem begin_eq_ok_iff (sound : plan.IsSound)
    {grid : Grid Float Sample Random.Twister} {limit : Option ℤ}
    {session : Session} :
    begin surroundings plan recording grid limit = .ok session ↔
      ∃ count, recording.frameCount (.int plan.rate) = .ok count ∧
        session = plan.session surroundings recording (plan.firstGrid grid)
          ((limit.map (min count)).getD count) := by
  have made : Playback.make .standard (.int plan.rate) plan.window =
      .ok plan.playback := by
    have fast := sound.rate
    have long := sound.window
    rw [Playback.make, Number.isAtMost_int, decide_eq_false (by omega),
      if_neg Bool.false_ne_true, if_neg (by omega)]
    rfl
  simp only [begin, made, bind_eq_ok_iff, Except.ok.injEq, exists_eq_left',
    Run.start]
  constructor
  · rintro ⟨_, ⟨count, counted, ⟨⟩⟩, ⟨⟩⟩
    exact ⟨count, counted, rfl⟩
  · rintro ⟨count, counted, rfl⟩
    exact ⟨_, ⟨count, counted, rfl⟩, rfl⟩

/--
A session of a loaded recording begins, unless there is no seed or its frames
cannot be counted.
-/
theorem setUp_cases (sound : plan.IsSound) (valid : plan.configuration.Valid)
    {bytes : List UInt8} (decoded : surroundings.decode bytes = .ok recording)
    (loaded : recording.IsLoaded) :
    (∃ seed grid total events, plan.seed = .value seed ∧
      plan.newGrid = .ok grid ∧ plan.frameTotal recording = .ok total ∧
        setUp surroundings plan (.file bytes) =
          (events, .playing
            (plan.session surroundings recording (plan.firstGrid grid) total)) ∧
        events.filterMap Event.saved? = [] ∧
        (plan.session surroundings recording
          (plan.firstGrid grid) total).IsPlaying) ∨
      ((plan.seed = .dropped ∨ ¬ plan.IsCounted recording) ∧
        ∃ events fault, setUp surroundings plan (.file bytes) =
          (events, .ended (.failed fault))) := by
  have found : load surroundings (.file bytes) = .ok recording := decoded
  rcases loaded.exists_duration with ⟨duration, -, lasting, -, -⟩
  rw [setUp, found]
  dsimp only
  rw [lasting]
  dsimp only
  cases seeded : plan.seed with
  | dropped =>
      have unseeded : plan.newGrid = .error (.misuse .operands) := by
        rw [Plan.newGrid, seeded]
        rfl
      rw [unseeded]
      exact Or.inr ⟨Or.inl rfl, _, _, rfl⟩
  | value seed =>
      rcases Plan.exists_newGrid sound valid seeded with
        ⟨grid, newGrid, played, rows, columns⟩
      rw [newGrid]
      dsimp only
      cases limited : plan.frameLimit with
      | error fault =>
          refine Or.inr ⟨Or.inr fun isCounted => ?_, _, fault, rfl⟩
          rcases Plan.exists_frameTotal_iff.mpr isCounted with ⟨total, counted⟩
          rcases Plan.frameTotal_eq_ok_iff.mp counted with
            ⟨count, limit, -, own, -⟩
          rw [limited] at own
          cases own
      | ok limit =>
          dsimp only
          cases begun : begin surroundings plan recording grid limit with
          | error fault =>
              refine Or.inr ⟨Or.inr fun isCounted => ?_, _, fault, rfl⟩
              rcases Plan.exists_frameTotal_iff.mpr isCounted with
                ⟨total, counted⟩
              rcases Plan.frameTotal_eq_ok_iff.mp counted with
                ⟨count, own, counted, -, -⟩
              rw [(begin_eq_ok_iff sound).mpr ⟨count, counted, rfl⟩] at begun
              cases begun
          | ok session =>
              rcases (begin_eq_ok_iff sound).mp begun with ⟨count, own, rfl⟩
              have counted :=
                Plan.frameTotal_eq_ok_iff.mpr ⟨count, limit, own, limited, rfl⟩
              refine Or.inl ⟨seed, grid, _, _, rfl, rfl, counted, rfl, ?_,
                Plan.isPlaying_session sound loaded played rows columns counted⟩
              simp only [List.filterMap_append, filterMap_saved?_details]
              rfl

/-- A request that has a plan is set up. -/
theorem opening_of_made {words : List String}
    (asked : Request.ofLine words = .ok request) {entry : Entry}
    (made : Plan.make surroundings request = .ok (plan, entry)) :
    opening surroundings words = setUp surroundings plan entry := by
  rw [opening, asked]
  dsimp only
  rw [made]

/-- A passage is followed by the frames of the stage it leads to. -/
theorem transcript_of_opening {words : List String} {events : List Event}
    {stage : Stage} (opened : opening surroundings words = (events, stage)) :
    transcript surroundings words =
      (events ++ (finish (stagesOf stage) stage).1,
        (finish (stagesOf stage) stage).2) := by
  rw [transcript, opened]

/--
The session of a plan with a seed makes its frames, when they can be counted.
-/
theorem exists_transcript {words : List String}
    (asked : Request.ofLine words = .ok request) {bytes : List UInt8}
    (made : Plan.make surroundings request = .ok (plan, .file bytes))
    (decoded : surroundings.decode bytes = .ok recording)
    (loaded : recording.IsLoaded) {seed : ℤ} (seeded : plan.seed = .value seed)
    {total : ℤ} (counted : plan.frameTotal recording = .ok total) :
    ∃ fresh events ending, plan.newGrid = .ok fresh ∧
      transcript surroundings words = (events, .ended ending) ∧
      plan.Films surroundings recording 0 (plan.firstGrid fresh)
        (events.filterMap Event.saved?) ∧
      plan.Concludes surroundings 0 total.toNat
        (events.filterMap Event.saved?).length ending := by
  rcases setUp_cases (Plan.make_eq_ok_iff.mp made).isSound
    (Plan.valid_of_configurationAt (Plan.make_eq_ok_iff.mp made).configured)
      decoded loaded with
    ⟨-, fresh, same, before, -, newGrid, again, begun, silent, playing⟩ |
    ⟨reason, -⟩
  · rw [counted] at again
    cases again
    have all : (total - ((0 : ℕ) : ℤ)).toNat = total.toNat := by
      rw [Nat.cast_zero, sub_zero]
    have stages : stagesOf (.playing
          (plan.session surroundings recording (plan.firstGrid fresh) total)) =
        total.toNat + 1 := congrArg Nat.succ all
    rcases playing.exists_finish all with
      ⟨events, ending, finished, films, concludes⟩
    have saves : (before ++ events).filterMap Event.saved? =
        events.filterMap Event.saved? := by
      rw [List.filterMap_append, silent, List.nil_append]
    refine ⟨fresh, before ++ events, ending, newGrid, ?_, ?_, ?_⟩
    · rw [transcript_of_opening ((opening_of_made asked made).trans begun),
        stages, finished]
    · rw [saves]
      exact films
    · rw [saves]
      exact concludes
  · rcases reason with dropped | uncounted
    · rw [seeded] at dropped
      cases dropped
    · exact absurd (Plan.exists_frameTotal_iff.mp ⟨total, counted⟩) uncounted

/-- Without a seed, or when its frames cannot be counted, a session fails. -/
theorem exists_transcript_failed {words : List String}
    (asked : Request.ofLine words = .ok request) {bytes : List UInt8}
    (made : Plan.make surroundings request = .ok (plan, .file bytes))
    (decoded : surroundings.decode bytes = .ok recording)
    (loaded : recording.IsLoaded)
    (reason : plan.seed = .dropped ∨ ¬ plan.IsCounted recording) :
    ∃ events fault, transcript surroundings words =
      (events, .ended (.failed fault)) := by
  rcases setUp_cases (Plan.make_eq_ok_iff.mp made).isSound
    (Plan.valid_of_configurationAt (Plan.make_eq_ok_iff.mp made).configured)
      decoded loaded with
    ⟨seed, -, total, -, seeded, -, counted, -⟩ | ⟨-, events, fault, failed⟩
  · rcases reason with dropped | uncounted
    · rw [seeded] at dropped
      cases dropped
    · exact absurd (Plan.exists_frameTotal_iff.mp ⟨total, counted⟩) uncounted
  · have stages :=
      transcript_of_opening ((opening_of_made asked made).trans failed)
    rw [finish_ended] at stages
    exact ⟨_, fault, stages⟩

end Session

/-! ## A short sound -/

/-- A wave of four samples. -/
def Wave.short : Wave :=
  ⟨1, recordingRate, [0, 1000, 2000, -3000]⟩

namespace Surroundings

/-- Surroundings in which there is nothing but this wave. -/
def lone : Surroundings where
  find := FileTree.find ⟨[(["a.wav"], Wave.short.encode)]⟩
  entropy := 0
  terminal := false

theorem decode_lone :
    lone.decode Wave.short.encode = .ok Wave.short.toRecording := by
  have reads : lone.decode = Wave.load := rfl
  have decoded : Wave.decode? Wave.short.encode = some Wave.short := by
    decide +kernel
  rw [reads, Wave.load, decoded]
  rfl

theorem isLoaded_lone : Wave.short.toRecording.IsLoaded :=
  have loaded : Wave.load Wave.short.encode = .ok Wave.short.toRecording :=
    decode_lone
  Wave.isLoaded_of_load loaded

theorem find_lone :
    lone.find (.ofText "a.wav") = .ok (some (.file Wave.short.encode)) := by
  have writable : (Location.ofText "a.wav").isWritable = true := by
    simp only [Location.isWritable, String.contains_char_eq]
    decide +kernel
  change FileTree.find _ _ = _
  rw [FileTree.find, writable]
  rfl

end Surroundings

namespace Plan

/--
The plan for this wave at a rate, with its rules shuffled or not, and a greatest
length.
-/
def lone (rate : ℤ) (shuffleRules : Bool)
    (maxDuration : Option Float) : Plan where
  audio := .ofText "a.wav"
  output := .value (.ofText "a_frames")
  level := .direct
  configuration := .standard
  look := .sized 24
  rows := 11
  columns := 20
  seed := .value 0
  shuffleRules := shuffleRules
  rate := rate
  window := 1024
  maxDuration := maxDuration
  verbose := false

variable (rate : ℤ) (shuffleRules : Bool) (maxDuration : Option Float)

theorem answers_lone (positive : 0 < rate)
    (notNegative : ∀ duration, maxDuration = some duration → ¬ duration < 0.0) :
    Answers .lone
      ⟨.ofText "a.wav", { Wishes.standard with
        rate := .value rate
        shuffleRules := shuffleRules
        maxDuration := maxDuration.map .value }⟩
      (lone rate shuffleRules maxDuration) (.file Wave.short.encode) where
  found := Surroundings.find_lone
  audio := rfl
  output := rfl
  configured := rfl
  levelled := rfl
  sized := ⟨480, 270, 24, rfl, rfl, rfl, by decide, rfl, rfl, rfl⟩
  rows := show (0 : ℤ) < 11 by decide
  columns := show (0 : ℤ) < 20 by decide
  seed := rfl
  shuffleRules := rfl
  rate := ⟨rfl, positive⟩
  window := ⟨rfl, show (0 : ℤ) < 1024 by decide⟩
  maxDuration := ⟨rfl, notNegative⟩
  verbose := rfl

variable {rate shuffleRules maxDuration}

/-- Pictures can be saved in a new folder. -/
theorem framePlace_lone {index : ℕ}
    (short :
      ((Location.ofText "a_frames").child (frameName index)).isLong = false) :
    (lone rate shuffleRules maxDuration).framePlace .lone index =
      .ok ((Location.ofText "a_frames").child (frameName index)) := by
  have writable : (Location.ofText "a_frames").isWritable = true := by
    simp only [Location.isWritable, String.contains_char_eq]
    decide +kernel
  have noFolder : Surroundings.lone.find (.ofText "a_frames") = .ok none := by
    change FileTree.find _ _ = _
    rw [FileTree.find, writable]
    rfl
  have noFile : Surroundings.lone.find
      ((Location.ofText "a_frames").child (frameName index)) =
      .ok none := by
    change FileTree.find _ _ = _
    rw [FileTree.find, short]
    split <;> rfl
  have way : (Location.ofText "a_frames").way = [.ofText "a_frames"] := by
    decide +kernel
  have made : checkFolder .lone (.ofText "a_frames") = .ok () := by
    rw [checkFolder, writable, way, List.findSome?, folderFault?, noFolder]
    rfl
  refine bind_eq_ok_iff.mpr ⟨.ofText "a_frames", rfl,
    bind_eq_ok_iff.mpr ⟨(), made, ?_⟩⟩
  dsimp only
  rw [checkPlace, noFile]
  rfl

theorem fits_lone {index : ℕ}
    (short :
      ((Location.ofText "a_frames").child (frameName index)).isLong = false) :
    (lone rate shuffleRules maxDuration).Fits .lone index := by
  refine ⟨show (1024 : ℤ) * 4 < countLimit by decide, ?_, _,
    framePlace_lone short⟩
  intro size same
  have fixed : (24 : ℤ) = size := Look.sized_injective same
  rw [← fixed]
  exact show (11 : ℤ) * 24 * (20 * 24) * 12 < countLimit by decide

end Plan

/-! ### Two frames of it -/

/--
The words that ask for frames of which there are two, with shuffled rules.
-/
def Request.wordsForTwo : List String :=
  ["a.wav", "--fps", "8000", "--shuffle-rules"]

/-- The request for two frames with shuffled rules. -/
def Request.forTwo : Request :=
  ⟨.ofText "a.wav",
    { Wishes.standard with rate := .value 8000, shuffleRules := true }⟩

theorem Request.ofLine_wordsForTwo : ofLine wordsForTwo = .ok forTwo := rfl

namespace Plan

/-- The plan for two frames with shuffled rules. -/
def forTwo : Plan :=
  lone 8000 true none

theorem answers_forTwo :
    Answers .lone .forTwo forTwo (.file Wave.short.encode) :=
  answers_lone 8000 true none (by decide) fun _ impossible => nomatch impossible

theorem frameTotal_forTwo : forTwo.frameTotal Wave.short.toRecording = .ok 2 :=
  eq_ok_of_toOption (by decide +kernel)

theorem fits_forTwo : ∀ index < 2, forTwo.Fits .lone index := by
  have short : ∀ index < 2, ((Location.ofText "a_frames").child
        (frameName index)).isLong = false := by
    decide +kernel
  exact fun index inside => fits_lone (short index inside)

end Plan

end SoundGrid

import SoundGrid.Proofs.Command.Opening

/-!
# How sessions end

A command line that asks for something, with the sound and the configuration in
their places, is turned down with a message before anything is done, or the
session makes all its frames. There are a few exceptions, in which it fails:
values that are lost on the way, configurations that are wrong in something else
than a value, and greatest lengths, rates, windows and pictures that are far too
large, or not even numbers.
-/

namespace SoundGrid

namespace Passage

/--
Nothing happens but that a message says why, and the status is that of an error.
-/
def IsTurnedDown (passage : Passage) : Prop :=
  ∃ refusal : Refusal, passage = ([], .ended (.refused refusal)) ∧
    (Ending.refused refusal).status = 1 ∧
    (Ending.refused refusal).message? = some ("Error: " ++ refusal.message)

/-- All that is asked for is done. -/
def IsDone (passage : Passage) : Prop :=
  passage.2 = .ended .done

/-- A fault that nobody foresaw comes through. -/
def IsFailed (passage : Passage) : Prop :=
  ∃ fault, passage.2 = .ended (.failed fault)

variable {passage : Passage}

theorem isTurnedDown_iff :
    passage.IsTurnedDown ↔
      ∃ refusal, passage = ([], .ended (.refused refusal)) :=
  exists_congr fun _ => ⟨And.left, fun ended => ⟨ended, rfl, rfl⟩⟩

theorem IsDone.not_turnedDown (done : passage.IsDone) :
    ¬ passage.IsTurnedDown := by
  rintro ⟨refusal, rfl, -⟩
  cases done

theorem IsFailed.not_turnedDown_or_done (failed : passage.IsFailed) :
    ¬ (passage.IsTurnedDown ∨ passage.IsDone) := by
  rcases failed with ⟨fault, failed⟩
  rintro (⟨refusal, rfl, -⟩ | done)
  · cases failed
  · rw [IsDone, failed] at done
    cases done

end Passage

/-- The ending of a session in whose way an obstacle is. -/
def Obstacle.ending : Obstacle → Ending
  | refused refusal => .refused refusal
  | failed fault => .failed fault

variable {surroundings : Surroundings} {request : Request}
  {recording : Recording}

/--
A request that leads to no failure. Its configuration is guarded, nothing that
is needed was dropped, there is a name for the output, and nothing keeps the
frames of its plan from being made.
-/
structure Request.IsSafe (surroundings : Surroundings) (request : Request)
    (recording : Recording) : Prop where
  guarded : Plan.HasGuardedFile surroundings request.wishes.config
  complete : request.wishes.Complete
  named : request.wishes.output = none → ∃ name, request.audio.name? = some name
  playable : ∀ plan entry, Plan.Answers surroundings request plan entry →
    plan.Playable surroundings recording

namespace Plan

variable {plan : Plan} {entry : Entry}

/--
What a plan was made of is guarded, and was not dropped, apart from the seed.
-/
theorem Answers.isSafe_iff (answers : Answers surroundings request plan entry)
    (files : HasFile surroundings request.wishes.config) :
    request.IsSafe surroundings recording ↔
      plan.seed ≠ .dropped ∧ plan.Playable surroundings recording := by
  constructor
  · intro safe
    refine ⟨?_, safe.playable plan entry answers⟩
    rw [answers.seed]
    cases asked : request.wishes.seed with
    | none => exact fun impossible => nomatch impossible
    | some wish =>
        rintro dropped
        exact safe.complete.seed (asked.trans (congrArg some dropped))
  · rintro ⟨seeded, playable⟩
    refine ⟨?_, answers.complete seeded, answers.exists_name, ?_⟩
    · refine (configurationAt_ne_failed_iff files).mp fun fault failed => ?_
      rw [answers.configured] at failed
      cases failed
    · intro other otherEntry others
      have same :=
        (make_eq_ok_iff.mpr others).symm.trans (make_eq_ok_iff.mpr answers)
      cases same
      exact playable

end Plan

namespace Session

variable {words : List String}

/-- Where there is no plan, nothing happens. -/
theorem transcript_of_obstacle
    (asked : Request.ofLine words = .ok request) {obstacle : Obstacle}
    (made : Plan.make surroundings request = .error obstacle) :
    transcript surroundings words = ([], .ended obstacle.ending) := by
  have opened : opening surroundings words = ([], .ended obstacle.ending) := by
    rw [opening, asked]
    dsimp only
    rw [made]
    cases obstacle <;> rfl
  exact transcript_of_opening opened

/--
Where there is a plan, the session is done if it has a seed and is playable, and
fails otherwise.
-/
theorem done_or_failed (asked : Request.ofLine words = .ok request)
    {plan : Plan} {bytes : List UInt8}
    (made : Plan.make surroundings request = .ok (plan, .file bytes))
    (decoded : surroundings.decode bytes = .ok recording)
    (loaded : recording.IsLoaded) :
    (transcript surroundings words).IsDone ∧ plan.seed ≠ .dropped ∧
        plan.Playable surroundings recording ∨
      (transcript surroundings words).IsFailed ∧
        ¬ (plan.seed ≠ .dropped ∧ plan.Playable surroundings recording) := by
  by_cases begins : plan.seed ≠ .dropped ∧ plan.IsCounted recording
  · rcases Wish.ne_dropped_iff.mp begins.1 with ⟨seed, seeded⟩
    rcases Plan.exists_frameTotal_iff.mpr begins.2 with ⟨total, counted⟩
    rcases exists_transcript asked made decoded loaded seeded counted with
      ⟨fresh, events, ending, -, ended, -, fits,
        ⟨rfl, all⟩ | ⟨⟨fault, rfl⟩, some, unfit⟩⟩
    · refine Or.inl ⟨congrArg Prod.snd ended, begins.1, begins.2, ?_⟩
      intro same again index inside
      rw [counted] at again
      cases again
      have fitting := fits index (by omega)
      rwa [Nat.zero_add] at fitting
    · refine Or.inr ⟨⟨fault, congrArg Prod.snd ended⟩, ?_⟩
      rintro ⟨-, playable⟩
      rw [Nat.zero_add] at unfit
      exact unfit (playable.fits total counted _ (by omega))
  · have reason : plan.seed = .dropped ∨ ¬ plan.IsCounted recording :=
      (not_and_or.mp begins).imp_left not_not.mp
    rcases exists_transcript_failed asked made decoded loaded reason with
      ⟨events, fault, ended⟩
    exact Or.inr ⟨⟨fault, congrArg Prod.snd ended⟩, fun both =>
      begins ⟨both.1, both.2.counted⟩⟩

/--
With the sound and the configuration in their places, there are three ways for a
session to end.
-/
theorem refused_or_safe_or_failed
    (asked : Request.ofLine words = .ok request) {bytes : List UInt8}
    (found : surroundings.find request.audio = .ok (some (.file bytes)))
    (decoded : surroundings.decode bytes = .ok recording)
    (loaded : recording.IsLoaded)
    (files : Plan.HasFile surroundings request.wishes.config) :
    Plan.IsRefused surroundings request ∧
      (transcript surroundings words).IsTurnedDown ∨
      ¬ Plan.IsRefused surroundings request ∧
      request.IsSafe surroundings recording ∧
        (transcript surroundings words).IsDone ∨
      ¬ Plan.IsRefused surroundings request ∧
      ¬ request.IsSafe surroundings recording ∧
        (transcript surroundings words).IsFailed := by
  cases made : Plan.make surroundings request with
  | error obstacle =>
      have ended := transcript_of_obstacle asked made
      cases obstacle with
      | refused refusal =>
          exact Or.inl ⟨⟨refusal, made⟩,
            Passage.isTurnedDown_iff.mpr ⟨refusal, ended⟩⟩
      | failed fault =>
          refine Or.inr (Or.inr ⟨?_, ?_, fault, congrArg Prod.snd ended⟩)
          · rintro ⟨refusal, impossible⟩
            rw [made] at impossible
            cases impossible
          · intro safe
            exact Plan.make_ne_failed found files safe.guarded safe.complete
              safe.named fault made
  | ok planned =>
      rcases planned with ⟨plan, entry⟩
      have answers := Plan.make_eq_ok_iff.mp made
      have same := found.symm.trans answers.found
      cases same
      have notRefused : ¬ Plan.IsRefused surroundings request := by
        rintro ⟨refusal, impossible⟩
        rw [made] at impossible
        cases impossible
      rcases done_or_failed asked made decoded loaded with
        ⟨done, fit⟩ | ⟨failed, unfit⟩
      · exact Or.inr
          (Or.inl ⟨notRefused, (answers.isSafe_iff files).mpr fit, done⟩)
      · exact Or.inr (Or.inr ⟨notRefused, fun safe =>
          unfit ((answers.isSafe_iff files).mp safe), failed⟩)

/--
With the sound and the configuration in their places, a session is turned down,
is done or fails. It is turned down when its plan is refused, and otherwise it
is done exactly if its request is safe.
-/
theorem turnedDown_or_done_iff
    (asked : Request.ofLine words = .ok request) {bytes : List UInt8}
    (found : surroundings.find request.audio = .ok (some (.file bytes)))
    (decoded : surroundings.decode bytes = .ok recording)
    (loaded : recording.IsLoaded)
    (files : Plan.HasFile surroundings request.wishes.config) :
    let passage := transcript surroundings words
    (passage.IsTurnedDown ∨ passage.IsDone ∨ passage.IsFailed) ∧
      (passage.IsTurnedDown ↔ Plan.IsRefused surroundings request) ∧
      (passage.IsTurnedDown ∨ passage.IsDone ↔
        Plan.IsRefused surroundings request ∨
        request.IsSafe surroundings recording) := by
  intro passage
  rcases refused_or_safe_or_failed asked found decoded loaded files with
    ⟨refused, down⟩ | ⟨notRefused, safe, done⟩ | ⟨notRefused, notSafe, failed⟩
  · exact ⟨Or.inl down, iff_of_true down refused,
      iff_of_true (Or.inl down) (Or.inl refused)⟩
  · exact ⟨Or.inr (Or.inl done), iff_of_false done.not_turnedDown notRefused,
      iff_of_true (Or.inr done) (Or.inr safe)⟩
  · have neither := failed.not_turnedDown_or_done
    exact ⟨Or.inr (Or.inr failed),
      iff_of_false (fun down => neither (Or.inl down)) notRefused,
      iff_of_false neither (not_or.mpr ⟨notRefused, notSafe⟩)⟩

/--
A request for two frames of a short sound is not turned down, and both are made.
-/
theorem turnedDown_or_done_forTwo :
    Request.ofLine Request.wordsForTwo = .ok .forTwo ∧
      Surroundings.lone.find Request.forTwo.audio =
        .ok (some (.file Wave.short.encode)) ∧
      Surroundings.lone.decode Wave.short.encode = .ok Wave.short.toRecording ∧
      Wave.short.toRecording.IsLoaded ∧
      Plan.HasFile .lone Request.forTwo.wishes.config ∧
      ¬ (transcript .lone Request.wordsForTwo).IsTurnedDown ∧
      (transcript .lone Request.wordsForTwo).IsDone := by
  have asked := Request.ofLine_wordsForTwo
  have found : Surroundings.lone.find Request.forTwo.audio =
      .ok (some (.file Wave.short.encode)) :=
    Surroundings.find_lone
  have files : Plan.HasFile .lone Request.forTwo.wishes.config :=
    Plan.hasFile_none
  have safe : Request.forTwo.IsSafe .lone Wave.short.toRecording := by
    have seeded : Plan.forTwo.seed ≠ .dropped := fun dropped => nomatch dropped
    refine (Plan.answers_forTwo.isSafe_iff files).mpr ⟨seeded, ?_⟩
    refine ⟨Plan.exists_frameTotal_iff.mp ⟨2, Plan.frameTotal_forTwo⟩, ?_⟩
    intro total counted index inside
    rw [Plan.frameTotal_forTwo] at counted
    cases counted
    exact Plan.fits_forTwo index (by omega)
  rcases turnedDown_or_done_iff asked found Surroundings.decode_lone
    Surroundings.isLoaded_lone files with ⟨-, down, ends⟩
  have notDown : ¬ (transcript .lone Request.wordsForTwo).IsTurnedDown := by
    intro isDown
    rcases down.mp isDown with ⟨refusal, refused⟩
    rw [Plan.make_eq_ok_iff.mpr Plan.answers_forTwo] at refused
    cases refused
  exact ⟨asked, found, Surroundings.decode_lone, Surroundings.isLoaded_lone,
    files, notDown, (ends.mpr (Or.inr safe)).resolve_left notDown⟩

/--
A greatest length that is not a number is not below zero, so it is not refused.
The number of frames in it cannot be found, though, when the sound is already
loaded.
-/
theorem exists_failed_undefined :
    ∃ request bytes recording,
      Request.ofLine ["a.wav", "--max-duration", "nan"] = .ok request ∧
        request.wishes.maxDuration = some (.value Number.Double.undefined) ∧
        Surroundings.lone.find request.audio = .ok (some (.file bytes)) ∧
        Surroundings.lone.decode bytes = .ok recording ∧ recording.IsLoaded ∧
        Plan.HasFile .lone request.wishes.config ∧
        (transcript .lone ["a.wav", "--max-duration", "nan"]).IsFailed ∧
        ¬ ((transcript .lone ["a.wav", "--max-duration", "nan"]).IsTurnedDown ∨
          (transcript .lone ["a.wav", "--max-duration", "nan"]).IsDone) := by
  have asked :
      Request.ofLine ["a.wav", "--max-duration", "nan"] =
        .ok ⟨.ofText "a.wav",
          { Wishes.standard with
            maxDuration := some (.value Number.Double.undefined) }⟩ := rfl
  have notNegative : ∀ duration, some Number.Double.undefined = some duration →
      ¬ duration < 0.0 := by
    rintro _ ⟨⟩
    decide +kernel
  have made := Plan.make_eq_ok_iff.mpr
    (Plan.answers_lone 30 false _ (by decide) notNegative)
  have unplayable :
      ¬ (Plan.lone 30 false (some Number.Double.undefined)).Playable .lone
      Wave.short.toRecording := by
    intro playable
    rcases playable.counted with ⟨duration, rate, -, nearest, -, limited⟩
    have known : Number.Double.ofInt? 30 = some 30.0 := rfl
    have same := known.symm.trans nearest
    cases same
    have undefined : ¬ (Number.Double.undefined * 30.0).isFinite = true := by
      decide +kernel
    exact undefined (limited Number.Double.undefined rfl)
  have failed :
      (transcript .lone ["a.wav", "--max-duration", "nan"]).IsFailed := by
    rcases done_or_failed asked made Surroundings.decode_lone
        Surroundings.isLoaded_lone with
      ⟨-, -, playable⟩ | ⟨failed, -⟩
    · exact absurd playable unplayable
    · exact failed
  exact ⟨_, Wave.short.encode, Wave.short.toRecording, asked, rfl,
    Surroundings.find_lone, Surroundings.decode_lone,
    Surroundings.isLoaded_lone, Plan.hasFile_none, failed,
    failed.not_turnedDown_or_done⟩

end Session

end SoundGrid

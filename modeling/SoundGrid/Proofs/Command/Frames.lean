import SoundGrid.Proofs.Command.Ending
import SoundGrid.Proofs.Command.Naming

/-!
# Pictures that are saved

The pictures of a session are saved one by one, in order and under different
names. Each of them shows a grid that is made anew for the session and advanced
with one frame after the other, at the time of the last frame it was advanced
with.
-/

namespace SoundGrid

namespace Plan

variable {surroundings : Surroundings} {plan : Plan} {recording : Recording}

/--
Pictures are saved in the folder of their plan, under the name of their frame.
-/
theorem framePlace_eq {index : ℕ} {place : Location}
    (placed : plan.framePlace surroundings index = .ok place) :
    ∃ folder, plan.output = .value folder ∧
      place = folder.child (frameName index) := by
  simp only [framePlace, bind_eq_ok_iff, Wish.get_eq_ok_iff] at placed
  rcases placed with ⟨folder, own, -, -, -, -, ⟨⟩⟩
  exact ⟨folder, own, rfl⟩

/-- The locations of pictures are different. -/
theorem Films.nodup_places {index : ℕ} {grid : Grid Float Sample Random.Twister}
    {saves : List (Location × Picture)}
    (films : plan.Films surroundings recording index grid saves) :
    (saves.map Prod.fst).Nodup := by
  cases output : plan.output with
  | dropped =>
      cases films with
      | nothing => exact List.nodup_nil
      | frame draws placed rest =>
          rcases framePlace_eq placed with ⟨folder, own, -⟩
          rw [output] at own
          cases own
  | value folder =>
      have places : saves.map Prod.fst =
          (List.range' index saves.length).map fun index =>
            folder.child (frameName index) := by
        induction films with
        | nothing => rfl
        | @frame index before after picture place saves draws placed rest ih =>
            rcases framePlace_eq placed with ⟨_, own, rfl⟩
            rw [output] at own
            cases own
            rw [List.map_cons, List.length_cons, List.range'_succ,
              List.map_cons, ih]
      rw [places]
      have injective :
          Function.Injective fun index => folder.child (frameName index) :=
        fun _ _ same => frameName_injective (folder.child_injective same)
      exact List.Nodup.map injective List.nodup_range'

end Plan

namespace Session

variable {surroundings : Surroundings} {request : Request}
  {recording : Recording} {plan : Plan} {words : List String}

/--
A session whose frames can be counted saves their pictures in order, each under
its own name. The grid in the first one is a new grid of the plan, with its
rules shuffled if this is asked for, that is advanced with the first frame, and
every further frame advances it further. All pictures are saved when all frames
fit; otherwise the session fails, and saves no picture from the first frame on
that does not fit.
-/
theorem saves_frames (asked : Request.ofLine words = .ok request)
    {bytes : List UInt8}
    (made : Plan.make surroundings request = .ok (plan, .file bytes))
    (decoded : surroundings.decode bytes = .ok recording)
    (loaded : recording.IsLoaded) {seed : ℤ} (seeded : plan.seed = .value seed)
    {total : ℤ} (counted : plan.frameTotal recording = .ok total) :
    let passage := transcript surroundings words
    let saves := passage.saves
    Plan.Answers surroundings request plan (.file bytes) ∧
      (∃ (fresh : Grid Float Sample Random.Twister)
        (grids : ℕ → Grid Float Sample Random.Twister),
        Grid.make (.int plan.rows) (.int plan.columns) (.int plan.level.number)
            (.ofNumber plan.configuration.connectivity)
            plan.configuration.settings Rule.Standard.rules
            (Random.Twister.ofSeed seed) = .ok fresh ∧
          grids 0 = (if plan.shuffleRules then fresh.shuffleRules else fresh) ∧
          ∀ index < saves.length, ∃ folder picture,
            plan.output = .value folder ∧
            saves[index]? =
              some (folder.child (Plan.frameName index), picture) ∧
            plan.Draws recording index (grids index)
              (grids (index + 1)) picture) ∧
      (saves.map Prod.fst).Nodup ∧
      ((∀ index < total.toNat, plan.Fits surroundings index) →
        passage.IsDone ∧ saves.length = total.toNat) ∧
      ∀ index < total.toNat, ¬ plan.Fits surroundings index →
        passage.IsFailed ∧ saves.length ≤ index := by
  intro passage saves
  rcases exists_transcript asked made decoded loaded seeded counted with
    ⟨fresh, events, ending, newGrid, ended, films, fits, ends⟩
  have own : saves = events.filterMap Event.saved? :=
    congrArg Passage.saves ended
  rw [← own] at films fits ends
  simp only [Nat.zero_add] at fits ends
  have stage : passage.2 = .ended ending := congrArg Prod.snd ended
  refine ⟨Plan.make_eq_ok_iff.mp made, ?_, films.nodup_places, ?_, ?_⟩
  · rcases films.exists_grids with ⟨grids, first, frames⟩
    refine ⟨fresh, grids, ?_, first, ?_⟩
    · rw [Plan.newGrid, seeded] at newGrid
      exact newGrid
    · intro index inside
      rcases frames index inside with ⟨place, picture, found, placed, draws⟩
      rw [Nat.zero_add] at placed draws
      rcases Plan.framePlace_eq placed with ⟨folder, output, rfl⟩
      exact ⟨folder, picture, output, found, draws⟩
  · intro all
    rcases ends with ⟨rfl, length⟩ | ⟨-, some, unfit⟩
    · exact ⟨stage, length⟩
    · exact absurd (all _ some) unfit
  · intro index inside unfit
    have least : saves.length ≤ index := by
      by_contra further
      exact unfit (fits index (not_le.mp further))
    rcases ends with ⟨-, length⟩ | ⟨⟨fault, rfl⟩, -⟩
    · omega
    · exact ⟨⟨fault, stage⟩, least⟩

/-- Of two frames there are two pictures. -/
theorem saves_frames_forTwo :
    Request.ofLine Request.wordsForTwo = .ok .forTwo ∧
      Plan.make .lone .forTwo = .ok (.forTwo, .file Wave.short.encode) ∧
      Surroundings.lone.decode Wave.short.encode = .ok Wave.short.toRecording ∧
      Wave.short.toRecording.IsLoaded ∧ Plan.forTwo.seed = .value 0 ∧
      Plan.forTwo.frameTotal Wave.short.toRecording = .ok 2 ∧
      (transcript .lone Request.wordsForTwo).IsDone ∧
      (transcript .lone Request.wordsForTwo).saves.map Prod.fst =
        [(Location.ofText "a_frames").child "frame_00000.png",
          (Location.ofText "a_frames").child "frame_00001.png"] := by
  have asked := Request.ofLine_wordsForTwo
  have made := Plan.make_eq_ok_iff.mpr Plan.answers_forTwo
  have seeded : Plan.forTwo.seed = .value 0 := rfl
  rcases saves_frames asked made Surroundings.decode_lone
    Surroundings.isLoaded_lone seeded
    Plan.frameTotal_forTwo with ⟨-, ⟨fresh, grids, -, -, frames⟩, -, all, -⟩
  rcases all Plan.fits_forTwo with ⟨done, length⟩
  refine ⟨asked, made, Surroundings.decode_lone, Surroundings.isLoaded_lone,
    seeded, Plan.frameTotal_forTwo, done, ?_⟩
  rcases frames 0 (by rw [length]; decide) with ⟨folder, picture, ⟨⟩, first, -⟩
  rcases frames 1 (by rw [length]; decide) with ⟨folder, picture, ⟨⟩, second, -⟩
  have names : Plan.frameName 0 = "frame_00000.png" ∧
      Plan.frameName 1 = "frame_00001.png" := by
    decide +kernel
  rw [names.1] at first
  rw [names.2] at second
  rcases List.length_eq_two.mp length with ⟨one, other, both⟩
  rw [both] at first second ⊢
  cases first
  cases second
  rfl

end Session

end SoundGrid

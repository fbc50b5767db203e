import SoundGrid.Proofs.Command.Frames

/-!
# Pictures in a folder

Whatever a session comes to, its pictures are saved in one folder under the
names of the first frames. In alphabetical order they show the frames in order
exactly if there are at most a hundred thousand of them: one frame more, and its
picture comes before those of earlier frames.
-/

namespace SoundGrid

/-- The names of the pictures that are saved in a passage, in order. -/
def Passage.names (passage : Passage) : List String :=
  passage.saves.filterMap fun (place, _) => place.name?

namespace Session

variable {session : Session}

/-! ## Names in a session -/

/--
A stage saves the picture of the next frame at its place, or saves nothing and
is the last one.
-/
theorem advance_saves_cases (session : Session) :
    (∃ events ending, session.advance = (events, .ended ending) ∧
        events.filterMap Event.saved? = []) ∨
      ∃ place picture next, session.advance =
        (session.report ++ [.save place picture], .playing next) ∧
        session.plan.framePlace session.surroundings session.run.taken =
          .ok place ∧
        next.plan = session.plan ∧ next.surroundings = session.surroundings ∧
        next.run.taken = session.run.taken + 1 := by
  have silent := session.filterMap_saved?_report
  rcases session.run.next_cases session.playback session.recording with
    ⟨-, all⟩ | ⟨-, ⟨fault, grid, -, broken⟩ | ⟨mark, grid, -, made⟩⟩
  · rw [advance, all]
    refine Or.inl ⟨_, .done, rfl, ?_⟩
    rw [List.filterMap_append, silent]
    rfl
  · rw [advance, broken]
    exact Or.inl ⟨_, .failed fault, rfl, silent⟩
  · rw [advance, made]
    dsimp only
    split
    · next fault _ => exact Or.inl ⟨_, .failed fault, rfl, silent⟩
    · next place picture drawn =>
      exact Or.inr ⟨place, picture, _, rfl, (picture_eq_ok_iff.mp drawn).2, rfl,
        rfl, rfl⟩

/--
The pictures of the stages from a session on are saved at the places for the
indices from there on.
-/
theorem framePlace_of_finish {fuel position : ℕ} {saved : Location × Picture}
    (found : (finish fuel (.playing session)).saves[position]? = some saved) :
    session.plan.framePlace session.surroundings
      (session.run.taken + position) = .ok saved.1 := by
  induction fuel generalizing session position with
  | zero => cases found
  | succ fuel ih =>
      rcases session.advance_saves_cases with
        ⟨events, ending, advanced, silent⟩
          | ⟨place, picture, next, advanced, placed, samePlan,
            sameSurroundings, further⟩
      · rw [Passage.saves, finish_of_advance fuel advanced, finish_ended,
          List.append_nil, silent] at found
        cases found
      · have saves : (finish (fuel + 1) (.playing session)).saves =
            (place, picture) :: (finish fuel (.playing next)).saves := by
          rw [Passage.saves, finish_of_advance fuel advanced,
            List.filterMap_append, List.filterMap_append,
            filterMap_saved?_report]
          rfl
        rw [saves] at found
        cases position with
        | zero =>
            cases found
            exact placed
        | succ position =>
            have others := ih found
            rw [samePlan, sameSurroundings, further] at others
            rw [← others]
            congr 1
            omega

/--
A new session saves its pictures in one folder, under the names of the first
frames in order.
-/
theorem exists_folder_of_finish (isNew : session.run.taken = 0) (fuel : ℕ) :
    ∃ folder : Location, (finish fuel (.playing session)).saves.map Prod.fst =
      (List.range (finish fuel (.playing session)).saves.length).map
        fun index =>
        folder.child (Plan.frameName index) := by
  have placed (position : ℕ)
      (inside : position < (finish fuel (.playing session)).saves.length) :=
    framePlace_of_finish (List.getElem?_eq_getElem inside)
  rw [isNew] at placed
  simp only [Nat.zero_add] at placed
  rcases Nat.eq_zero_or_pos (finish fuel (.playing session)).saves.length with
    none | some
  · refine ⟨.ofText "", ?_⟩
    rw [none, List.length_eq_zero_iff.mp none]
    rfl
  · rcases Plan.framePlace_eq (placed 0 some) with ⟨folder, own, -⟩
    refine ⟨folder, List.ext_getElem (by simp) fun position inside _ => ?_⟩
    rw [List.length_map] at inside
    rcases Plan.framePlace_eq (placed position inside) with ⟨other, same, place⟩
    rw [own] at same
    cases same
    rw [List.getElem_map, List.getElem_map, List.getElem_range, place]

theorem taken_of_begin {surroundings : Surroundings} {plan : Plan}
    {recording : Recording}
    {grid : Grid Float Sample Random.Twister} {limit : Option ℤ}
    (begun : begin surroundings plan recording grid limit = .ok session) :
    session.run.taken = 0 := by
  simp only [begin, bind_eq_ok_iff, Run.start] at begun
  rcases begun with ⟨playback, -, run, ⟨count, -, ⟨⟩⟩, ⟨⟩⟩
  rfl

/-- Nothing is saved, and a session that begins has no frames yet. -/
structure IsSilent (passage : Passage) : Prop where
  saves : passage.saves = []
  isNew : ∀ session, passage.2 = .playing session → session.run.taken = 0

theorem isSilent_ended {events : List Event} {ending : Ending}
    (silent : events.filterMap Event.saved? = []) :
    IsSilent (events, .ended ending) :=
  ⟨silent, fun _ impossible => nomatch impossible⟩

theorem isSilent_setUp (surroundings : Surroundings) (plan : Plan)
    (entry : Entry) : IsSilent (setUp surroundings plan entry) := by
  rw [setUp]
  split
  · exact isSilent_ended rfl
  · split
    · exact isSilent_ended rfl
    · split
      · exact isSilent_ended rfl
      · next grid _ =>
        have detailed (events : List Event) :
            (events ++ details plan grid).filterMap Event.saved? =
            events.filterMap Event.saved? := by
          rw [List.filterMap_append, filterMap_saved?_details, List.append_nil]
        dsimp only
        split
        · exact isSilent_ended (detailed _)
        · split
          · refine isSilent_ended ?_
            rw [List.filterMap_append, detailed]
            rfl
          · next session begun =>
            refine ⟨?_, ?_⟩
            · rw [Passage.saves, List.filterMap_append, detailed]
              rfl
            · rintro _ ⟨⟩
              exact taken_of_begin begun

theorem isSilent_opening (surroundings : Surroundings) (words : List String) :
    IsSilent (opening surroundings words) := by
  rw [opening]
  split
  · exact isSilent_ended rfl
  · exact isSilent_ended rfl
  · split
    · exact isSilent_ended rfl
    · exact isSilent_ended rfl
    · exact isSilent_setUp surroundings _ _

/--
The pictures of a session are saved in one folder, under the names of the first
frames in order.
-/
theorem exists_folder (surroundings : Surroundings) (words : List String) :
    ∃ folder : Location, (transcript surroundings words).saves.map Prod.fst =
      (List.range (transcript surroundings words).saves.length).map fun index =>
        folder.child (Plan.frameName index) := by
  rcases isSilent_opening surroundings words with ⟨silent, begun⟩
  rcases opened : opening surroundings words with ⟨events, stage⟩
  rw [opened] at silent begun
  have saves : (transcript surroundings words).saves =
      (finish (stagesOf stage) stage).saves := by
    have nothing : events.filterMap Event.saved? = [] := silent
    rw [Passage.saves, transcript_of_opening opened, List.filterMap_append,
      nothing, List.nil_append]
    rfl
  rw [saves]
  cases stage with
  | ended ending =>
      rw [finish_ended]
      exact ⟨.ofText "", rfl⟩
  | playing session => exact exists_folder_of_finish (begun session rfl) _

/-- A session of which all frames fit saves all of them. -/
theorem done_of_fits {surroundings : Surroundings} {words : List String}
    {request : Request} (asked : Request.ofLine words = .ok request)
    {plan : Plan} {bytes : List UInt8}
    (made : Plan.make surroundings request = .ok (plan, .file bytes))
    {recording : Recording}
    (decoded : surroundings.decode bytes = .ok recording)
    (loaded : recording.IsLoaded) {seed : ℤ} (seeded : plan.seed = .value seed)
    {total : ℤ} (counted : plan.frameTotal recording = .ok total)
    (fits : ∀ index < total.toNat, plan.Fits surroundings index) :
    (transcript surroundings words).IsDone ∧
      (transcript surroundings words).saves.length = total.toNat := by
  rcases exists_transcript asked made decoded loaded seeded counted with
    ⟨fresh, events, ending, -, ended, -, -, ⟨rfl, length⟩ | ⟨-, some, unfit⟩⟩
  · exact ⟨congrArg Prod.snd ended,
      (congrArg (List.length ∘ Passage.saves) ended).trans length⟩
  · rw [Nat.zero_add] at unfit
    exact absurd (fits _ some) unfit

theorem names_eq {passage : Passage} {folder : Location}
    (places : passage.saves.map Prod.fst =
      (List.range passage.saves.length).map fun index =>
  folder.child (Plan.frameName index)) :
  passage.names = (List.range passage.saves.length).map Plan.frameName := by
  have named : passage.names =
      (passage.saves.map Prod.fst).filterMap Location.name? := by
    rw [Passage.names, List.filterMap_map]
    rfl
  rw [named, places, List.filterMap_map]
  simp only [Function.comp_def, Location.name?_child, List.filterMap_eq_map']

/--
The pictures of a session are saved in one folder, under the names of the first
frames. A later frame has a later name exactly if its leading digits, as many as
the name of the earlier one has, do not denote less. So the names in
alphabetical order are those of the frames in order exactly if there are at most
a hundred thousand frames.
-/
theorem names_in_order_iff (surroundings : Surroundings) (words : List String) :
    let passage := transcript surroundings words
    (∃ folder : Location, passage.saves.map Prod.fst =
        (List.range passage.saves.length).map fun index =>
          folder.child (Plan.frameName index)) ∧
      passage.names = (List.range passage.saves.length).map Plan.frameName ∧
      (∀ index later, index < later →
        (Plan.frameName index < Plan.frameName later ↔
          index ≤ later / 10 ^ (Plan.nameWidth later - Plan.nameWidth index))) ∧
      (passage.names.mergeSort = passage.names ↔
        passage.saves.length ≤ 100000) := by
  intro passage
  rcases exists_folder surroundings words with ⟨folder, places⟩
  have names := names_eq places
  refine ⟨⟨folder, places⟩, names, fun index later ordered =>
    Plan.frameName_lt_iff ordered, ?_⟩
  rw [names]
  exact Plan.sorted_frameNames_iff

/-- The two pictures of two frames are in order. -/
theorem names_in_order_forTwo :
    (transcript .lone Request.wordsForTwo).names =
        ["frame_00000.png", "frame_00001.png"] ∧
      0 < 1 ∧ "frame_00000.png" < "frame_00001.png" ∧
      (transcript .lone Request.wordsForTwo).names.mergeSort =
        (transcript .lone Request.wordsForTwo).names := by
  have made := Plan.make_eq_ok_iff.mpr Plan.answers_forTwo
  have seeded : Plan.forTwo.seed = .value 0 := rfl
  have two :=
    (done_of_fits Request.ofLine_wordsForTwo made Surroundings.decode_lone
      Surroundings.isLoaded_lone seeded Plan.frameTotal_forTwo
      Plan.fits_forTwo).2
  rcases names_in_order_iff .lone Request.wordsForTwo with
    ⟨-, names, ordered, sorted⟩
  have first : Plan.frameName 0 = "frame_00000.png" := by decide +kernel
  have second : Plan.frameName 1 = "frame_00001.png" := by decide +kernel
  refine ⟨?_, by decide, ?_, sorted.mpr (by rw [two]; decide)⟩
  · rw [names, two, ← first, ← second]
    rfl
  · rw [← first, ← second]
    exact (ordered 0 1 (by decide)).mpr (Nat.zero_le _)

end Session

/-! ## One frame too many -/

namespace Plan

theorem utf8Len_le (text : List Char) :
    String.utf8Len text ≤ 4 * text.length := by
  induction text with
  | nil => exact le_refl 0
  | cons character rest ih =>
      have bytes := character.utf8Size_le_four
      rw [String.utf8Len_cons, List.length_cons]
      omega

theorem toText_inFolder (name : String) :
    ((Location.ofText "a_frames").child name).toText = "a_frames/" ++ name := by
  have folder : Location.ofText "a_frames" = ⟨0, ["a_frames"]⟩ := by
    decide +kernel
  have parts :
      "/".intercalate ["a_frames", name] = "a_frames" ++ "/" ++ name := rfl
  have joined : "a_frames" ++ "/" = "a_frames/" := rfl
  rw [folder, Location.child, Location.toText, if_neg (by simp)]
  change "".pushn '/' 0 ++ "/".intercalate ["a_frames", name] = _
  rw [parts, joined]
  exact String.empty_append

/-- Names of a thousand digits still have a place in a folder. -/
theorem isLong_inFolder {index : ℕ} (narrow : nameWidth index ≤ 1000) :
    ((Location.ofText "a_frames").child (frameName index)).isLong = false := by
  have length :
      (frameName index).toList.length = 6 + (nameWidth index + 4) := by
    rw [toList_frameName, List.length_append, List.length_append,
      length_paddedDigits]
    rfl
  have bytes := utf8Len_le (frameName index).toList
  rw [String.utf8Len_toList, length] at bytes
  have folder : "a_frames/".utf8ByteSize = 9 := rfl
  have most : Location.longestText = 4095 := rfl
  rw [Location.isLong, toText_inFolder, String.utf8ByteSize_append,
    folder, most]
  exact decide_eq_false (by omega)

end Plan

/--
The words that ask for small pictures, of which there is one more than a hundred
thousand.
-/
def Request.wordsForMany : List String :=
  ["a.wav", "--fps", "551253000", "--width", "3", "--height", "3",
    "--cell-size", "3", "--window", "1"]

/-- The request for so many pictures. -/
def Request.forMany : Request :=
  ⟨.ofText "a.wav", { Wishes.standard with
    width := .value 3
    height := .value 3
    cellSize := .value 3
    rate := .value 551253000
    window := .value 1 }⟩

theorem Request.ofLine_wordsForMany : ofLine wordsForMany = .ok forMany := rfl

namespace Plan

/-- The plan for so many pictures. -/
def forMany : Plan :=
  { lone 551253000 false none with
    look := .sized 3
    rows := 1
    columns := 1
    window := 1 }

theorem answers_forMany :
    Answers .lone .forMany forMany (.file Wave.short.encode) where
  found := Surroundings.find_lone
  audio := rfl
  output := rfl
  configured := rfl
  levelled := rfl
  sized := ⟨3, 3, 3, rfl, rfl, rfl, by decide, rfl, rfl, rfl⟩
  rows := show (0 : ℤ) < 1 by decide
  columns := show (0 : ℤ) < 1 by decide
  seed := rfl
  shuffleRules := rfl
  rate := ⟨rfl, show (0 : ℤ) < 551253000 by decide⟩
  window := ⟨rfl, show (0 : ℤ) < 1 by decide⟩
  maxDuration := ⟨rfl, fun _ impossible => nomatch impossible⟩
  verbose := rfl

theorem frameTotal_forMany :
    forMany.frameTotal Wave.short.toRecording = .ok 100001 :=
  eq_ok_of_toOption (by decide +kernel)

theorem fits_forMany : ∀ index < 100001, forMany.Fits .lone index := by
  intro index inside
  have narrow : nameWidth index ≤ 6 :=
    (nameWidth_le_iff (by decide)).mpr (by omega)
  have short :
      ((Location.ofText "a_frames").child (frameName index)).isLong = false :=
    isLong_inFolder (by omega)
  -- the place depends on nothing in which the two plans are different
  have placed : forMany.framePlace .lone index =
      (lone 551253000 false none).framePlace .lone index :=
    rfl
  refine ⟨show (1 : ℤ) * 4 < countLimit by decide, ?_, _,
    placed.trans (framePlace_lone short)⟩
  intro size same
  have fixed : (3 : ℤ) = size := Look.sized_injective same
  rw [← fixed]
  exact show (1 : ℤ) * 3 * (1 * 3) * 12 < countLimit by decide

end Plan

namespace Session

/--
Of a hundred thousand frames and one, the last picture comes before one of an
earlier frame.
-/
theorem exists_names_out_of_order :
    Request.ofLine Request.wordsForMany = .ok .forMany ∧
      (transcript .lone Request.wordsForMany).IsDone ∧
      (transcript .lone Request.wordsForMany).names.length = 100001 ∧
      (transcript .lone Request.wordsForMany).names[99999]? =
        some "frame_99999.png" ∧
      (transcript .lone Request.wordsForMany).names[100000]? =
        some "frame_100000.png" ∧
      "frame_100000.png" < "frame_99999.png" ∧
      (transcript .lone Request.wordsForMany).names.mergeSort ≠
        (transcript .lone Request.wordsForMany).names := by
  have made := Plan.make_eq_ok_iff.mpr Plan.answers_forMany
  have seeded : Plan.forMany.seed = .value 0 := rfl
  rcases done_of_fits Request.ofLine_wordsForMany made
    Surroundings.decode_lone Surroundings.isLoaded_lone seeded
    Plan.frameTotal_forMany Plan.fits_forMany with
    ⟨done, many⟩
  rcases exists_folder .lone Request.wordsForMany with ⟨folder, places⟩
  have names := names_eq places
  have earlier : Plan.frameName 99999 = "frame_99999.png" := by decide +kernel
  have last : Plan.frameName 100000 = "frame_100000.png" := by decide +kernel
  have tooMany : ¬ (100001 : ℤ).toNat ≤ 100000 := by decide
  rw [names, many, ← earlier, ← last]
  refine ⟨Request.ofLine_wordsForMany, done, ?_, ?_, ?_, ?_,
    mt Plan.sorted_frameNames_iff.mp tooMany⟩
  · rw [List.length_map, List.length_range]
    rfl
  · rw [List.getElem?_map, List.getElem?_range (by decide)]
    rfl
  · rw [List.getElem?_map, List.getElem?_range (by decide)]
    rfl
  · have notAfter := mt (Plan.frameName_lt_iff (by decide : 99999 < 100000)).mp
      (by decide +kernel)
    exact lt_of_le_of_ne (not_lt.mp notAfter)
      (Plan.frameName_injective.ne (by decide))

end Session

end SoundGrid

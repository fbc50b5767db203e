import SoundGrid.Command.Word
import SoundGrid.Fault
import SoundGrid.Location
import SoundGrid.Number.Literal

/-!
# Requests

What a command line asks for.  Words are taken one after the other: an option
sets its part of the request, with the later of two values winning, the first
plain word names the sound, and whatever else there is, is left over.  A
request needs a sound and must leave nothing over.

A separator is no value: where one is attached to an option, it is dropped, and
the option is left without a value.
-/

namespace SoundGrid

/-- What is given for an option: a value, unless it was dropped. -/
inductive Wish (Value : Type) where
  | value (value : Value)
  | dropped

namespace Wish

/-- The value, which is needed for what is done with it. -/
def get {Value : Type} : Wish Value → Except Fault Value
  | value given => .ok given
  | dropped => .error (.misuse .operands)

/-- The value as a datum; a dropped one leaves an empty list. -/
def toDatum {Value : Type} (shown : Value → Datum) : Wish Value → Datum
  | value given => shown given
  | dropped => .list []

end Wish

/-- What is asked for, apart from the sound. -/
structure Wishes where
  output : Option (Wish Location)
  level : Option (Wish String)
  config : Option (Wish Location)
  seed : Option (Wish Int)
  shuffleRules : Bool
  width : Wish Int
  height : Wish Int
  cellSize : Wish Int
  /-- Frames per second. -/
  rate : Wish Int
  /-- Samples handed to the grid per frame. -/
  window : Wish Int
  /-- The greatest length of the output, in seconds. -/
  maxDuration : Option (Wish Float)
  verbose : Bool

namespace Wishes

/-- What is asked for unless something else is. -/
def standard : Wishes where
  output := none
  level := none
  config := none
  seed := none
  shuffleRules := false
  width := .value 480
  height := .value 270
  cellSize := .value 24
  rate := .value 30
  window := .value 1024
  maxDuration := none
  verbose := false

/-- Reads the value that is given for an option, unless it is a separator. -/
def wish {Value : Type} (read : String → Except Complaint Value)
    (given : String) : Except Complaint (Wish Value) :=
  if given == "--" then .ok .dropped else (read given).map Wish.value

/-- The integer that is given for an option. -/
def integer (option : CommandOption) (given : String) : Except Complaint Int :=
  match Number.Literal.integer given with
  | .ok number => .ok number
  | .error _ => .error (.notAnInteger option given)

/-- The double that is given for an option. -/
def double (option : CommandOption) (given : String) : Except Complaint Float :=
  match Number.Literal.double? given with
  | some number => .ok number
  | none => .error (.notADouble option given)

/-- The location that is given for an option. -/
def location (given : String) : Except Complaint Location :=
  .ok (.ofText given)

/--
The wishes after an option with its value; the value of a flag is not looked at.
-/
def set (wishes : Wishes) (option : CommandOption) (given : String) :
    Except Complaint Wishes := do
  match option with
  | .help => pure wishes
  | .output => pure { wishes with output := some (← wish location given) }
  | .level => pure { wishes with level := some (← wish .ok given) }
  | .config => pure { wishes with config := some (← wish location given) }
  | .seed => pure { wishes with seed := some (← wish (integer option) given) }
  | .shuffleRules => pure { wishes with shuffleRules := true }
  | .width => pure { wishes with width := ← wish (integer option) given }
  | .height => pure { wishes with height := ← wish (integer option) given }
  | .cellSize => pure { wishes with cellSize := ← wish (integer option) given }
  | .rate => pure { wishes with rate := ← wish (integer option) given }
  | .window => pure { wishes with window := ← wish (integer option) given }
  | .maxDuration =>
      pure { wishes with maxDuration := some (← wish (double option) given) }
  | .verbose => pure { wishes with verbose := true }

end Wishes

/-- What a command line asks for. -/
structure Request where
  audio : Location
  wishes : Wishes

namespace Request

/-- Why a command line makes no request. -/
inductive Departure where
  /-- Help was asked for. -/
  | helped
  | misused (complaint : Complaint)

/--
What a word with options stands for: some flags, and behind them possibly an
option that takes a value, with the value if it is in the same word.
-/
structure Bundle where
  flags : List CommandOption
  last : Option (CommandOption × Option String)

namespace Bundle

/-- An option with its value, or one that waits for it. -/
def ofValue (option : CommandOption) (value : Option String) : Bundle :=
  ⟨[], some (option, value)⟩

/-- The bundle with a flag in front. -/
def push (flag : CommandOption) (bundle : Bundle) : Bundle :=
  { bundle with flags := flag :: bundle.flags }

/-- An option to which nothing is attached. -/
def bare (option : CommandOption) : Bundle :=
  if option.takesValue then ofValue option none else ⟨[option], none⟩

/-- An option with a text that can only be its value. -/
def equate (option : CommandOption) (text : List Char) :
    Except Complaint Bundle :=
  if option.takesValue then .ok (ofValue option (some (String.ofList text)))
  else .error (.valueIgnored option (String.ofList text))

/--
An option with a text behind its short spelling.  Behind a flag, the text
consists of the letters of more options, the last of which may take the rest
of the text for its value.
-/
def join (option : CommandOption) : List Char → Except Complaint Bundle
  | [] => equate option []
  | letter :: rest =>
      if option.takesValue then
        equate option (letter :: rest)
      else
        match CommandOption.spelled? ['-', letter] with
        | none => .error (.valueIgnored option (String.ofList (letter :: rest)))
        | some next =>
            let behind :=
              if rest.isEmpty then .ok (bare next) else join next rest
            behind.map (push option)

/-- What an option of a command line stands for. -/
def make (mention : Mention) : Except Complaint Bundle :=
  match mention.attached with
  | none => .ok (bare mention.option)
  | some text => if mention.short then join mention.option text
    else equate mention.option text

end Bundle

/-- What the next word may be needed for. -/
inductive Expectation where
  | nothing
  /-- The value of an option, behind some flags that wait for it. -/
  | value (flags : List CommandOption) (option : CommandOption)
  /-- A separator right behind the sound belongs to it. -/
  | separator
  /-- A separator was met before the sound, which has to follow. -/
  | audio

/-- A request that is not complete yet. -/
structure Draft where
  audio : Option Location
  wishes : Wishes
  /-- The words that are left over. -/
  leftOver : List String
  expected : Expectation

namespace Draft

/-- Nothing yet. -/
def empty : Draft :=
  ⟨none, .standard, [], .nothing⟩

/-- The draft with one more word left over. -/
def leave (draft : Draft) (word : String) : Draft :=
  { draft with leftOver := draft.leftOver ++ [word], expected := .nothing }

/-- The draft with the sound. -/
def name (draft : Draft) (word : String) (expected : Expectation) : Draft :=
  { draft with audio := some (.ofText word), expected }

/-- The draft after an option with its value. -/
def take (draft : Draft) (option : CommandOption) (value : String) :
    Except Departure Draft :=
  if option = .help then .error .helped
  else
    match draft.wishes.set option value with
    | .ok wishes => .ok { draft with wishes, expected := .nothing }
    | .error complaint => .error (.misused complaint)

/-- The draft after some flags. -/
def takeFlags (draft : Draft) : List CommandOption → Except Departure Draft
  | [] => .ok { draft with expected := .nothing }
  | flag :: rest => do (← draft.take flag "").takeFlags rest

/-- The draft after what an option of the command line stands for. -/
def takeBundle (draft : Draft) (bundle : Bundle) : Except Departure Draft :=
  match bundle.last with
  | none => draft.takeFlags bundle.flags
  | some (option, none) =>
      .ok { draft with expected := .value bundle.flags option }
  | some (option, some value) => do
      (← draft.takeFlags bundle.flags).take option value

/-- The draft after a word that no option waits for. -/
def read (draft : Draft) (word : Word) : Except Departure Draft :=
  match word.kind with
  | .stranger => .ok (draft.leave word.text)
  | .plain =>
      match draft.audio with
      | none => .ok (draft.name word.text .separator)
      | some _ => .ok (draft.leave word.text)
  | .separator =>
      match draft.audio with
      | none => .ok { draft with expected := .audio }
      | some _ => .ok (draft.leave word.text)
  | .option mention =>
      match Bundle.make mention with
      | .ok bundle => draft.takeBundle bundle
      | .error complaint => .error (.misused complaint)

/-- The draft after one more word. -/
def feed (draft : Draft) (word : Word) : Except Departure Draft :=
  match draft.expected, word.kind with
  | .value flags option,
    .plain => do (← draft.takeFlags flags).take option word.text
  | .value _ option, _ => .error (.misused (.valueMissing option))
  | .separator, .separator => .ok { draft with expected := .nothing }
  | .audio, _ => .ok (draft.name word.text .nothing)
  | _, _ => draft.read word

/-- The draft after all words of a line. -/
def feedAll (draft : Draft) : List Word → Except Departure Draft
  | [] => .ok draft
  | word :: rest => do (← draft.feed word).feedAll rest

/-- What is left over when no word follows. -/
def remainder (draft : Draft) : List String :=
  match draft.expected with
  | .audio => draft.leftOver ++ ["--"]
  | _ => draft.leftOver

/-- The request that a draft stands for when no word follows. -/
def finish (draft : Draft) : Except Departure Request :=
  match draft.expected, draft.audio, draft.remainder with
  | .value _ option, _, _ => .error (.misused (.valueMissing option))
  | _, none, _ => .error (.misused .audioMissing)
  | _, some audio, [] => .ok ⟨audio, draft.wishes⟩
  | _, some _, words => .error (.misused (.unrecognized words))

end Draft

/-- Reads a command line. -/
def ofLine (line : List String) : Except Departure Request :=
  match Word.classifyAll line with
  | .error complaint => .error (.misused complaint)
  | .ok words => do (← Draft.empty.feedAll words).finish

end Request

end SoundGrid

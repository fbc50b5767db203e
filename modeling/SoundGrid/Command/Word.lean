import SoundGrid.Command.Option
import SoundGrid.Text.Character
import SoundGrid.Text.Quoted

/-!
# Words of a command line

Every word of a command line is taken for an option, for a plain word, or for
the separator behind which all words are plain.  An option can be spelled in
full or by a beginning that no other option has, and it can have a text
attached: after an equals sign, or directly after a short spelling.  A spelling
with its equals sign is looked for first.  Negative numbers and words with
blanks in them are plain even though they begin with a dash.
-/

namespace SoundGrid

/-- What is wrong with a command line. -/
inductive Complaint where
  | ambiguous (word : String) (spellings : List String)
  | valueMissing (option : CommandOption)
  | valueIgnored (option : CommandOption) (value : String)
  | notAnInteger (option : CommandOption) (value : String)
  | notADouble (option : CommandOption) (value : String)
  | audioMissing
  | unrecognized (words : List String)

namespace Complaint

/-- A complaint about one option. -/
def about (option : CommandOption) (text : String) : String :=
  s!"argument {option.title}: {text}"

/-- The wording of a complaint. -/
def message : Complaint → String
  | ambiguous word spellings =>
      s!"ambiguous option: {word} could match " ++ ", ".intercalate spellings
  | valueMissing option => about option "expected one argument"
  | valueIgnored option value =>
      about option s!"ignored explicit argument {Text.quoted value}"
  | notAnInteger option value =>
      about option s!"invalid int value: {Text.quoted value}"
  | notADouble option value =>
      about option s!"invalid float value: {Text.quoted value}"
  | audioMissing => "the following arguments are required: audio"
  | unrecognized words => "unrecognized arguments: " ++ " ".intercalate words

end Complaint

/-- An option as a word names it. -/
structure Mention where
  option : CommandOption
  /--
  Whether the spelling is a short one, behind which letters of more options can
  stand.
  -/
  short : Bool
  /--
  What stands behind the spelling in the same word, without an equals sign.
  -/
  attached : Option (List Char)

/-- What a word is taken for. -/
inductive WordKind where
  | plain
  | separator
  /-- The word looks like an option but is none. -/
  | stranger
  | option (mention : Mention)

/-- A word with what it is taken for. -/
structure Word where
  text : String
  kind : WordKind

namespace Word

/-- The two sides of the first equals sign. -/
def splitAtEquals : List Char → Option (List Char × List Char)
  | [] => none
  | '=' :: rest => some ([], rest)
  | character :: rest =>
      (splitAtEquals rest).map fun (before, after) =>
        (character :: before, after)

/-- Whether a spelling is a short one: not two dashes. -/
def isShort (spelling : List Char) : Bool :=
  (spelling.drop 1).head? != some '-'

/-- Whether a character is a decimal digit of some script. -/
def isDecimal (character : Char) : Bool :=
  (Text.digitValue? character).isSome

/-- Digits, or a point between digits of which the last ones are needed. -/
def isUnsigned (text : List Char) : Bool :=
  let whole := text.takeWhile isDecimal
  match text.dropWhile isDecimal with
  | [] => !whole.isEmpty
  | '.' :: fraction => !fraction.isEmpty && fraction.all isDecimal
  | _ => false

/-- A text without a line feed at its end. -/
def dropLineFeed (text : List Char) : List Char :=
  if text.getLast? = some '\n' then text.dropLast else text

/-- Whether a word is a negative number without an exponent. -/
def isNegativeNumber (word : List Char) : Bool :=
  match word with
  | '-' :: rest => isUnsigned (dropLineFeed rest)
  | _ => false

/--
A word that is a full spelling, possibly with a value after an equals sign.
-/
def full? (word : List Char) : Option WordKind :=
  match CommandOption.spelled? word with
  | some option => some (.option ⟨option, isShort word, none⟩)
  | none =>
      match splitAtEquals word with
      | none => none
      | some (spelling, value) =>
          (CommandOption.spelled? spelling).map fun option =>
            .option ⟨option, isShort spelling, some value⟩

/-- What a word that is not a full spelling can be meant for. -/
def meanings (word : List Char) : List (List Char × WordKind) :=
  if isShort word then
    let spelling := word.take 2
    match CommandOption.spelled? spelling with
    | some option => [(spelling, .option ⟨option, true, some (word.drop 2)⟩)]
    | none => []
  else
    let (beginning, attached) :=
      match splitAtEquals word with
      | some (before, after) => (before, some after)
      | none => (word, none)
    (CommandOption.completions beginning).map fun (spelling, option) =>
      (spelling, .option ⟨option, false, attached⟩)

/-- What a word in front of the separator is taken for. -/
def classify (text : String) : Except Complaint WordKind :=
  let word := text.toList
  if word.head? != some '-' then .ok .plain
  else
    match full? word with
    | some kind => .ok kind
    | none =>
        if word.length = 1 then .ok .plain
        else
          match meanings word with
          | [(_, kind)] => .ok kind
          | [] =>
              if isNegativeNumber word || word.contains ' ' then .ok .plain
              else .ok .stranger
          | several =>
              .error (.ambiguous text (several.map fun (spelling, _) =>
                String.ofList spelling))

/-- The words of a command line with what they are taken for. -/
def classifyAll : List String → Except Complaint (List Word)
  | [] => .ok []
  | "--" :: rest =>
      .ok (⟨"--", .separator⟩ :: rest.map fun text => ⟨text, .plain⟩)
  | text :: rest => do
      let kind ← classify text
      let words ← classifyAll rest
      pure (⟨text, kind⟩ :: words)

end Word

end SoundGrid

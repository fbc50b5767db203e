/-!
# Options

The options of the command line.  Every option has a long spelling, some have
a short one, and some take a value.  Where options are listed, they come in
the order of their declaration, short spellings first.
-/

namespace SoundGrid

/-- The options of the command line. -/
inductive CommandOption where
  | help
  | output
  | level
  | config
  | seed
  | shuffleRules
  | width
  | height
  | cellSize
  | rate
  | window
  | maxDuration
  | verbose
deriving DecidableEq

namespace CommandOption

/-- The options in order. -/
def all : List CommandOption :=
  [help, output, level, config, seed, shuffleRules, width, height, cellSize,
    rate, window, maxDuration, verbose]

/-- The spellings of an option, a short one first. -/
def spellings : CommandOption → List String
  | help => ["-h", "--help"]
  | output => ["-o", "--output"]
  | level => ["-l", "--level"]
  | config => ["--config"]
  | seed => ["--seed"]
  | shuffleRules => ["--shuffle-rules"]
  | width => ["--width"]
  | height => ["--height"]
  | cellSize => ["--cell-size"]
  | rate => ["-f", "--fps"]
  | window => ["--window"]
  | maxDuration => ["--max-duration"]
  | verbose => ["-v", "--verbose"]

/-- Whether an option takes a value. -/
def takesValue : CommandOption → Bool
  | help | shuffleRules | verbose => false
  | _ => true

/-- All spellings of an option, as messages name it. -/
def title (option : CommandOption) : String :=
  "/".intercalate option.spellings

/-- Every spelling with its option. -/
def table : List (List Char × CommandOption) :=
  all.flatMap fun option => option.spellings.map fun spelling =>
    (spelling.toList, option)

/-- The option with a spelling. -/
def spelled? (spelling : List Char) : Option CommandOption :=
  table.lookup spelling

/-- The spellings that begin with a text, with their options. -/
def completions (beginning : List Char) : List (List Char × CommandOption) :=
  table.filter fun (spelling, _) => beginning.isPrefixOf spelling

end CommandOption

end SoundGrid

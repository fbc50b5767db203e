/-!
# Locations

Places in a file system, by the names on the way to them.  A text denotes a
location by its parts between slashes; empty parts and single dots say nothing
and are dropped, while a double dot is kept, because where it leads depends on
the file system.
-/

namespace SoundGrid

/-- A place in a file system. -/
structure Location where
  /--
  The slashes in front: none for a relative place, one or two for an absolute
  one.
  -/
  slashes : Nat
  parts : List String
deriving DecidableEq

namespace Location

/-- The parts of a text between slashes. -/
def split : List Char → List (List Char)
  | [] => [[]]
  | '/' :: rest => [] :: split rest
  | character :: rest =>
      match split rest with
      | [] => [[character]]
      | first :: others => (character :: first) :: others

/-- Whether a part names anything. -/
def isName (part : List Char) : Bool :=
  !part.isEmpty && part != ['.']

/-- The slashes that count among those at the beginning of a text. -/
def leadingSlashes (text : List Char) : Nat :=
  match (text.takeWhile (· == '/')).length with
  | 0 => 0
  | 2 => 2
  | _ => 1

/-- The location that a text denotes. -/
def ofText (text : String) : Location where
  slashes := leadingSlashes text.toList
  parts := ((split text.toList).filter isName).map String.ofList

/-- The text of a location; a dot for the place where one is. -/
def toText (location : Location) : String :=
  if location.slashes = 0 ∧ location.parts.isEmpty then "."
  else "".pushn '/' location.slashes ++ "/".intercalate location.parts

instance : ToString Location := ⟨toText⟩

/-- The last part of a location, if it has parts. -/
def name? (location : Location) : Option String :=
  location.parts.getLast?

/--
A name without its extension: what stands before the last dot, unless that
dot is the first or the last character.
-/
def stem (name : String) : String :=
  let reversed := name.toList.reverse
  let extension := reversed.takeWhile (· != '.')
  let before := (reversed.dropWhile (· != '.')).drop 1
  if extension.isEmpty || before.isEmpty then name
  else String.ofList before.reverse

/-- The place inside a folder under a name. -/
def child (location : Location) (name : String) : Location :=
  { location with parts := location.parts ++ [name] }

/-- The place beside a location under another name. -/
def sibling (location : Location) (name : String) : Location :=
  { location with parts := location.parts.dropLast ++ [name] }

/-- The folder that holds a location. -/
def parent (location : Location) : Location :=
  { location with parts := location.parts.dropLast }

@[simp]
theorem name?_child (location : Location) (name : String) :
    (location.child name).name? = some name := by
  simp [child, name?]

/-- Different names make different places inside a folder. -/
theorem child_injective (location : Location) {first second : String}
    (same : location.child first = location.child second) : first = second := by
  have names := congrArg name? same
  simpa using names

end Location

end SoundGrid

import SoundGrid.Fault
import SoundGrid.Location

/-!
# File trees

What stands at a location.  A tree knows the files below a working directory;
the folders are those on the way to its files.  Above the working directory it
knows that there are folders, and nothing else.

Names and whole locations have a greatest length in bytes.  A name that is too
long is noticed when the way to it has been gone.
-/

namespace SoundGrid

/-- What stands at a location. -/
inductive Entry where
  | file (bytes : List UInt8)
  /-- Something that cannot be read as a file, such as a folder. -/
  | folder

namespace Location

/-- The greatest length of a name, in bytes. -/
def longestName : Nat := 255

/-- The greatest length of a location, in bytes. -/
def longestText : Nat := 4095

/-- Whether a name is too long to be looked up. -/
def isLongName (name : String) : Bool :=
  longestName < name.utf8ByteSize

/-- Whether a location is too long to be looked up. -/
def isLong (location : Location) : Bool :=
  longestText < location.toText.utf8ByteSize

/--
Whether a location can be written down for a lookup: no part holds a null
character.
-/
def isWritable (location : Location) : Bool :=
  location.parts.all fun part => !part.contains '\x00'

/-- The locations on the way to a location, which comes last. -/
def way (location : Location) : List Location :=
  (List.range location.parts.length).map fun position =>
    { location with parts := location.parts.take (position + 1) }

end Location

/-- Files with the names that lead to them from the working directory. -/
structure FileTree where
  files : List (List String × List UInt8)

namespace FileTree

/-- Where a walk through a tree can be. -/
inductive Position where
  | below (parts : List String)
  /-- Above the working directory. -/
  | above

/-- Whether some names lead to a folder. -/
def isFolder (tree : FileTree) (parts : List String) : Bool :=
  parts.isEmpty || tree.files.any fun (way, _) =>
    parts.length < way.length && parts.isPrefixOf way

/-- What stands at a position, if anything does. -/
def entry? (tree : FileTree) : Position → Option Entry
  | .above => some .folder
  | .below parts =>
      match tree.files.lookup parts with
      | some bytes => some (.file bytes)
      | none => if tree.isFolder parts then some .folder else none

/--
The position behind one more name; nothing has a name known above the working
directory.
-/
def next? : Position → String → Option Position
  | .above, ".." => some .above
  | .above, _ => none
  | .below [], ".." => some .above
  | .below parts, ".." => some (.below parts.dropLast)
  | .below parts, name => some (.below (parts ++ [name]))

/-- What the names behind a position lead to. -/
def walk (tree : FileTree) :
    Option Position → List String → Except Fault (Option Entry)
  | none, _ => .ok none
  | some position, [] => .ok (tree.entry? position)
  | some position, name :: rest =>
      match tree.entry? position with
      | some .folder =>
          if Location.isLongName name then .error (.misuse .longName)
          else tree.walk (next? position name) rest
      | _ => .ok none

/-- Where the names of a location are counted from. -/
def start (location : Location) : Position :=
  if location.slashes = 0 then .below [] else .above

/-- What stands at a location. -/
def find (tree : FileTree) (location : Location) :
    Except Fault (Option Entry) :=
  if !location.isWritable then .ok none
  else if location.isLong then .error (.misuse .longName)
  else tree.walk (some (start location)) location.parts

/--
The names from the working directory to a location below it, without steps back.
-/
def direct? (location : Location) : Option (List String) :=
  if location.slashes = 0 then
    location.parts.foldlM (fun parts name =>
      match next? (.below parts) name with
      | some (.below next) => some next
      | _ => none) []
  else
    none

end FileTree

end SoundGrid

/-!
# Texts

The texts of documents.  Such a text consists of code points, and a document
can also name halves of surrogate pairs that stand alone.  They are no
characters, so a text is more than a `String`; where only a `String` makes
sense, a text that holds a half has none.  Texts are ordered by the numbers of
their code points.
-/

namespace SoundGrid

/-- An element of a text. -/
inductive CodePoint where
  | character (value : Char)
  /-- Half of a surrogate pair, counted from the first one. -/
  | half (position : Fin 2048)
deriving DecidableEq

namespace CodePoint

/-- The number of the first half of a surrogate pair. -/
def firstHalf : Nat := 0xd800

/-- The number of a code point. -/
def number : CodePoint → Nat
  | character value => value.toNat
  | half position => firstHalf + position

/-- The character that a code point is. -/
def character? : CodePoint → Option Char
  | character value => some value
  | half _ => none

/-- The code point with a number below that of the last one. -/
def ofNumber (number : Nat) : CodePoint :=
  if inside : number - firstHalf < 2048 ∧ firstHalf ≤ number then
    half ⟨number - firstHalf, inside.1⟩
  else
    character (Char.ofNat number)

end CodePoint

/-- A text of a document. -/
structure Text where
  points : List CodePoint
deriving DecidableEq, Inhabited

namespace Text

/-- The text that a string is. -/
def ofString (string : String) : Text :=
  ⟨string.toList.map .character⟩

instance : Coe String Text := ⟨ofString⟩

/-- The characters of code points that are all characters. -/
def characters? : List CodePoint → Option (List Char)
  | [] => some []
  | point :: rest => do
      let character ← point.character?
      let others ← characters? rest
      pure (character :: others)

/-- The string that a text is, unless it holds half of a surrogate pair. -/
def string? (text : Text) : Option String :=
  (characters? text.points).map String.ofList

theorem characters?_map (characters : List Char) :
    characters? (characters.map .character) = some characters := by
  induction characters with
  | nil => rfl
  | cons character rest ih => simp [characters?, CodePoint.character?, ih]

@[simp]
theorem string?_ofString (string : String) :
    (ofString string).string? = some string := by
  simp [string?, ofString, characters?_map]

/-- Different strings are different texts. -/
theorem ofString_injective {first second : String}
    (same : ofString first = ofString second) : first = second := by
  have strings := congrArg string? same
  simpa using strings

/-- Whether a text has no code points. -/
def isEmpty (text : Text) : Bool :=
  text.points.isEmpty

/-- Whether a text comes before another. -/
def before (first second : Text) : Bool :=
  first.points.map CodePoint.number < second.points.map CodePoint.number

/-- The texts of the single code points. -/
def split (text : Text) : List Text :=
  text.points.map fun point => ⟨[point]⟩

end Text

end SoundGrid

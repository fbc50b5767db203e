/-!
# Characters

Classes of characters and what is done with them.  Classes beyond ASCII are
given by the ranges of code points that belong to them, in ascending order.
There are two classes of digits: the decimal digits of every script (general
category Nd), which can be read as numbers, and the wider class of characters
whose numeric type is Decimal or Digit, which also holds superscripts and
circled digits.
-/

namespace SoundGrid.Text

/-! ## Ranges of code points -/

/-- Closed ranges of code points, ascending and apart from one another. -/
abbrev Ranges := Array (Nat × Nat)

namespace Ranges

/--
The range that holds a code point, by halving the candidates between `low`
and `high`.
-/
def findBetween (ranges : Ranges) (code low high : Nat) : Option (Nat × Nat) :=
  if low < high then
    let middle := (low + high) / 2
    match ranges[middle]? with
    | none => none
    | some (first, last) =>
        if code < first then
          ranges.findBetween code low middle
        else if last < code then
          ranges.findBetween code (middle + 1) high
        else
          some (first, last)
  else
    none
termination_by high - low

/-- The range that holds a character. -/
def find? (ranges : Ranges) (character : Char) : Option (Nat × Nat) :=
  ranges.findBetween character.toNat 0 ranges.size

/-- Whether a character lies in one of the ranges. -/
def holds (ranges : Ranges) (character : Char) : Bool :=
  (ranges.find? character).isSome

end Ranges

/-! ## Digits -/

/-- The decimal digits; every range starts with a zero and counts up in tens. -/
def decimalDigits : Ranges :=
  #[
    (0x30, 0x39), (0x660, 0x669), (0x6f0, 0x6f9), (0x7c0, 0x7c9),
      (0x966, 0x96f), (0x9e6, 0x9ef), (0xa66, 0xa6f), (0xae6, 0xaef),
      (0xb66, 0xb6f), (0xbe6, 0xbef), (0xc66, 0xc6f), (0xce6, 0xcef),
      (0xd66, 0xd6f), (0xde6, 0xdef), (0xe50, 0xe59), (0xed0, 0xed9),
      (0xf20, 0xf29), (0x1040, 0x1049), (0x1090, 0x1099), (0x17e0, 0x17e9),
    (0x1810, 0x1819), (0x1946, 0x194f), (0x19d0, 0x19d9), (0x1a80, 0x1a89),
    (0x1a90, 0x1a99), (0x1b50, 0x1b59), (0x1bb0, 0x1bb9), (0x1c40, 0x1c49),
    (0x1c50, 0x1c59), (0xa620, 0xa629), (0xa8d0, 0xa8d9), (0xa900, 0xa909),
    (0xa9d0, 0xa9d9), (0xa9f0, 0xa9f9), (0xaa50, 0xaa59), (0xabf0, 0xabf9),
    (0xff10, 0xff19), (0x104a0, 0x104a9), (0x10d30, 0x10d39),
    (0x11066, 0x1106f), (0x110f0, 0x110f9), (0x11136, 0x1113f),
    (0x111d0, 0x111d9), (0x112f0, 0x112f9), (0x11450, 0x11459),
    (0x114d0, 0x114d9), (0x11650, 0x11659), (0x116c0, 0x116c9),
    (0x11730, 0x11739), (0x118e0, 0x118e9), (0x11950, 0x11959),
    (0x11c50, 0x11c59), (0x11d50, 0x11d59), (0x11da0, 0x11da9),
    (0x16a60, 0x16a69), (0x16ac0, 0x16ac9), (0x16b50, 0x16b59),
    (0x1d7ce, 0x1d7ff), (0x1e140, 0x1e149), (0x1e2f0, 0x1e2f9),
    (0x1e950, 0x1e959), (0x1fbf0, 0x1fbf9)]

/-- The characters of numeric type Digit that are not decimal digits. -/
def otherDigits : Ranges :=
  #[
    (0xb2, 0xb3), (0xb9, 0xb9), (0x1369, 0x1371), (0x19da, 0x19da),
      (0x2070, 0x2070), (0x2074, 0x2079), (0x2080, 0x2089), (0x2460, 0x2468),
      (0x2474, 0x247c), (0x2488, 0x2490), (0x24ea, 0x24ea), (0x24f5, 0x24fd),
      (0x24ff, 0x24ff), (0x2776, 0x277e), (0x2780, 0x2788), (0x278a, 0x2792),
      (0x10a40, 0x10a43), (0x10e60, 0x10e68), (0x11052, 0x1105a),
    (0x1f100, 0x1f10a)]

/-- The value of a decimal digit. -/
def digitValue? (character : Char) : Option Nat :=
  if '0' ≤ character ∧ character ≤ '9' then
    some (character.toNat - '0'.toNat)
  else if character.toNat < 128 then
    none
  else
    (decimalDigits.find? character).map fun (first, _) =>
      (character.toNat - first) % 10

/-- Whether the numeric type of a character is Decimal or Digit. -/
def isDigit (character : Char) : Bool :=
  (digitValue? character).isSome || otherDigits.holds character

/-! ## White space -/

/-- Whether a character has the property White_Space. -/
def isBlank (character : Char) : Bool :=
  let code := character.toNat
  (9 ≤ code && code ≤ 13) || code == 0x20 || code == 0x85 || code == 0xa0 ||
    code == 0x1680 || (0x2000 ≤ code && code ≤ 0x200a) || code == 0x2028 ||
    code == 0x2029 || code == 0x202f || code == 0x205f || code == 0x3000

/-- The text without the blanks at its two ends. -/
def trim (text : List Char) : List Char :=
  ((text.dropWhile isBlank).reverse.dropWhile isBlank).reverse

/-! ## Upper case -/

/--
The upper-case form of a character, which may be more than one, as far as it
leads to ASCII.  Besides the letters a to z these are the dotless i, the long s,
the sharp s and the Latin ligatures.  All other characters stay as they are, and
so do not turn into ASCII letters.
-/
def upperChar (character : Char) : List Char :=
  match character.toNat with
  | 0xdf => ['S', 'S']
  | 0x131 => ['I']
  | 0x17f => ['S']
  | 0xfb00 => ['F', 'F']
  | 0xfb01 => ['F', 'I']
  | 0xfb02 => ['F', 'L']
  | 0xfb03 => ['F', 'F', 'I']
  | 0xfb04 => ['F', 'F', 'L']
  | 0xfb05 => ['S', 'T']
  | 0xfb06 => ['S', 'T']
  | _ => [character.toUpper]

/-- A text in upper case. -/
def upper (text : String) : String :=
  String.ofList (text.toList.flatMap upperChar)

end SoundGrid.Text

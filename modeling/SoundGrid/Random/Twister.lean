import SoundGrid.Random

/-!
# The Mersenne Twister

MT19937 over 32-bit words, seeded by a list of words.  A fraction is made of
two words, 27 bits of the first and 26 of the second.  An index below a bound
is made of as many bits as the bound has; a number that is not below the
bound is thrown away and the draw repeated.
-/

namespace SoundGrid.Random

/-- The state words and the position of the next one. -/
structure Twister where
  words : Array UInt32
  position : Nat

namespace Twister

/-- The number of state words. -/
def size : Nat := 624

/-- The distance of the words that are mixed together. -/
def distance : Nat := 397

/-- A state word. -/
def word (words : Array UInt32) (index : Nat) : UInt32 :=
  words.getD index 0

/-- Fills the state from one word. -/
def fillFrom (words : Array UInt32) (last : UInt32) : Nat → Array UInt32
  | 0 => words
  | count + 1 =>
      let next :=
        (1812433253 : UInt32) * (last ^^^ (last >>> 30)) + words.size.toUInt32
      fillFrom (words.push next) next count

/-- The state that one word generates. -/
def ofWord (seed : UInt32) : Array UInt32 :=
  fillFrom #[seed] seed (size - 1)

/-- The next position; the last word is carried to the front at the end. -/
def wrap (words : Array UInt32) (index : Nat) : Array UInt32 × Nat :=
  if size ≤ index then
    (words.setIfInBounds 0 (word words (size - 1)), 1)
  else
    (words, index)

/-- Mixes the key into the state, one word a step. -/
def mixKey (key : Array UInt32) :
    Nat → Nat → Nat → Array UInt32 → Array UInt32 × Nat
  | 0, index, _, words => (words, index)
  | count + 1, index, place, words =>
      let last := word words (index - 1)
      let mixed := (word words index ^^^ ((last ^^^ (last >>> 30)) * 1664525)) +
        key.getD place 0 + place.toUInt32
      let (next, nextIndex) :=
        wrap (words.setIfInBounds index mixed) (index + 1)
      let nextPlace := if key.size ≤ place + 1 then 0 else place + 1
      mixKey key count nextIndex nextPlace next

/-- Mixes the state with itself, one word a step. -/
def mixPositions : Nat → Nat → Array UInt32 → Array UInt32
  | 0, _, words => words
  | count + 1, index, words =>
      let last := word words (index - 1)
      let mixed :=
        (word words index ^^^ ((last ^^^ (last >>> 30)) * 1566083941)) -
        index.toUInt32
      let (next, nextIndex) :=
        wrap (words.setIfInBounds index mixed) (index + 1)
      mixPositions count nextIndex next

/-- The number of words of 32 bits. -/
def wordRange : Nat := 4294967296

/-- The 32-bit words of a natural number, the lowest first; at least one. -/
def keyOf (number : Nat) : Array UInt32 :=
  if number < wordRange then
    #[number.toUInt32]
  else
    #[(number % wordRange).toUInt32] ++ keyOf (number / wordRange)
termination_by number
decreasing_by
  simp only [wordRange] at *
  omega

/-- The generator for a seed; the sign of the seed does not count. -/
def ofSeed (seed : Int) : Twister :=
  let key := keyOf seed.natAbs
  let (mixed, index) := mixKey key (max size key.size) 1 0 (ofWord 19650218)
  let words := mixPositions (size - 1) index mixed
  ⟨words.setIfInBounds 0 0x80000000, size⟩

/-- The state word that replaces the one at an index. -/
def renewed (words : Array UInt32) (index : Nat) : UInt32 :=
  let joined := (word words index &&& 0x80000000) |||
    (word words ((index + 1) % size) &&& 0x7fffffff)
  let mixed := word words ((index + distance) % size) ^^^ (joined >>> 1)
  if joined &&& 1 == 0 then mixed else mixed ^^^ 0x9908b0df

/-- Replaces the last `count` state words, in ascending order. -/
def renew : Nat → Array UInt32 → Array UInt32
  | 0, words => words
  | count + 1, words =>
      let index := size - (count + 1)
      renew count (words.setIfInBounds index (renewed words index))

/-- Scrambles a state word on its way out. -/
def temper (raw : UInt32) : UInt32 :=
  let first := raw ^^^ (raw >>> 11)
  let second := first ^^^ ((first <<< 7) &&& 0x9d2c5680)
  let third := second ^^^ ((second <<< 15) &&& 0xefc60000)
  third ^^^ (third >>> 18)

/-- The next 32 bits. -/
def next (source : Twister) : UInt32 × Twister :=
  if source.position < size then
    (temper (word source.words source.position),
      { source with position := source.position + 1 })
  else
    let words := renew size source.words
    (temper (word words 0), ⟨words, 1⟩)

/-- A fraction from two words. -/
def fraction (source : Twister) : Fraction × Twister :=
  let (high, afterHigh) := source.next
  let (low, rest) := afterHigh.next
  let numerator := (high >>> 5).toNat * 67108864 + (low >>> 6).toNat
  (Fin.ofNat _ numerator, rest)

/-- A number of so many bits; the first words drawn are the lowest. -/
def bits (source : Twister) (count : Nat) : Nat × Twister :=
  let (drawn, rest) := source.next
  if count ≤ 32 then
    ((drawn >>> (32 - count).toUInt32).toNat, rest)
  else
    let (higher, last) := rest.bits (count - 32)
    (drawn.toNat + wordRange * higher, last)
termination_by count

/--
Draws numbers of so many bits until one is below the bound.  After the given
number of refusals the last number is reduced instead; the chance of that is
below two to the power of minus that number.
-/
def below (bound bitCount : Nat) : Nat → Twister → Nat × Twister
  | 0, source =>
      let (drawn, rest) := source.bits bitCount
      (drawn % bound, rest)
  | refusals + 1, source =>
      let (drawn, rest) := source.bits bitCount
      if drawn < bound then (drawn, rest)
      else below bound bitCount refusals rest

/-- So many refusals in a row do not happen. -/
def mostRefusals : Nat := 4096

theorem below_lt {bound : Nat} (bitCount refusals : Nat) (source : Twister)
    (positive : 0 < bound) :
    (below bound bitCount refusals source).1 < bound := by
  induction refusals generalizing source with
  | zero => exact Nat.mod_lt _ positive
  | succ refusals ih =>
      simp only [below]
      split
      · assumption
      · exact ih _

instance : RandomSource Twister where
  fraction := fraction
  below bound := below bound (bound.log2 + 1) mostRefusals
  below_lt _ source positive := below_lt _ _ source positive

end Twister

end SoundGrid.Random

/-!
# Random sources

What the simulation asks of a source of randomness: a fraction with 53 binary
places, and an index below a bound.  A source is a value; drawing returns the
drawn number and the source that is left.  Everything that draws is written
over this class, so its laws hold whatever the generator is.
-/

namespace SoundGrid

/--
A fraction in [0, 1) with 53 binary places, by its numerator over two to the 53.
-/
abbrev Fraction := Fin 9007199254740992

/-- Sources of random fractions and indices. -/
class RandomSource (Source : Type) where
  /-- Draws a fraction. -/
  fraction : Source → Fraction × Source
  /-- Draws an index below a bound. -/
  below : Nat → Source → Nat × Source
  /-- Below a positive bound there is an index to draw. -/
  below_lt : ∀ (bound : Nat) (source : Source), 0 < bound →
    (below bound source).1 < bound

namespace Random

variable {Source Item : Type} [RandomSource Source]

/--
Exchanges each entry from position `last` down to the second with one at or
before it, drawn from the source.
-/
def shuffleFrom (items : Array Item) : Nat → Source → Array Item × Source
  | 0, source => (items, source)
  | last + 1, source =>
      let (chosen, rest) := RandomSource.below (last + 2) source
      shuffleFrom (items.swapIfInBounds (last + 1) chosen) last rest

/-- A random permutation of the items. -/
def shuffle (items : Array Item) (source : Source) : Array Item × Source :=
  shuffleFrom items (items.size - 1) source

end Random

end SoundGrid

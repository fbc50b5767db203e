/-!
# UTF-8

Strict decoding.  A byte sequence that is too long for its character, that
stands for half of a surrogate pair, or that goes beyond the last code point
is refused at its first byte, and so is a sequence that breaks off.
-/

namespace SoundGrid.Text.Utf8

/-- What is wrong with a byte sequence. -/
inductive Reason where
  | start
  | continuation
  | ending
deriving DecidableEq

/--
The bytes that cannot be decoded: where they start, how many, the first, and
why.
-/
structure Defect where
  position : Nat
  length : Nat
  first : Nat
  reason : Reason
deriving DecidableEq

/--
The bytes that may follow a first byte directly, and how many follow in all.
-/
def follow? (first : Nat) : Option (Nat × Nat × Nat) :=
  if 0xc2 ≤ first ∧ first ≤ 0xdf then some (1, 0x80, 0xbf)
  else if first = 0xe0 then some (2, 0xa0, 0xbf)
  else if first = 0xed then some (2, 0x80, 0x9f)
  else if 0xe1 ≤ first ∧ first ≤ 0xef then some (2, 0x80, 0xbf)
  else if first = 0xf0 then some (3, 0x90, 0xbf)
  else if 0xf1 ≤ first ∧ first ≤ 0xf3 then some (3, 0x80, 0xbf)
  else if first = 0xf4 then some (3, 0x80, 0x8f)
  else none

/-- The bits of a first byte that belong to the code point. -/
def leadBits (count first : Nat) : Nat :=
  first % Nat.pow 2 (6 - count)

/--
Reads the bytes that a character still needs.  `low` and `high` bound the next
one, `taken` counts those that were read.
-/
def readTail (low high code taken : Nat) :
    Nat → List Nat → Except (Nat × Reason) (Nat × List Nat)
  | 0, rest => .ok (code, rest)
  | _ + 1, [] => .error (taken, .ending)
  | count + 1, byte :: rest =>
      if low ≤ byte ∧ byte ≤ high then
        readTail 0x80 0xbf (64 * code + byte % 64) (taken + 1) count rest
      else
        .error (taken, .continuation)

/--
Decodes bytes from a position on; `done` holds the characters before it, last
one first.  The fuel bounds the number of characters.
-/
def decodeFrom (position : Nat) (done : List Char) :
    Nat → List Nat → Except Defect String
  | _, [] => .ok (String.ofList done.reverse)
  | 0, _ => .ok (String.ofList done.reverse)
  | fuel + 1, first :: rest =>
      if first < 0x80 then
        decodeFrom (position + 1) (Char.ofNat first :: done) fuel rest
      else
        match follow? first with
        | none => .error ⟨position, 1, first, .start⟩
        | some (count, low, high) =>
            match readTail low high (leadBits count first) 1 count rest with
            | .error (taken, reason) => .error ⟨position, taken, first, reason⟩
            | .ok (code, after) =>
                decodeFrom (position + count + 1)
                  (Char.ofNat code :: done) fuel after

/-- The text that bytes stand for. -/
def decode (bytes : List Nat) : Except Defect String :=
  decodeFrom 0 [] bytes.length bytes

end SoundGrid.Text.Utf8

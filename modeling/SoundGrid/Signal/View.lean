import SoundGrid.Signal.Slice

/-!
# Signal views

A read-only view of a signal in which one entry is replaced.  It behaves as
the list of the signal with that entry replaced would; when the replaced
position lies outside the signal, it behaves as the signal itself.
-/

namespace SoundGrid

/-- The item at a position, counted from the end when negative. -/
def pick? {Value : Type} (signal : Array Value)
    (position : Int) : Option Value :=
  let position := if position < 0 then position + signal.size else position
  if 0 ≤ position then signal[position.toNat]? else none

/-- The item at a position, refused outside the signal. -/
def pick {Value : Type} (signal : Array Value)
    (position : Int) : Except Fault Value :=
  match pick? signal position with
  | some value => .ok value
  | none => .error (.misuse .indexOutside)

/-- A signal with the entry at `index` replaced by `value`. -/
structure SignalView (Value : Type) where
  base : Array Value
  index : Int
  value : Value

namespace SignalView

variable {Value : Type}

/-- The number of entries. -/
def size (view : SignalView Value) : Nat :=
  view.base.size

/-- The entry at a position, counted from the end when negative. -/
def get (view : SignalView Value) (position : Int) : Except Fault Value :=
  let position := if position < 0 then position + view.size else position
  if 0 ≤ position ∧ position < view.size then
    if position = view.index then .ok view.value else pick view.base position
  else
    .error (.rejected .signalIndex)

/-- The entries at some positions. -/
def getAll (view : SignalView Value) : List Int → Except Fault (List Value)
  | [] => .ok []
  | position :: rest => do
      let value ← view.get position
      let values ← view.getAll rest
      pure (value :: values)

/-- All positions in ascending order. -/
def positions (view : SignalView Value) : List Int :=
  (List.range view.size).map Int.ofNat

/-- The entries in order. -/
def entries (view : SignalView Value) : Except Fault (List Value) :=
  view.getAll view.positions

/-- The entries in reverse order. -/
def reversed (view : SignalView Value) : Except Fault (List Value) :=
  view.getAll view.positions.reverse

/-- The entries that a slice picks. -/
def slice (view : SignalView Value) (slice : Slice) :
    Except Fault (List Value) := do
  view.getAll (← slice.positions view.size)

/-- The first of some positions whose entry passes a test. -/
def findAmong (view : SignalView Value) (test : Value → Except Fault Bool) :
    List Int → Except Fault (Option Int)
  | [] => .ok none
  | position :: rest => do
      let value ← view.get position
      if ← test value then pure (some position) else view.findAmong test rest

/-- Whether some entry passes a test. -/
def contains (view : SignalView Value) (test : Value → Except Fault Bool) :
    Except Fault Bool := do
  pure (← view.findAmong test view.positions).isSome

/-- How many of some entries pass a test. -/
def countAmong (test : Value → Except Fault Bool) :
    List Value → Except Fault Nat
  | [] => .ok 0
  | value :: rest => do
      let passes ← test value
      let count ← countAmong test rest
      pure (if passes then count + 1 else count)

/-- How many entries pass a test. -/
def count (view : SignalView Value) (test : Value → Except Fault Bool) :
    Except Fault Nat := do
  countAmong test (← view.entries)

/-- The positions of the view from a start on and before a stop. -/
def between (view : SignalView Value) (start : Int)
    (stop : Option Int) : List Int :=
  let first := if start < 0 then max (view.size + start) 0 else start
  let last :=
    match stop with
    | none => (view.size : Int)
    | some bound => if bound < 0 then bound + view.size else bound
  view.positions.filter fun position => first ≤ position ∧ position < last

/-- The first position between two bounds whose entry passes a test. -/
def indexOf (view : SignalView Value) (test : Value → Except Fault Bool)
    (start : Int) (stop : Option Int) : Except Fault Int := do
  match ← view.findAmong test (view.between start stop) with
  | some position => pure position
  | none => throw (.misuse .absent)

end SignalView

/-- What a condition hears: a signal as it is, or a view of one. -/
inductive Heard (Value : Type) where
  | bare (signal : Array Value)
  | view (view : SignalView Value)

namespace Heard

variable {Value : Type}

/-- The number of samples. -/
def size : Heard Value → Nat
  | .bare signal => signal.size
  | .view shown => shown.size

/-- The sample at a position, counted from the end when negative. -/
def get (heard : Heard Value) (position : Int) : Except Fault Value :=
  match heard with
  | .bare signal => pick signal position
  | .view shown => shown.get position

/-- The samples at some positions. -/
def getAll (heard : Heard Value) : List Int → Except Fault (List Value)
  | [] => .ok []
  | position :: rest => do
      let value ← heard.get position
      let values ← heard.getAll rest
      pure (value :: values)

/-- The samples that a slice picks. -/
def slice (heard : Heard Value) (slice : Slice) :
    Except Fault (List Value) := do
  heard.getAll (← slice.positions heard.size)

end Heard

end SoundGrid

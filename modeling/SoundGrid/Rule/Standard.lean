import SoundGrid.Rule

/-!
# The standard rules

Loud samples turn a cell on, quiet ones turn it off, and samples in the flip
window flip it now and then.  The conditions read the settings in force, so a
change of a setting counts from the next reading on.
-/

namespace SoundGrid.Rule.Standard

variable {Real Value Source : Type} [Arithmetic Real Value]
  [RandomSource Source]

open Arithmetic in
/-- Holds when the own sample is above the loud threshold. -/
def loud : Rule Real Value Source where
  name := "loud"
  action := .on
  condition reading := Chance.lift do
    above (← reading.own) (setting reading.settings.loudThreshold)

open Arithmetic in
/-- Holds when the own sample is below the quiet threshold. -/
def quiet : Rule Real Value Source where
  name := "quiet"
  action := .off
  condition reading := Chance.lift do
    less (← reading.own) (setting reading.settings.quietThreshold)

open Arithmetic in
/-- Whether the own sample lies in the flip window. -/
def inWindow (reading : Reading Real Value) : Except Fault Bool := do
  let sample ← reading.own
  if ← less (setting reading.settings.flipMin) sample then
    less sample (setting reading.settings.flipMax)
  else
    pure false

open Arithmetic in
/-- Holds by chance when the own sample lies in the flip window. -/
def midFlip : Rule Real Value Source where
  name := "mid_flip"
  action := .flip
  condition reading := do
    if ← Chance.lift (inWindow reading) then
      let drawn ← Chance.fraction
      Chance.lift
        (above (fraction drawn : Value) (setting reading.settings.flipChance))
    else
      pure false

/-- The rules that a grid has unless it is given others. -/
def rules : List (Rule Real Value Source) :=
  [loud, quiet, midFlip]

end SoundGrid.Rule.Standard

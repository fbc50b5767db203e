/-!
# Progress reports

What is printed while frames are made.  On a terminal one line is redrawn with
a bar of thirty ticks, and the line ends with the last frame.  Elsewhere a
line is printed for every tenth part of the frames, and for the last one.
-/

namespace SoundGrid.Progress

/-- The number of ticks of a full bar. -/
def barLength : Int := 30

/-- A text filled up with blanks on the left to a width. -/
def padLeft (width : Nat) (text : String) : String :=
  "".pushn ' ' (width - text.length) ++ text

/-- A text filled up with blanks on the right to a width. -/
def padRight (width : Nat) (text : String) : String :=
  text.pushn ' ' (width - text.length)

/-- The ticks for so many frames of a positive number. -/
def ticks (done total : Int) : Int :=
  done * barLength / total

/-- The line that is redrawn on a terminal. -/
def terminalLine (done total : Int) : String :=
  let bar := padRight barLength.toNat ("".pushn '=' (ticks done total).toNat)
  let ending := if total ≤ done then "\n" else ""
  s!"\r  frames {padLeft 6 (toString done)}/{total} |{bar}|{ending}"

/-- The distance of the frames that are reported elsewhere. -/
def interval (total : Int) : Int :=
  max 1 (total / 10)

/-- Whether a line is printed for a number of frames. -/
def isReported (done total : Int) : Bool :=
  total ≤ done || done % interval total == 0

/-- What is printed for a number of frames, of which there is at least one. -/
def text (terminal : Bool) (done total : Int) : String :=
  let total := max total 1
  if terminal then terminalLine done total
  else if isReported done total then s!"  frames {done}/{total}\n"
  else ""

end SoundGrid.Progress

import SoundGrid.Arithmetic
import SoundGrid.Cell
import SoundGrid.Command.Option
import SoundGrid.Command.Plan
import SoundGrid.Command.Request
import SoundGrid.Command.Session
import SoundGrid.Command.Word
import SoundGrid.Configuration
import SoundGrid.Datum
import SoundGrid.Datum.Display
import SoundGrid.Datum.Document
import SoundGrid.Ensemble
import SoundGrid.Fault
import SoundGrid.Grid
import SoundGrid.Grid.Advance
import SoundGrid.Grid.Control
import SoundGrid.Grid.Neighbours
import SoundGrid.Level
import SoundGrid.Location
import SoundGrid.Location.Tree
import SoundGrid.Loudness
import SoundGrid.Main
import SoundGrid.Mapping
import SoundGrid.Number
import SoundGrid.Number.Arithmetic
import SoundGrid.Number.Literal
import SoundGrid.Number.Notation
import SoundGrid.Number.Scaled
import SoundGrid.Number.Shortest
import SoundGrid.Picture
import SoundGrid.Picture.Look
import SoundGrid.Picture.Png
import SoundGrid.Picture.Shade
import SoundGrid.Playback
import SoundGrid.Progress
import SoundGrid.Proofs.Chance
import SoundGrid.Proofs.Command.Ending
import SoundGrid.Proofs.Command.Frames
import SoundGrid.Proofs.Command.Listing
import SoundGrid.Proofs.Command.Naming
import SoundGrid.Proofs.Command.Opening
import SoundGrid.Proofs.Command.Plan
import SoundGrid.Proofs.Command.Session
import SoundGrid.Proofs.Configuration.Grammar
import SoundGrid.Proofs.Configuration.Refusal
import SoundGrid.Proofs.Configuration.RoundTrip
import SoundGrid.Proofs.Datum.Number
import SoundGrid.Proofs.Datum.Record
import SoundGrid.Proofs.Ensemble.Event
import SoundGrid.Proofs.Ensemble.Isolation
import SoundGrid.Proofs.Exact.Blending
import SoundGrid.Proofs.Exact.Decay
import SoundGrid.Proofs.Exact.Loudness
import SoundGrid.Proofs.Exact.Smoothing
import SoundGrid.Proofs.Exact.UnitInterval
import SoundGrid.Proofs.Exact.Value
import SoundGrid.Proofs.Fault
import SoundGrid.Proofs.Grid.Agreement
import SoundGrid.Proofs.Grid.Atomicity
import SoundGrid.Proofs.Grid.Call
import SoundGrid.Proofs.Grid.Coupling
import SoundGrid.Proofs.Grid.Crowding
import SoundGrid.Proofs.Grid.Draws
import SoundGrid.Proofs.Grid.Edit
import SoundGrid.Proofs.Grid.Exclusive
import SoundGrid.Proofs.Grid.Hearing
import SoundGrid.Proofs.Grid.IndexOrder
import SoundGrid.Proofs.Grid.Interruption
import SoundGrid.Proofs.Grid.Layout
import SoundGrid.Proofs.Grid.LiveNeighbours
import SoundGrid.Proofs.Grid.Lockstep
import SoundGrid.Proofs.Grid.Lookup
import SoundGrid.Proofs.Grid.Neighbourhood
import SoundGrid.Proofs.Grid.Operation
import SoundGrid.Proofs.Grid.OtherRules
import SoundGrid.Proofs.Grid.Repetition
import SoundGrid.Proofs.Grid.Ripple
import SoundGrid.Proofs.Grid.RuleOrder
import SoundGrid.Proofs.Grid.Shape
import SoundGrid.Proofs.Grid.Shuffle
import SoundGrid.Proofs.Grid.Storing
import SoundGrid.Proofs.Grid.Sweep
import SoundGrid.Proofs.Grid.SwitchOff
import SoundGrid.Proofs.Grid.WrapSafety
import SoundGrid.Proofs.Level
import SoundGrid.Proofs.Loudness.Levelling
import SoundGrid.Proofs.Loudness.Total
import SoundGrid.Proofs.Mapping
import SoundGrid.Proofs.Number.Accuracy
import SoundGrid.Proofs.Number.Double
import SoundGrid.Proofs.Number.Literal
import SoundGrid.Proofs.Number.Magnitude
import SoundGrid.Proofs.Number.Narrowing
import SoundGrid.Proofs.Number.Packing
import SoundGrid.Proofs.Number.Place
import SoundGrid.Proofs.Number.Product
import SoundGrid.Proofs.Number.Rank
import SoundGrid.Proofs.Number.Root
import SoundGrid.Proofs.Number.Rounding
import SoundGrid.Proofs.Number.Sum
import SoundGrid.Proofs.Number.Whole
import SoundGrid.Proofs.Number.Widening
import SoundGrid.Proofs.Picture.Channel
import SoundGrid.Proofs.Picture.Colour
import SoundGrid.Proofs.Picture.Pixel
import SoundGrid.Proofs.Picture.Render
import SoundGrid.Proofs.Picture.Shade
import SoundGrid.Proofs.Playback.Act
import SoundGrid.Proofs.Playback.Frame
import SoundGrid.Proofs.Playback.Run
import SoundGrid.Proofs.Playback.Signal
import SoundGrid.Proofs.Playback.Trace
import SoundGrid.Proofs.Procedure
import SoundGrid.Proofs.Progress
import SoundGrid.Proofs.Random
import SoundGrid.Proofs.Random.Draws
import SoundGrid.Proofs.Recording.Count
import SoundGrid.Proofs.Recording.Frame
import SoundGrid.Proofs.Recording.Window
import SoundGrid.Proofs.Rule.Draws
import SoundGrid.Proofs.Rule.Exclusive
import SoundGrid.Proofs.Rule.Order
import SoundGrid.Proofs.Rule.Search
import SoundGrid.Proofs.Sample.Floating
import SoundGrid.Proofs.Sample.Fraction
import SoundGrid.Proofs.Sample.Meeting
import SoundGrid.Proofs.Sample.Threshold
import SoundGrid.Proofs.Settings.Assignment
import SoundGrid.Proofs.Settings.Category
import SoundGrid.Proofs.Settings.Check
import SoundGrid.Proofs.Settings.Grammar
import SoundGrid.Proofs.Settings.Names
import SoundGrid.Proofs.Settings.OneByOne
import SoundGrid.Proofs.Settings.Refusal
import SoundGrid.Proofs.Settings.Replacement
import SoundGrid.Proofs.Settings.RoundTrip
import SoundGrid.Proofs.Settings.Validity
import SoundGrid.Proofs.Signal.Replaced
import SoundGrid.Proofs.Signal.Slice
import SoundGrid.Proofs.Signal.View
import SoundGrid.Proofs.Text.Numeral
import SoundGrid.Random
import SoundGrid.Random.Twister
import SoundGrid.Recording
import SoundGrid.Recording.Wave
import SoundGrid.Rule
import SoundGrid.Rule.Formula
import SoundGrid.Rule.Standard
import SoundGrid.Sample
import SoundGrid.Settings
import SoundGrid.Settings.Accept
import SoundGrid.Settings.Document
import SoundGrid.Signal.Format
import SoundGrid.Signal.Slice
import SoundGrid.Signal.View
import SoundGrid.Text
import SoundGrid.Text.Character
import SoundGrid.Text.Printable
import SoundGrid.Text.Quoted
import SoundGrid.Text.Utf8

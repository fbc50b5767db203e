import SoundGrid.Recording

/-!
# Wave files

Sound files with samples of 16 bits: a header that names the number of
channels and the rate, and the samples of all channels in turn.  A file
consists of chunks, each with a name and a length; chunks other than the two
that matter are skipped.

A recording is made from a file by taking the mean over the channels.  Samples
become singles between -1 and 1.
-/

namespace SoundGrid

/-- The contents of a wave file. -/
structure Wave where
  channels : Nat
  rate : Nat
  /-- The samples, channel by channel in turn. -/
  samples : List Int
deriving DecidableEq

namespace Wave

/-! ## Numbers as bytes -/

/-- The lowest bytes of a number, lowest first. -/
def toBytes : Nat → Nat → List UInt8
  | 0, _ => []
  | width + 1, number =>
      UInt8.ofNat (number % 256) :: toBytes width (number / 256)

/-- The number that bytes stand for, lowest first. -/
def ofBytes : List UInt8 → Nat
  | [] => 0
  | byte :: rest => byte.toNat + 256 * ofBytes rest

/-- A sample as two bytes. -/
def sampleBytes (sample : Int) : List UInt8 :=
  toBytes 2 (sample % 65536).toNat

/-- The sample that a number of sixteen bits stands for. -/
def signed (number : Nat) : Int :=
  if number < 32768 then number else number - 65536

/-- The samples that bytes stand for; a single byte at the end is left out. -/
def samplesOf : List UInt8 → List Int
  | low :: high :: rest => signed (ofBytes [low, high]) :: samplesOf rest
  | _ => []

/-! ## Chunks -/

/-- The bytes of a chunk's name. -/
def tag (name : String) : List UInt8 :=
  name.toList.map fun character => UInt8.ofNat character.toNat

/-- A chunk with its name and its length; an odd length is made even. -/
def chunk (name : String) (content : List UInt8) : List UInt8 :=
  tag name ++ toBytes 4 content.length ++ content ++
    List.replicate (content.length % 2) 0

/--
The content of the first chunk with a name.  The fuel bounds the number of
chunks that are looked at.
-/
def findChunk (name : List UInt8) : Nat → List UInt8 → Option (List UInt8)
  | 0, _ => none
  | fuel + 1, bytes =>
      if bytes.length < 8 then none
      else
        let length := ofBytes ((bytes.drop 4).take 4)
        let content := bytes.drop 8
        if bytes.take 4 = name then some (content.take length)
        else findChunk name fuel (content.drop (length + length % 2))

/-! ## Files -/

/-- The content of the chunk that describes the samples. -/
def description (wave : Wave) : List UInt8 :=
  toBytes 2 1 ++ toBytes 2 wave.channels ++ toBytes 4 wave.rate ++
    toBytes 4 (wave.rate * wave.channels * 2) ++
      toBytes 2 (wave.channels * 2) ++
    toBytes 2 16

/-- The bytes of the file for a wave. -/
def encode (wave : Wave) : List UInt8 :=
  let body :=
    tag "WAVE" ++ chunk "fmt " wave.description ++
      chunk "data" (wave.samples.flatMap sampleBytes)
  tag "RIFF" ++ toBytes 4 body.length ++ body

/-- The number of some bytes of a chunk. -/
def field (content : List UInt8) (position width : Nat) : Nat :=
  ofBytes ((content.drop position).take width)

/--
The wave in a file, if it holds samples of 16 bits on at least one channel.
-/
def decode? (bytes : List UInt8) : Option Wave := do
  guard (bytes.take 4 = tag "RIFF" ∧ (bytes.drop 8).take 4 = tag "WAVE")
  let chunks := bytes.drop 12
  let format ← findChunk (tag "fmt ") chunks.length chunks
  let data ← findChunk (tag "data") chunks.length chunks
  guard (16 ≤ format.length)
  guard (field format 0 2 = 1 ∧ field format 14 2 = 16)
  let channels := field format 2 2
  guard (0 < channels)
  pure ⟨channels, field format 4 4, samplesOf data⟩

/-! ## Recordings -/

/-- A sample as a single between -1 and 1. -/
def amplitude (sample : Int) : Float32 :=
  Number.Single.ofDouble (Number.Double.ofInt sample / 32768.0)

/-- The mean of amplitudes. -/
def mean (channels : Nat) (amplitudes : List Float32) : Float32 :=
  match amplitudes with
  | [] => Number.Single.ofDouble 0.0
  | [only] => only
  | first :: rest =>
      rest.foldl (· + ·) first /
        Number.Single.ofDouble (Number.Double.ofNat channels)

/--
The means of samples in groups of one per channel; an incomplete group at the
end is left out.  The fuel bounds the number of groups.
-/
def mix (channels : Nat) : Nat → List Int → List Float32
  | 0, _ => []
  | fuel + 1, samples =>
      let group := samples.take channels
      if group.length < channels then []
      else mean channels (group.map amplitude) ::
        mix channels fuel (samples.drop channels)

/-- The rate of recordings, in samples per second. -/
def recordingRate : Nat := 22050

/-- The recording of a wave. -/
def toRecording (wave : Wave) : Recording where
  format := .single
  samples := ((mix wave.channels wave.samples.length wave.samples).map
    Sample.single).toArray
  rate := .int wave.rate

/-- The recording in a file; it has to have the rate of recordings. -/
def load (bytes : List UInt8) : Except Fault Recording :=
  match decode? bytes with
  | some wave =>
      if wave.rate = recordingRate then .ok wave.toRecording
      else .error (.misuse .unknownSound)
  | none => .error (.misuse .unknownSound)

end Wave

end SoundGrid

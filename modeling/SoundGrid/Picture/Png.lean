import SoundGrid.Picture

/-!
# Pictures as files

The bytes of a PNG file with eight bits per channel.  The pixels are stored
line by line without a filter, and the data stream is made of stored blocks,
so that nothing is compressed.
-/

namespace SoundGrid.Picture.Png

/-- The lowest bytes of a number, highest first. -/
def bigEndian (width number : Nat) : List UInt8 :=
  ((List.range width).map fun position =>
    UInt8.ofNat (number / Nat.pow 256 position % 256)).reverse

/-- The lowest bytes of a number, lowest first. -/
def littleEndian (width number : Nat) : List UInt8 :=
  (bigEndian width number).reverse

/-! ## Check sums -/

/-- One step of the division that makes up a cyclic check sum. -/
def shiftCheck (remainder : UInt32) : UInt32 :=
  if remainder &&& 1 = 1 then (remainder >>> 1) ^^^ 0xedb88320
    else remainder >>> 1

/-- Eight steps of the division, for one byte. -/
def feedCheck (remainder : UInt32) (byte : UInt8) : UInt32 :=
  Nat.repeat shiftCheck 8 (remainder ^^^ byte.toUInt32)

/-- The cyclic check sum of bytes. -/
def cyclicCheck (bytes : List UInt8) : UInt32 :=
  bytes.foldl feedCheck 0xffffffff ^^^ 0xffffffff

/-- The modulus of the two sums of a data stream. -/
def modulus : Nat := 65521

/--
The check sum of a data stream: the sum of the bytes, and the sum of the sums.
-/
def streamCheck (bytes : List UInt8) : Nat :=
  let (sum, sums) := bytes.foldl (fun (sum, sums) byte =>
    let next := (sum + byte.toNat) % modulus
    (next, (sums + next) % modulus)) (1, 0)
  sums * 65536 + sum

/-! ## The file -/

/-- The length up to which a block is stored. -/
def blockLength : Nat := 65535

/-- A stored block; the last one of a stream is marked. -/
def block (last : Bool) (bytes : List UInt8) : List UInt8 :=
  (if last then 1 else 0) :: littleEndian 2 bytes.length ++
    littleEndian 2 (65535 - bytes.length) ++ bytes

/-- Bytes in stored blocks.  The fuel bounds the number of blocks. -/
def blocks : Nat → List UInt8 → List UInt8
  | 0, bytes => block true bytes
  | fuel + 1, bytes =>
      if bytes.length ≤ blockLength then block true bytes
      else block false (bytes.take blockLength) ++
        blocks fuel (bytes.drop blockLength)

/-- A data stream of stored blocks. -/
def stream (bytes : List UInt8) : List UInt8 :=
  [0x78, 0x01] ++ blocks (bytes.length / blockLength) bytes ++
    bigEndian 4 (streamCheck bytes)

/-- A chunk with its name, its length and its check sum. -/
def chunk (name : String) (content : List UInt8) : List UInt8 :=
  let named :=
    name.toList.map (fun character => UInt8.ofNat character.toNat) ++ content
  bigEndian 4 content.length ++ named ++ bigEndian 4 (cyclicCheck named).toNat

/-- The bytes of a pixel. -/
def pixelBytes (pixel : Pixel) : List UInt8 :=
  [pixel.red, pixel.green, pixel.blue]

/-- The bytes of a line, behind the mark for a line without a filter. -/
def lineBytes (pixels : Array Pixel) : List UInt8 :=
  0 :: pixels.toList.flatMap pixelBytes

/-- The bytes in front of all chunks. -/
def signature : List UInt8 :=
  [0x89, 0x50, 0x4e, 0x47, 0x0d, 0x0a, 0x1a, 0x0a]

/-- The content of the chunk that describes a picture. -/
def header (picture : Picture) : List UInt8 :=
  bigEndian 4 picture.width ++ bigEndian 4 picture.height ++ [8, 2, 0, 0, 0]

/-- The bytes of the file for a picture. -/
def encode (picture : Picture) : List UInt8 :=
  signature ++ chunk "IHDR" (header picture) ++
    chunk "IDAT" (stream (picture.rows.toList.flatMap lineBytes)) ++
      chunk "IEND" []

end SoundGrid.Picture.Png

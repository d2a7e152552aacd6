import SolarCharts.Chart.Picture

/-!
# PNG files

A picture as the octets of a PNG file: a white canvas of its size, one grey octet a pixel. The image
data is stored without compression.
-/

namespace SolarCharts.Png

/-! ## Checksums -/

/-- The steps of the cyclic checksum for the eight bits of an octet. -/
def crcSteps : Nat → UInt32 → UInt32
  | 0, c => c
  | n + 1, c => crcSteps n (if c % 2 = 1 then (0xedb88320 : UInt32) ^^^ (c >>> 1) else c >>> 1)

/-- The cyclic checksum of some octets. -/
def crc (octets : List UInt8) : UInt32 :=
  let last := octets.foldl (fun c b => crcSteps 8 (c ^^^ b.toUInt32)) 0xffffffff
  last ^^^ 0xffffffff

/-- The two running sums over some octets, modulo the greatest prime below 2^16. -/
def adler (octets : List UInt8) : UInt32 :=
  let (low, high) := octets.foldl
    (fun (low, high) b =>
      let low := (low + b.toNat) % 65521
      (low, (high + low) % 65521))
    (1, 0)
  (high * 65536 + low).toUInt32

/-! ## Parts -/

/-- A number as four octets. -/
def fourOctets (n : UInt32) : List UInt8 :=
  [(n >>> 24).toUInt8, (n >>> 16).toUInt8, (n >>> 8).toUInt8, n.toUInt8]

/-- A part of a file, with its size before it and its checksum behind it. -/
def chunk (name : String) (octets : List UInt8) : List UInt8 :=
  let named := name.toUTF8.toList ++ octets
  fourOctets octets.length.toUInt32 ++ named ++ fourOctets (crc named)

/-- The most octets that one block stores. -/
def blockSize : Nat := 65535

/-- A block that stores octets, and whether it is the last one. -/
def block (isLast : Bool) (octets : List UInt8) : List UInt8 :=
  let n := octets.length
  let two (n : Nat) : List UInt8 := [n.toUInt8, (n / 256).toUInt8]
  (if isLast then 1 else 0) :: (two n ++ two (65535 - n) ++ octets)

/-- Octets in blocks, given how many blocks are needed at most. -/
def blocks : Nat → List UInt8 → List UInt8
  | 0, octets => block true octets
  | n + 1, octets =>
    if octets.length ≤ blockSize then block true octets
    else block false (octets.take blockSize) ++ blocks n (octets.drop blockSize)

/-- Octets as a stream that stores them. -/
def stored (octets : List UInt8) : List UInt8 :=
  [0x78, 0x01] ++ blocks (octets.length / blockSize) octets ++ fourOctets (adler octets)

/-- A white canvas, line by line; each line starts with the octet that says it is not filtered. -/
def canvas (size : Size) : List UInt8 :=
  (List.replicate size.height (0 :: List.replicate size.width 255)).flatten

/-- The file of a picture. -/
def octets (picture : Picture) : List UInt8 :=
  let size := picture.size
  [0x89, 0x50, 0x4e, 0x47, 0x0d, 0x0a, 0x1a, 0x0a]
    ++ chunk "IHDR"
      (fourOctets size.width.toUInt32 ++ fourOctets size.height.toUInt32 ++ [8, 0, 0, 0, 0])
    ++ chunk "IDAT" (stored (canvas size))
    ++ chunk "IEND" []

end SolarCharts.Png

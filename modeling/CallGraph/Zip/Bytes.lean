/-!
# Bytes of an archive

Numbers in a byte sequence, least significant byte first, and the CRC-32 check of a whole sequence.
-/

namespace CallGraph.Zip

/-- The number in the `width` bytes from `pos` on. -/
def number? (data : ByteArray) (pos : Nat) : (width : Nat) → Option Nat
  | 0 => some 0
  | width + 1 =>
    match data[pos]? with
    | none => none
    | some b => (number? data (pos + 1) width).map fun high => b.toNat + 256 * high

/-- The bytes from `pos` on, `count` of them. -/
def slice? (data : ByteArray) (pos count : Nat) : Option ByteArray :=
  if pos + count ≤ data.size then some (data.extract pos (pos + count)) else none

/-- One bit of a CRC-32 division, with the polynomial in reflected form. -/
def crcBit (crc : UInt32) : UInt32 :=
  if crc &&& 1 = 1 then (crc >>> 1) ^^^ 0xEDB88320 else crc >>> 1

def crcByte (crc : UInt32) (b : UInt8) : UInt32 :=
  Nat.repeat crcBit 8 (crc ^^^ b.toUInt32)

/-- The CRC-32 checksum. -/
def crc32 (data : ByteArray) : UInt32 :=
  data.foldl crcByte 0xFFFFFFFF ^^^ 0xFFFFFFFF

end CallGraph.Zip

/-!
The CRC-32 checksum of a byte string (the reflected polynomial `0xEDB88320`, starting from all
ones and finishing by inverting all bits), the check value of zip files and Ethernet frames.

Each byte is folded into the register one bit at a time: shift right, and when the bit shifted
out was set, add the polynomial.
-/

namespace StudioRental

namespace Crc32

/-- The reflected generator polynomial. -/
def polynomial : UInt32 := 0xEDB88320

/-- Fold one bit of input into the register. -/
def shiftBit (r : UInt32) : UInt32 :=
  if r &&& 1 == 1 then (r >>> 1) ^^^ polynomial else r >>> 1

/-- Fold one byte into the register. -/
def addByte (r : UInt32) (b : UInt8) : UInt32 :=
  (List.range 8).foldl (fun r _ => shiftBit r) (r ^^^ b.toUInt32)

/-- The checksum of a byte string. -/
def ofBytes (bytes : ByteArray) : UInt32 :=
  ~~~(bytes.foldl addByte 0xFFFFFFFF)

end Crc32

end StudioRental

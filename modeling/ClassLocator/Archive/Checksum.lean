import ClassLocator.Text.Basic

/-!
# CRC-32

The cyclic redundancy check of the archive format: reflected, with the polynomial 0xEDB88320 and
all bits inverted at either end.
-/

namespace ClassLocator.Checksum

def polynomial : UInt32 := 0xEDB88320

/-- Divides by one more bit. -/
def bitStep (remainder : UInt32) : UInt32 :=
  if remainder &&& 1 = 1 then (remainder >>> 1) ^^^ polynomial else remainder >>> 1

def byteStep (remainder : UInt32) (b : UInt8) : UInt32 :=
  Nat.repeat bitStep 8 (remainder ^^^ b.toUInt32)

def crc32 (bytes : Bytes) : Nat := (bytes.foldl byteStep 0xFFFFFFFF ^^^ 0xFFFFFFFF).toNat

example : crc32 [] = 0 := by decide

end ClassLocator.Checksum

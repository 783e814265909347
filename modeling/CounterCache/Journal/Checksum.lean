/-!
# Record checksums

The CRC-32 of the IEEE polynomial in its reflected form `0xEDB88320`, as used by zlib and
Ethernet: the register starts at all ones, each byte is folded in low bit first, and the result
is the complement of the register. The checksum is stated as a plain fold of a one-bit step over
the bytes, so a law about it is one induction over the byte list.
-/

namespace CounterCache.Journal

/-- The reflected generator polynomial. -/
def crcPoly : UInt32 := 0xEDB88320

/-- One bit of the register shift: divide by the polynomial when the low bit is set. -/
def crcBit (r : UInt32) : UInt32 :=
  if r &&& 1 = 1 then (r >>> 1) ^^^ crcPoly else r >>> 1

/-- Folds one byte into the register. -/
def crcByte (r : UInt32) (b : UInt8) : UInt32 :=
  (List.range 8).foldl (fun r _ => crcBit r) (r ^^^ b.toUInt32)

/-- The CRC-32 of a byte list. -/
def crc32 (bs : List UInt8) : UInt32 :=
  (bs.foldl crcByte 0xFFFFFFFF) ^^^ 0xFFFFFFFF

/-- The checksum of the empty input is zero. -/
theorem crc32_nil : crc32 [] = 0 := rfl

end CounterCache.Journal

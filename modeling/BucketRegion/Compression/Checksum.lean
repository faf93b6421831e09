import BucketRegion.Bytes.Utf8

/-!
# Checksums

The sums that follow compressed octets and tell whether they came through unchanged.
-/

set_option autoImplicit false

namespace BucketRegion.Compression

/-- One step of the division by the polynomial of the cyclic sum, lowest bit first. -/
def crcShift (n : UInt32) : UInt32 :=
  if n % 2 == 1 then (0xEDB88320 : UInt32) ^^^ (n >>> 1) else n >>> 1

/-- Takes an octet into a cyclic sum. -/
def crcStep (n : UInt32) (octet : UInt8) : UInt32 :=
  (List.range 8).foldl (fun n _ => crcShift n) (n ^^^ octet.toUInt32)

/-- The cyclic sum of octets, with 32 bits. -/
def crc32 (octets : Bytes) : Nat :=
  (octets.foldl crcStep 0xFFFFFFFF ^^^ (0xFFFFFFFF : UInt32)).toNat

/-- The largest prime below 2 ^ 16. -/
def adlerBase : Nat := 65521

/-- Two sums of octets, the second one of the values of the first one; both start at 1 and 0. -/
def adler32 (octets : Bytes) : Nat :=
  let (a, b) := octets.foldl (fun (a, b) octet =>
    let a := (a + octet.toNat) % adlerBase
    (a, (b + a) % adlerBase)) (1, 0)
  b * 0x10000 + a

end BucketRegion.Compression

import BucketRegion.Compression.Checksum
import BucketRegion.Compression.Inflate

/-!
# Containers of compressed blocks

Compressed blocks between a header, which tells how they were made, and checksums of what they
stand for. Input that ends early gives what it stands for so far.
-/

set_option autoImplicit false

namespace BucketRegion.Compression

/-- Octets as one number, the lowest first. -/
def littleEndian (octets : Bytes) : Nat :=
  octets.foldr (fun octet n => octet.toNat + 0x100 * n) 0

/-- Octets as one number, the highest first. -/
def bigEndian (octets : Bytes) : Nat :=
  octets.foldl (fun n octet => 0x100 * n + octet.toNat) 0

/-- What blocks stand for, and how many octets are left after them; none if they do not end. -/
def inflateBlocks (octets : Bytes) : Except Fault (Bytes × Option Nat) :=
  (inflate octets).map fun (out, rest?) => (out.toList, rest?.map fun rest => rest.length / 8)

/-- The blocks alone. -/
def decodeRaw (octets : Bytes) : Except Fault Bytes :=
  (inflateBlocks octets).map (·.1)

/-- The blocks after a header of two octets, with a sum after them. -/
def decodeZlib (octets : Bytes) : Except Fault Bytes :=
  match octets with
  | first :: second :: rest =>
      if (first.toNat * 0x100 + second.toNat) % 31 != 0 then .error .header
      else if first.toNat % 16 != 8 then .error .method
      else if 7 < first.toNat / 16 then .error .window
      else if second.toNat / 32 % 2 == 1 then
        if rest.length < 4 then .ok [] else .error .dictionary
      else
        match inflateBlocks rest with
        | .error fault => .error fault
        | .ok (out, none) => .ok out
        | .ok (out, some left) =>
            let sum := (rest.drop (rest.length - left)).take 4
            if sum.length == 4 && bigEndian sum != adler32 out then .error .dataSum else .ok out
  | _ => .ok []

/-- What follows an optional part of a header; none if the input ends in it. -/
abbrev HeaderPart := Bytes → Option Bytes

/-- A part with its length in front. -/
def skipSized : HeaderPart
  | low :: high :: rest =>
      let length := low.toNat + 0x100 * high.toNat
      if rest.length < length then none else some (rest.drop length)
  | _ => none

/-- A part that ends with a zero. -/
def skipTerminated (octets : Bytes) : Option Bytes :=
  match octets.dropWhile (· != 0) with
  | _ :: rest => some rest
  | [] => none

/-- Skips a part if its flag is set. -/
def skipFlagged (isSet : Bool) (part : HeaderPart) (octets : Bytes) : Option Bytes :=
  if isSet then part octets else some octets

/-- What follows the header of a compressed file; none if the input ends in it. -/
def skipFileHeader (octets : Bytes) : Except Fault (Option Bytes) :=
  match octets with
  | first :: second :: rest =>
      if !(first == 0x1F && second == 0x8B) then .error .header
      else
        match rest with
        | method :: flags :: more =>
            if method != 8 then .error .method
            else if 0x20 ≤ flags then .error .headerFlags
            else
              let has (n : Nat) : Bool := flags.toNat.testBit n
              let described :=
                (if more.length < 6 then none else some (more.drop 6)).bind fun rest =>
                  (skipFlagged (has 2) skipSized rest).bind fun rest =>
                    (skipFlagged (has 3) skipTerminated rest).bind fun rest =>
                      skipFlagged (has 4) skipTerminated rest
              match described with
              | none => .ok none
              | some rest =>
                  if !has 1 then .ok (some rest)
                  else
                    match rest with
                    | low :: high :: blocks =>
                        let read := octets.take (octets.length - rest.length)
                        if low.toNat + 0x100 * high.toNat == crc32 read % 0x10000 then
                          .ok (some blocks)
                        else .error .headerSum
                    | _ => .ok none
        | _ => .ok none
  | _ => .ok none

/-- The blocks of a compressed file, with a sum and their length after them. -/
def decodeFile (octets : Bytes) : Except Fault Bytes :=
  match skipFileHeader octets with
  | .error fault => .error fault
  | .ok none => .ok []
  | .ok (some rest) =>
      match inflateBlocks rest with
      | .error fault => .error fault
      | .ok (out, none) => .ok out
      | .ok (out, some left) =>
          let trailer := rest.drop (rest.length - left)
          let sum := trailer.take 4
          let length := (trailer.drop 4).take 4
          if sum.length == 4 && littleEndian sum != crc32 out then .error .dataSum
          else if length.length == 4 && littleEndian length != out.length % 0x100000000 then
            .error .lengthSum
          else .ok out

end BucketRegion.Compression

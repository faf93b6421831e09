import BucketRegion.Bytes.Utf8
import BucketRegion.Compression.Huffman

/-!
# Compressed blocks

The octets that blocks of literals and of repetitions stand for.
-/

set_option autoImplicit false

namespace BucketRegion.Compression

/-- What is wrong with compressed octets. -/
inductive Fault where
  | header
  | method
  | window
  | headerFlags
  | headerSum
  | dictionary
  | blockType
  | storedLengths
  | tooManySymbols
  | lengthCodes
  | lengthRepeat
  | noBlockEnd
  | literalCodes
  | distanceCodes
  | literal
  | distance
  | tooFar
  | dataSum
  | lengthSum
  deriving Repr, DecidableEq

/-- What is said of a fault; nothing of a dictionary that is missing. -/
def Fault.reason? : Fault → Option String
  | .header => some "incorrect header check"
  | .method => some "unknown compression method"
  | .window => some "invalid window size"
  | .headerFlags => some "unknown header flags set"
  | .headerSum => some "header crc mismatch"
  | .dictionary => none
  | .blockType => some "invalid block type"
  | .storedLengths => some "invalid stored block lengths"
  | .tooManySymbols => some "too many length or distance symbols"
  | .lengthCodes => some "invalid code lengths set"
  | .lengthRepeat => some "invalid bit length repeat"
  | .noBlockEnd => some "invalid code -- missing end-of-block"
  | .literalCodes => some "invalid literal/lengths set"
  | .distanceCodes => some "invalid distances set"
  | .literal => some "invalid literal/length code"
  | .distance => some "invalid distance code"
  | .tooFar => some "invalid distance too far back"
  | .dataSum => some "incorrect data check"
  | .lengthSum => some "incorrect length check"

def Fault.message (fault : Fault) : String :=
  match fault.reason? with
  | some reason => "Error -3 while decompressing data: " ++ reason
  | none => "Error 2 while decompressing data"

/-- Octets that have come out, and the bits that follow; none if the input ends before the end of
what is read. -/
abbrev Progress := Except Fault (Array UInt8 × Option Bits)

/-- The bits of octets, the lowest of each octet first. -/
def bitsOf (octets : Bytes) : Bits :=
  octets.flatMap fun octet => (List.range 8).map octet.toNat.testBit

/-- The number that the next bits are, the lowest first. -/
def takeNumber? : Nat → Bits → Option (Nat × Bits)
  | 0, bits => some (0, bits)
  | _ + 1, [] => none
  | n + 1, bit :: bits =>
      (takeNumber? n bits).map fun (number, rest) => (2 * number + bit.toNat, rest)

/-- The bits from the next whole octet on. -/
def align (bits : Bits) : Bits := bits.drop (bits.length % 8)

/-! ## Stored blocks -/

/-- Takes octets as they are. -/
def copyStored : Nat → Array UInt8 → Bits → Array UInt8 × Option Bits
  | 0, out, bits => (out, some bits)
  | n + 1, out, bits =>
      match takeNumber? 8 bits with
      | none => (out, none)
      | some (octet, rest) => copyStored n (out.push octet.toUInt8) rest

def readStored (out : Array UInt8) (bits : Bits) : Progress :=
  match takeNumber? 16 (align bits) with
  | none => .ok (out, none)
  | some (length, rest) =>
      match takeNumber? 16 rest with
      | none => .ok (out, none)
      | some (complement, rest) =>
          if length + complement == 0xFFFF then .ok (copyStored length out rest)
          else .error .storedLengths

/-! ## Coded blocks -/

/-- The symbol that ends a block; smaller ones are octets, greater ones lengths. -/
def blockEnd : Nat := 256

/-- The least length of each length symbol and how many bits are added to it. -/
def lengthTable : List (Nat × Nat) :=
  [(3, 0), (4, 0), (5, 0), (6, 0), (7, 0), (8, 0), (9, 0), (10, 0), (11, 1), (13, 1), (15, 1),
    (17, 1), (19, 2), (23, 2), (27, 2), (31, 2), (35, 3), (43, 3), (51, 3), (59, 3), (67, 4),
    (83, 4), (99, 4), (115, 4), (131, 5), (163, 5), (195, 5), (227, 5), (258, 0)]

/-- The least distance of each distance symbol and how many bits are added to it. -/
def distanceTable : List (Nat × Nat) :=
  [(1, 0), (2, 0), (3, 0), (4, 0), (5, 1), (7, 1), (9, 2), (13, 2), (17, 3), (25, 3), (33, 4),
    (49, 4), (65, 5), (97, 5), (129, 6), (193, 6), (257, 7), (385, 7), (513, 8), (769, 8),
    (1025, 9), (1537, 9), (2049, 10), (3073, 10), (4097, 11), (6145, 11), (8193, 12), (12289, 12),
    (16385, 13), (24577, 13)]

/-- A number of a table's entry with the bits that are added to it. -/
def takeExtra? (entry : Nat × Nat) (bits : Bits) : Option (Nat × Bits) :=
  (takeNumber? entry.2 bits).map fun (extra, rest) => (entry.1 + extra, rest)

/-- Repeats octets that came out `distance` before, which may be among those repeated. -/
def repeatOctets (distance : Nat) : Nat → Array UInt8 → Array UInt8
  | 0, out => out
  | n + 1, out => repeatOctets distance n (out.push (out.getD (out.size - distance) 0))

/-- The distance of a repetition. -/
def readDistance (distances : Code) (bits : Bits) : Except Fault (Option (Nat × Bits)) :=
  match distances.decode bits with
  | .ranOut => .ok none
  | .unknown _ => .error .distance
  | .symbol n rest =>
      match distanceTable[n]? with
      | none => .error .distance
      | some entry => .ok (takeExtra? entry rest)

/-- Reads symbols up to the end of a block; `fuel` bounds them. -/
def readSymbols (literals distances : Code) : Nat → Array UInt8 → Bits → Progress
  | 0, out, _ => .ok (out, none)
  | fuel + 1, out, bits =>
      match literals.decode bits with
      | .ranOut => .ok (out, none)
      | .unknown _ => .error .literal
      | .symbol n rest =>
          if n < blockEnd then readSymbols literals distances fuel (out.push n.toUInt8) rest
          else if n == blockEnd then .ok (out, some rest)
          else
            match lengthTable[n - blockEnd - 1]? with
            | none => .error .literal
            | some entry =>
                match takeExtra? entry rest with
                | none => .ok (out, none)
                | some (length, rest) =>
                    match readDistance distances rest with
                    | .error fault => .error fault
                    | .ok none => .ok (out, none)
                    | .ok (some (distance, rest)) =>
                        if out.size < distance then .error .tooFar
                        else
                          readSymbols literals distances fuel (repeatOctets distance length out) rest

/-- The codes of blocks that bring none of their own. -/
def fixedLiterals : Code :=
  Code.ofLengths (List.replicate 144 8 ++ List.replicate 112 9 ++ List.replicate 24 7 ++
    List.replicate 8 8)

def fixedDistances : Code := Code.ofLengths (List.replicate 32 5)

/-! ## Codes of a block -/

/-- The order in which the lengths of the codes for lengths are written. -/
def lengthOrder : List Nat := [16, 17, 18, 0, 8, 7, 9, 6, 10, 5, 11, 4, 12, 3, 13, 2, 14, 1, 15]

/-- Lengths of three bits each. -/
def takeShortLengths? : Nat → Bits → Option (List Nat × Bits)
  | 0, bits => some ([], bits)
  | n + 1, bits =>
      (takeNumber? 3 bits).bind fun (length, rest) =>
        (takeShortLengths? n rest).map fun (lengths, rest) => (length :: lengths, rest)

/-- A run of equal lengths. -/
def readRun (lengths : List Nat) (symbol : Nat) (bits : Bits) :
    Except Fault (Option (List Nat × Bits)) :=
  let run (length least width : Nat) : Option (List Nat × Bits) :=
    (takeNumber? width bits).map fun (extra, rest) => (List.replicate (least + extra) length, rest)
  if symbol < 16 then .ok (some ([symbol], bits))
  else if symbol == 16 then
    match takeNumber? 2 bits, lengths with
    | none, _ => .ok none
    | some _, [] => .error .lengthRepeat
    | some _, last :: _ => .ok (run last 3 2)
  else if symbol == 17 then .ok (run 0 3 3)
  else .ok (run 0 11 7)

/-- Reads lengths, of which those so far are given, the last one first, until there are `total`;
`fuel` bounds the runs. -/
def readLengths (code : Code) (total : Nat) :
    Nat → List Nat → Bits → Except Fault (Option (List Nat × Bits))
  | 0, _, _ => .ok none
  | fuel + 1, lengths, bits =>
      if total ≤ lengths.length then .ok (some (lengths.reverse, bits))
      else
        let decoded := match code.decode bits with
          | .symbol n rest => some (n, rest)
          | .unknown rest => some (0, rest)
          | .ranOut => none
        match decoded with
        | none => .ok none
        | some (symbol, rest) =>
            match readRun lengths symbol rest with
            | .error fault => .error fault
            | .ok none => .ok none
            | .ok (some (run, rest)) =>
                if total < lengths.length + run.length then .error .lengthRepeat
                else readLengths code total fuel (run ++ lengths) rest

/-- The codes that a block brings for its literals and its distances. -/
def readCodes (bits : Bits) : Except Fault (Option (Code × Code × Bits)) :=
  match takeNumber? 14 bits with
  | none => .ok none
  | some (header, rest) =>
      let literalCount := header % 32 + 257
      let distanceCount := header / 32 % 32 + 1
      let lengthCount := header / 1024 + 4
      if 286 < literalCount || 30 < distanceCount then .error .tooManySymbols
      else
        match takeShortLengths? lengthCount rest with
        | none => .ok none
        | some (short, rest) =>
            let placed := lengthOrder.zip short
            let code := Code.ofLengths ((List.range 19).map fun n => (placed.lookup n).getD 0)
            if !code.isUsable false then .error .lengthCodes
            else
              let total := literalCount + distanceCount
              match readLengths code total (total + 1) [] rest with
              | .error fault => .error fault
              | .ok none => .ok none
              | .ok (some (lengths, rest)) =>
                  let literals := Code.ofLengths (lengths.take literalCount)
                  let distances := Code.ofLengths (lengths.drop literalCount)
                  if lengths.getD blockEnd 0 == 0 then .error .noBlockEnd
                  else if !literals.isUsable true then .error .literalCodes
                  else if !distances.isUsable true then .error .distanceCodes
                  else .ok (some (literals, distances, rest))

/-- One block of a kind. -/
def readBlock (kind : Nat) (out : Array UInt8) (bits : Bits) : Progress :=
  if kind == 0 then readStored out bits
  else if kind == 1 then
    readSymbols fixedLiterals fixedDistances (bits.length + 1) out bits
  else if kind == 2 then
    match readCodes bits with
    | .error fault => .error fault
    | .ok none => .ok (out, none)
    | .ok (some (literals, distances, rest)) =>
        readSymbols literals distances (rest.length + 1) out rest
  else .error .blockType

/-- Reads blocks up to the last one; `fuel` bounds them. -/
def readBlocks : Nat → Array UInt8 → Bits → Progress
  | 0, out, _ => .ok (out, none)
  | fuel + 1, out, bits =>
      match takeNumber? 3 bits with
      | none => .ok (out, none)
      | some (header, rest) =>
          match readBlock (header / 2) out rest with
          | .error fault => .error fault
          | .ok (out, none) => .ok (out, none)
          | .ok (out, some rest) =>
              if header % 2 == 1 then .ok (out, some (align rest)) else readBlocks fuel out rest

/-- The octets that blocks stand for, as far as they are there. -/
def inflate (octets : Bytes) : Progress :=
  let bits := bitsOf octets
  readBlocks (bits.length + 1) #[] bits

end BucketRegion.Compression

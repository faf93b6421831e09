import BucketRegion.Bytes.Utf8

/-!
# Message blocks

Messages as blocks of sixteen words, as both digests read them: the message is closed by a single
bit, zeros up to a full block, and its length in bits.
-/

set_option autoImplicit false

namespace BucketRegion.Digest

/-- The last `width` octets of a number, the highest first. -/
def bigEndian : Nat → Nat → Bytes
  | 0, _ => []
  | width + 1, n => bigEndian width (n / 256) ++ [(n % 256).toUInt8]

/-- A message with its closing bit, zeros and length: a whole number of blocks of 64 octets. -/
def padded (message : Bytes) : Bytes :=
  let size := message.length
  message ++ 0x80 :: List.replicate ((119 - size % 64) % 64) 0 ++ bigEndian 8 (8 * size)

/-- Octets as words of four, the highest octet first. -/
def wordsOf : Bytes → List UInt32
  | a :: b :: c :: d :: rest =>
      (a.toUInt32 <<< 24 ||| b.toUInt32 <<< 16 ||| c.toUInt32 <<< 8 ||| d.toUInt32) :: wordsOf rest
  | _ => []

def octetsOfWord (w : UInt32) : Bytes :=
  bigEndian 4 w.toNat

/-- Words in blocks of sixteen; `fuel` bounds their number. -/
def blocksFrom : Nat → List UInt32 → List (List UInt32)
  | 0, _ => []
  | fuel + 1, ws => if ws.isEmpty then [] else ws.take 16 :: blocksFrom fuel (ws.drop 16)

/-- The blocks of a message. -/
def blocks (message : Bytes) : List (List UInt32) :=
  let ws := wordsOf (padded message)
  blocksFrom ws.length ws

def rotateLeft (w : UInt32) (n : UInt32) : UInt32 :=
  (w <<< n) ||| (w >>> (32 - n))

def rotateRight (w : UInt32) (n : UInt32) : UInt32 :=
  (w >>> n) ||| (w <<< (32 - n))

/-- A schedule grown to `count` more words, newest first, by a rule on what is already there. -/
def expand (next : List UInt32 → UInt32) : Nat → List UInt32 → List UInt32
  | 0, newestFirst => newestFirst
  | count + 1, newestFirst => expand next count (next newestFirst :: newestFirst)

end BucketRegion.Digest

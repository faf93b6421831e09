import BucketRegion.Digest.Block

/-!
# SHA-1

The digest of 160 bits that the older signatures are built on.
-/

set_option autoImplicit false

namespace BucketRegion.Digest.Sha1

/-- Five chained words. -/
structure Chain where
  a : UInt32
  b : UInt32
  c : UInt32
  d : UInt32
  e : UInt32

def Chain.initial : Chain :=
  ⟨0x67452301, 0xefcdab89, 0x98badcfe, 0x10325476, 0xc3d2e1f0⟩

/-- The schedule's next word, from the sixteen before it. -/
def nextWord (newestFirst : List UInt32) : UInt32 :=
  let w (i : Nat) : UInt32 := newestFirst.getD (i - 1) 0
  rotateLeft (w 3 ^^^ w 8 ^^^ w 14 ^^^ w 16) 1

/-- The eighty words of a block's schedule. -/
def schedule (block : List UInt32) : List UInt32 :=
  (expand nextWord 64 block.reverse).reverse

/-- How the words of the chain are mixed in a round, and the round's constant. -/
def mix (s : Chain) (index : Nat) : UInt32 × UInt32 :=
  if index < 20 then ((s.b &&& s.c) ||| (~~~s.b &&& s.d), 0x5a827999)
  else if index < 40 then (s.b ^^^ s.c ^^^ s.d, 0x6ed9eba1)
  else if index < 60 then ((s.b &&& s.c) ||| (s.b &&& s.d) ||| (s.c &&& s.d), 0x8f1bbcdc)
  else (s.b ^^^ s.c ^^^ s.d, 0xca62c1d6)

/-- One round. -/
def round (s : Chain) (input : UInt32 × Nat) : Chain :=
  let (mixed, constant) := mix s input.2
  ⟨rotateLeft s.a 5 + mixed + s.e + constant + input.1, s.a, rotateLeft s.b 30, s.c, s.d⟩

/-- The chain after a block. -/
def absorb (s : Chain) (block : List UInt32) : Chain :=
  let r := (schedule block).zipIdx.foldl round s
  ⟨s.a + r.a, s.b + r.b, s.c + r.c, s.d + r.d, s.e + r.e⟩

/-- The digest of a message, twenty octets. -/
def digest (message : Bytes) : Bytes :=
  let s := (blocks message).foldl absorb .initial
  [s.a, s.b, s.c, s.d, s.e].flatMap octetsOfWord

end BucketRegion.Digest.Sha1

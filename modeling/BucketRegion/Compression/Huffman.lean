/-!
# Codes by lengths

Codes of bits in which no code begins another one, given by the length of each symbol's code:
codes of one length are consecutive numbers in the order of their symbols, shorter ones come first.
-/

set_option autoImplicit false

namespace BucketRegion.Compression

/-- Bits to come, in order. -/
abbrev Bits := List Bool

/-- The greatest length of a code. -/
def maxLength : Nat := 15

/-- A code: how many symbols have codes of each length, from 1 up to the greatest in use, and all
symbols in the order of their codes. -/
structure Code where
  counts : List Nat
  symbols : Array Nat
  deriving Repr

/-- What bits start with. -/
inductive Decoding where
  | symbol (n : Nat) (rest : Bits)
  /-- No code is as the bits are. -/
  | unknown (rest : Bits)
  | ranOut
  deriving Repr

namespace Code

/-- The code in which the symbol at each index has a code of the length given there; symbols of
length 0 have none. -/
def ofLengths (lengths : List Nat) : Code :=
  let lengthsInUse := (List.range maxLength).map (· + 1)
  let counts := lengthsInUse.map lengths.count
  let longest := (lengths.filter (· ≤ maxLength)).foldl max 0
  let symbols := lengthsInUse.flatMap fun length =>
    (lengths.zipIdx.filter fun entry => entry.1 == length).map (·.2)
  ⟨counts.take longest, symbols.toArray⟩

/-- How much room for further codes of the greatest length is left; none if there are too many
codes already. -/
def room? (counts : List Nat) : Option Nat :=
  counts.foldl (fun left? count => left?.bind fun left =>
    if count ≤ 2 * left then some (2 * left - count) else none) (some 1)

/-- Whether the code can be used: it has as many symbols as it can have, or none, or just one where
that is allowed. -/
def isUsable (code : Code) (allowsSingle : Bool) : Bool :=
  match code.counts with
  | [] => true
  | counts =>
      match room? counts with
      | none => false
      | some 0 => true
      | some _ => allowsSingle && counts.length == 1

/-- Reads on where the codes of the next length start at `first`, those of all lengths before are
the first `index`, and the bits so far are `number`. -/
def decodeFrom (symbols : Array Nat) : List Nat → Nat → Nat → Nat → Bits → Decoding
  | _, _, _, _, [] => .ranOut
  | [], _, _, _, _ :: rest => .unknown rest
  | count :: counts, number, first, index, bit :: rest =>
      let number := 2 * number + bit.toNat
      if number < first + count then
        match symbols[index + (number - first)]? with
        | some n => .symbol n rest
        | none => .unknown rest
      else
        match counts with
        | [] => .unknown rest
        | _ => decodeFrom symbols counts number (2 * (first + count)) (index + count) rest

/-- The symbol whose code the bits start with. -/
def decode (code : Code) (bits : Bits) : Decoding :=
  decodeFrom code.symbols code.counts 0 0 0 bits

end Code

end BucketRegion.Compression

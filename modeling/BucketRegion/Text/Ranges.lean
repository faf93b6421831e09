import BucketRegion.Text.Blank

/-!
# Sets of code points

A property of characters is a set of code points, written as text: its ranges in ascending
order, hexadecimal and separated by white space, a range being `first-last` or a single code point.
-/

set_option autoImplicit false

namespace BucketRegion.Text

/-- The value of a hexadecimal digit. -/
def hexValue? (c : Char) : Option Nat :=
  if '0' ≤ c && c ≤ '9' then some (c.toNat - 0x30)
  else if 'a' ≤ c && c ≤ 'f' then some (c.toNat - 0x57)
  else if 'A' ≤ c && c ≤ 'F' then some (c.toNat - 0x37)
  else none

/-- The number whose hexadecimal digits these are; other characters are passed over. -/
def hexNumber (digits : List Char) : Nat :=
  digits.foldl (fun n c => match hexValue? c with | some d => 16 * n + d | none => n) 0

/-- Ascending, disjoint ranges of code points, both ends included. -/
structure CodeSet where
  ranges : Array (Nat × Nat)

namespace CodeSet

/-- Reads the written form of a set. -/
def ofText (text : String) : CodeSet :=
  ⟨(words text).toArray.map fun range =>
    match range.splitOn "-" with
    | [first, last] => (hexNumber first.toList, hexNumber last.toList)
    | _ => (hexNumber range.toList, hexNumber range.toList)⟩

/-- Looks for `n` among the ranges `low ≤ i < high` by halving; `fuel` bounds the halvings. -/
def search (ranges : Array (Nat × Nat)) (n : Nat) : Nat → Nat → Nat → Option Nat
  | 0, _, _ => none
  | fuel + 1, low, high =>
      if low < high then
        let middle := (low + high) / 2
        match ranges[middle]? with
        | none => none
        | some (first, last) =>
            if n < first then search ranges n fuel low middle
            else if last < n then search ranges n fuel (middle + 1) high
            else some middle
      else none

/-- The index of the range that holds a code point. -/
def index? (set : CodeSet) (n : Nat) : Option Nat :=
  search set.ranges n (set.ranges.size + 1) 0 set.ranges.size

def contains (set : CodeSet) (c : Char) : Bool :=
  (set.index? c.toNat).isSome

end CodeSet

end BucketRegion.Text

import BucketRegion.Decimal.Natural
import BucketRegion.Text.Ranges
import BucketRegion.Text.Split

/-!
# Numeric addresses

Which hosts look like numeric addresses, and which of these are well formed.
-/

set_option autoImplicit false

namespace BucketRegion.Url.Address

/-- A number from 0 to 255 without leading zeros. -/
def isOctet (cs : List Char) : Bool :=
  !cs.isEmpty && cs.all Char.isDigit && cs.length ≤ 3 && (cs == ['0'] || cs.head? != some '0') &&
    Decimal.valueOf cs ≤ 255

/-- Four octets between points. -/
def isVersion4 (cs : List Char) : Bool :=
  let parts := Text.splitOn '.' cs
  parts.length == 4 && parts.all isOctet

/-- The ways to read a host as runs of digits with one character between two of them: how many
runs are closed, and whether the present one has a digit. -/
def stepRuns (states : List (Nat × Bool)) (c : Char) : List (Nat × Bool) :=
  (states.flatMap fun (closed, started) =>
    (if c.isDigit then [(closed, true)] else []) ++
      if started && closed < 3 then [(closed + 1, false)] else []).eraseDups

/-- Whether a host is four runs of digits with any one character between two of them. -/
def looksLikeVersion4 (cs : List Char) : Bool :=
  (cs.foldl stepRuns [(0, false)]).contains (3, true)

/-- One to four hexadecimal digits. -/
def isGroup (cs : List Char) : Bool :=
  !cs.isEmpty && cs.length ≤ 4 && cs.all fun c => (Text.hexValue? c).isSome

/-- The groups of an address; a last part with a point stands for two groups and has to be an
address of the older kind. -/
def groups? (cs : List Char) : Option (List (List Char)) :=
  let parts := Text.splitOn ':' cs
  if parts.length < 3 then none
  else
    match parts.getLast? with
    | some last =>
        if last.contains '.' then
          if isVersion4 last then some (parts.dropLast ++ [['0'], ['0']]) else none
        else some parts
    | none => none

/-- Whether groups are eight, or fewer with one gap of at least one group. -/
def areGroups (parts : List (List Char)) : Bool :=
  let inner := (parts.drop 1).dropLast
  match inner.countP List.isEmpty with
  | 0 => parts.length == 8 && parts.all isGroup
  | 1 =>
      let skip := 1 + inner.findIdx List.isEmpty
      let high := parts.take skip
      let low := parts.drop (skip + 1)
      let high := if high == [[]] then [] else high
      let low := if low == [[]] then [] else low
      high.all isGroup && low.all isGroup && high.length + low.length < 8
  | _ => false

/-- Groups between colons, and a zone after a percent sign. -/
def isVersion6 (cs : List Char) : Bool :=
  if cs.contains '/' then false
  else
    let (address, zoneOk) :=
      match Text.cut? '%' cs with
      | none => (cs, true)
      | some (address, zone) => (address, !zone.isEmpty && !zone.contains '%')
    zoneOk && (groups? address).any fun parts => parts.length ≤ 9 && areGroups parts

end BucketRegion.Url.Address

import BucketRegion.Text.Quoted

/-!
# ASCII text

Whether text can be written in ASCII, and what message tells of the first part that cannot.
-/

set_option autoImplicit false

namespace BucketRegion.Text

def isAscii (cs : List Char) : Bool := cs.all fun c => c.toNat < 0x80

/-- The first run of characters beyond ASCII: its first character, where it starts, and how long
it is. -/
structure NotAscii where
  first : Char
  position : Nat
  width : Nat
  deriving Repr, DecidableEq

def NotAscii.message (e : NotAscii) : String :=
  let place :=
    if e.width ≤ 1 then
      "character '" ++ String.ofList (escapeCode e.first.toNat) ++ "' in position " ++
        toString e.position
    else
      "characters in position " ++ toString e.position ++ "-" ++
        toString (e.position + e.width - 1)
  "'ascii' codec can't encode " ++ place ++ ": ordinal not in range(128)"

/-- Looks for characters beyond ASCII from `position` on. -/
def findNotAscii? (position : Nat) : List Char → Option NotAscii
  | [] => none
  | c :: rest =>
      if c.toNat < 0x80 then findNotAscii? (position + 1) rest
      else some ⟨c, position, 1 + (rest.takeWhile fun c => 0x80 ≤ c.toNat).length⟩

/-- What keeps a text from being written in ASCII. -/
def notAscii? (s : String) : Option NotAscii := findNotAscii? 0 s.toList

end BucketRegion.Text

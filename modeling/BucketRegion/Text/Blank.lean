/-!
# Blank characters

Which characters count as white space, and trimming and splitting text at them.
-/

set_option autoImplicit false

namespace BucketRegion.Text

/-- White space of Unicode: the characters of bidirectional class `WS`, `B` or `S` and all
space separators. -/
def isBlank (c : Char) : Bool :=
  let n := c.toNat
  (0x09 ≤ n && n ≤ 0x0D) || (0x1C ≤ n && n ≤ 0x20) || n == 0x85 || n == 0xA0 || n == 0x1680 ||
    (0x2000 ≤ n && n ≤ 0x200A) || n == 0x2028 || n == 0x2029 || n == 0x202F || n == 0x205F ||
    n == 0x3000

/-- White space of ASCII, vertical tab and form feed included. -/
def isAsciiBlank (b : UInt8) : Bool :=
  (0x09 ≤ b && b ≤ 0x0D) || b == 0x20

/-- Drops the elements that satisfy `p` from the end of a list. -/
def dropEndWhile {α : Type} (p : α → Bool) (xs : List α) : List α :=
  (xs.reverse.dropWhile p).reverse

/-- Drops the elements that satisfy `p` from both ends of a list. -/
def trimWhile {α : Type} (p : α → Bool) (xs : List α) : List α :=
  dropEndWhile p (xs.dropWhile p)

/-- Text without the white space around it. -/
def trim (s : String) : String :=
  String.ofList (trimWhile isBlank s.toList)

/-- The maximal runs of non-blank characters, in order. -/
def wordsFrom : List Char → List Char → List (List Char)
  | current, [] => if current.isEmpty then [] else [current.reverse]
  | current, c :: rest =>
      if isBlank c then
        if current.isEmpty then wordsFrom [] rest else current.reverse :: wordsFrom [] rest
      else wordsFrom (c :: current) rest

/-- The words of a text: it is cut at every run of white space. -/
def words (s : String) : List String :=
  (wordsFrom [] s.toList).map String.ofList

/-- Text with every run of white space reduced to one space and none at the ends. -/
def collapseBlanks (s : String) : String :=
  " ".intercalate (words s)

end BucketRegion.Text

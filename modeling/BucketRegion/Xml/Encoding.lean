import BucketRegion.Bytes.Utf8
import BucketRegion.Xml.NameChar

/-!
# Encodings of documents

A document as a list of cells: what its octets denote, place by place. A line end is one cell,
however it is written.
-/

set_option autoImplicit false

namespace BucketRegion.Xml

/-- What the octets at one place denote. -/
inductive Sign where
  | char (c : Char) (role : NameRole)
  /-- A first octet that announces more octets, which are not what they must be. -/
  | broken
  /-- No character that a document can hold. -/
  | bad
  /-- The first octets of a character; the others are missing. -/
  | cut
  deriving Repr, DecidableEq

/-- A sign, where it starts, and how many units of its encoding it takes. -/
structure Cell where
  offset : Nat
  width : Nat
  sign : Sign
  deriving Repr, DecidableEq

/-- How many units signs take together. -/
def totalWidth (cells : List Cell) : Nat :=
  cells.foldl (fun total cell => total + cell.width) 0

/-- How octets stand for characters. -/
inductive Encoding where
  | utf8
  | utf16 (bigEndian : Bool)
  | ascii
  | latin1
  | page (codes : Array (Option Nat))

namespace Encoding

/-- The octets of a unit. -/
def unitSize : Encoding → Nat
  | .utf16 _ => 2
  | _ => 1

/-- The character with number `n`, if documents can hold it. -/
def signOf (role : Char → NameRole) (n : Nat) : Sign :=
  if isAllowed n then .char (Char.ofNat n) (role (Char.ofNat n)) else .bad

/-- The part in names of a character that takes a unit of its own. -/
def singleRole (c : Char) : NameRole :=
  match NameRole.ofChar c with
  | .start => .letter
  | role => role

/-- The part in names of the first 256 characters, where they take a unit of their own: three more
letters start names. -/
def latinRole (c : Char) : NameRole :=
  if c == '\u00AA' || c == '\u00B5' || c == '\u00BA' then .letter else singleRole c

/-- The part in names of a character of one or two 16-bit units. -/
def wideRole (c : Char) : NameRole :=
  if c.toNat < 0x100 then latinRole c else NameRole.ofChar c

/-- How many octets a first octet announces in UTF-8; none if it cannot be one. -/
def announced? (lead : UInt8) : Option Nat :=
  if lead < 0x80 then some 1
  else if lead < 0xC0 then none
  else if lead < 0xE0 then some 2
  else if lead < 0xF0 then some 3
  else if lead < 0xF5 then some 4
  else none

/-- What octets start with, and its width. -/
def headUtf8 (lead : UInt8) (rest : Bytes) : Sign × Nat :=
  match announced? lead with
  | none => (.bad, 1)
  | some count =>
      let held := (rest.take (count - 1)).length + 1
      if held < count then (.cut, held)
      else
        match Utf8.head lead rest with
        | .broken _ _ => (.broken, 1)
        | .char c width =>
            if isAllowed c.toNat then (.char c (NameRole.ofChar c), width)
            else (if width == 1 then .bad else .broken, width)

def cellsUtf8 (offset : Nat) : Bytes → List Cell
  | [] => []
  | lead :: rest =>
      let (sign, width) := headUtf8 lead rest
      ⟨offset, width, sign⟩ :: cellsUtf8 (offset + width) (rest.drop (width - 1))
termination_by octets => octets.length
decreasing_by simp only [List.length_drop, List.length_cons]; omega

/-- Octets in pairs, the high one first. An octet too many is left out. -/
def units (bigEndian : Bool) : Bytes → List Nat
  | a :: b :: rest =>
      (if bigEndian then a.toNat * 0x100 + b.toNat else b.toNat * 0x100 + a.toNat) ::
        units bigEndian rest
  | _ => []

/-- The character of a high surrogate and the unit after it, of which only ten bits count. -/
def pairValue (high low : Nat) : Nat :=
  0x10000 + (high - 0xD800) * 0x400 + low % 0x400

def cellsUtf16 (offset : Nat) : List Nat → List Cell
  | [] => []
  | high :: rest =>
      if 0xD800 ≤ high && high < 0xDC00 then
        match rest with
        | [] => [⟨offset, 1, .cut⟩]
        | low :: more =>
            ⟨offset, 2, signOf wideRole (pairValue high low)⟩ :: cellsUtf16 (offset + 4) more
      else ⟨offset, 1, signOf wideRole high⟩ :: cellsUtf16 (offset + 2) rest

/-- The sign of an octet that stands alone. -/
def single : Encoding → UInt8 → Sign
  | .latin1, octet => signOf latinRole octet.toNat
  | .page codes, octet =>
      match codes[octet.toNat]? with
      | some (some n) => signOf singleRole n
      | _ => .bad
  | _, octet => if octet < 0x80 then signOf singleRole octet.toNat else .bad

def cellsSingle (e : Encoding) (offset : Nat) : Bytes → List Cell
  | [] => []
  | octet :: rest => ⟨offset, 1, e.single octet⟩ :: cellsSingle e (offset + 1) rest

/-- One cell for each line end. A return at the end of the input is left, as the other half of
the line end may be missing. -/
def joinLines : List Cell → List Cell
  | ⟨offset, width, .char '\r' role⟩ :: next :: rest =>
      match next.sign with
      | .char '\n' _ => ⟨offset, width + next.width, .char '\n' role⟩ :: joinLines rest
      | _ => ⟨offset, width, .char '\n' role⟩ :: joinLines (next :: rest)
  | cell :: rest => cell :: joinLines rest
  | [] => []

/-- The cells of octets that start at `offset`. -/
def cells (e : Encoding) (offset : Nat) (octets : Bytes) : List Cell :=
  joinLines <| match e with
    | .utf8 => cellsUtf8 offset octets
    | .utf16 bigEndian => cellsUtf16 offset (units bigEndian octets)
    | _ => e.cellsSingle offset octets

/-- The encoding that the first octets show, and where the text starts after a mark of the byte
order; none if there are too few octets to tell. -/
def detect? : Bytes → Option (Encoding × Nat)
  | [] => some (.utf8, 0)
  | [b] =>
      if b == 0xFE || b == 0xFF || b == 0xEF || b == 0x00 || b == 0x3C then none
      else some (.utf8, 0)
  | first :: second :: rest =>
      if first == 0xFE && second == 0xFF then some (.utf16 true, 2)
      else if first == 0xFF && second == 0xFE then some (.utf16 false, 2)
      else if first == 0xEF && second == 0xBB && rest.isEmpty then none
      else if first == 0xEF && second == 0xBB && rest.head? == some 0xBF then some (.utf8, 3)
      else if first == 0x00 then some (.utf16 true, 0)
      else if second == 0x00 then some (.utf16 false, 0)
      else some (.utf8, 0)

end Encoding

/-- A place in a document: lines are counted from one, and characters of the line before it. -/
structure Place where
  line : Nat
  column : Nat
  deriving Repr, DecidableEq

namespace Place

/-- The place after a cell. -/
def after (place : Place) (cell : Cell) : Place :=
  match cell.sign with
  | .char '\n' _ => ⟨place.line + 1, 0⟩
  | .char '\r' _ => ⟨place.line + 1, 0⟩
  | _ => ⟨place.line, place.column + 1⟩

/-- The place of an octet of a document. -/
def ofOffset (e : Encoding) (octets : Bytes) (offset : Nat) : Place :=
  ((e.cells 0 octets).takeWhile (·.offset < offset)).foldl after ⟨1, 0⟩

end Place

end BucketRegion.Xml

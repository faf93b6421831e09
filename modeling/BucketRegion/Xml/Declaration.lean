import BucketRegion.Xml.CodePage
import BucketRegion.Xml.Scan

/-!
# The declaration of a document

What a document says of its encoding and whether it stands alone.
-/

set_option autoImplicit false

namespace BucketRegion.Xml

/-- An item of a declaration: where its name and its value start, and what both hold. -/
structure DeclaredItem where
  name : List Char
  nameStart : List Cell
  value : List Char
  valueStart : List Cell

/-- What a document declares: the name of its encoding and where that starts, and whether the
document stands alone. -/
structure Declaration where
  encoding? : Option (List Char × List Cell)
  isStandalone : Bool

/-- A result, or the cells at whose start a declaration is wrong. -/
abbrev Declared (α : Type) := Except (List Cell) α

/-- Whether the value of an item can hold a character. -/
def isValueChar (c : Char) : Bool :=
  c.isAlphanum || c == '.' || c == '-' || c == '_'

/-- Whether a cell can be part of an item's name. -/
def isItemName (cell : Cell) : Bool :=
  match cell.char? with
  | some c => c.toNat < 0x80 && c != '=' && !isBlank c
  | none => false

/-- The next item, with the blank that must stand before it; none if there are only blanks. -/
def nextItem? (cells : List Cell) : Declared (Option (DeclaredItem × List Cell)) :=
  match cells with
  | [] => .ok none
  | first :: _ =>
      if !first.isBlank then .error cells
      else
        match skipBlanks cells with
        | [] => .ok none
        | nameStart@(_ :: _) =>
            let name := nameStart.takeWhile isItemName
            let rest := nameStart.dropWhile isItemName
            let afterName := match rest with
              | cell :: _ => if cell.isBlank then skipBlanks rest else rest
              | [] => []
            match afterName with
            | [] => .error []
            | equals :: more =>
                if !equals.is '=' || name.isEmpty then .error afterName
                else
                  match skipBlanks more with
                  | [] => .error []
                  | quote :: valueStart =>
                      if !(quote.is '"' || quote.is '\'') then .error (quote :: valueStart)
                      else
                        let isPart (cell : Cell) : Bool := cell.char?.any isValueChar
                        match valueStart.dropWhile isPart with
                        | [] => .error []
                        | close :: after =>
                            if close.char? == quote.char? then
                              let value := charsOf (valueStart.takeWhile isPart)
                              .ok (some (⟨charsOf name, nameStart, value, valueStart⟩, after))
                            else .error (close :: after)

/-- The declaration's last item, which says whether the document stands alone. -/
def readStandalone (item : DeclaredItem) (rest : List Cell) : Declared Bool :=
  if item.name != "standalone".toList then .error item.nameStart
  else
    let isYes := item.value == "yes".toList
    if isYes || item.value == "no".toList then
      match skipBlanks rest with
      | [] => .ok isYes
      | more => .error more
    else .error item.valueStart

/-- Reads what stands in a declaration after its target: version, encoding, and whether the
document stands alone, in this order; only the version must be there. -/
def Declaration.read (body : List Cell) : Declared Declaration :=
  match nextItem? body with
  | .error rest => .error rest
  | .ok none => .error body
  | .ok (some (version, rest)) =>
      if version.name != "version".toList then .error version.nameStart
      else
        match nextItem? rest with
        | .error bad => .error bad
        | .ok none => .ok ⟨none, false⟩
        | .ok (some (item, more)) =>
            if item.name == "encoding".toList then
              if !(item.value.head?.any Char.isAlpha) then .error item.valueStart
              else
                let encoding := some (item.value, item.valueStart)
                match nextItem? more with
                | .error bad => .error bad
                | .ok none => .ok ⟨encoding, false⟩
                | .ok (some (last, after)) => (readStandalone last after).map (⟨encoding, ·⟩)
            else (readStandalone item more).map (⟨none, ·⟩)

namespace Encoding

/-- The encodings known without a code page; `current` is the one in which the name is written. -/
def ofName? (current : Encoding) (name : List Char) : Option Encoding :=
  match String.ofList (name.map Char.toLower) with
  | "iso-8859-1" => some .latin1
  | "us-ascii" => some .ascii
  | "utf-8" => some .utf8
  | "utf-16" =>
      match current with
      | .utf16 bigEndian => some (.utf16 bigEndian)
      | _ => some (.utf16 true)
  | "utf-16be" => some (.utf16 true)
  | "utf-16le" => some (.utf16 false)
  | _ => none

/-- Whether a document whose start is read in one encoding can go on in another. -/
def canBecome : Encoding → Encoding → Bool
  | .utf16 first, .utf16 second => first == second
  | .utf16 _, _ => false
  | _, .utf16 _ => false
  | _, _ => true

end Encoding

end BucketRegion.Xml

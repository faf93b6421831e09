import BucketRegion.Xml.Scan

/-!
# Markup in content

Tags, references, comments and character data between the tags of an element.
-/

set_option autoImplicit false

namespace BucketRegion.Xml

/-- An attribute as a tag holds it: its name, where the name starts, and what stands between
the quotes. -/
structure Attribute where
  name : List Char
  offset : Nat
  value : List Cell
  deriving Repr

/-- A tag that opens an element, or holds all of it. -/
structure StartTag where
  name : List Char
  attributes : List Attribute
  isEmpty : Bool
  deriving Repr

/-- One piece of content. -/
inductive Piece where
  | text (c : Char)
  | reference (r : Reference)
  | startTag (tag : StartTag)
  /-- The tag that closes an element, and where the name in it starts. -/
  | endTag (name : List Char) (offset : Nat)
  | comment
  | instruction
  | declaration
  /-- Text without markup starts here. -/
  | openLiteral

/-- How many cells stand before the first that holds a character, or are there at all. -/
def countBefore (c : Char) (cells : List Cell) : Nat := (cells.takeWhile (!·.is c)).length

/-- The value of an attribute and what follows its closing quote; `fuel` bounds its cells. -/
def scanAttributeValue (quote : Char) : Nat → List Cell → Scan (List Cell)
  | 0, _ => .error .short
  | _ + 1, [] => .error .short
  | fuel + 1, cell :: rest =>
      match cell.sign with
      | .char c _ =>
          if c == quote then .ok ([], rest)
          else if c == '<' then .error (.invalid (cell :: rest))
          else if c == '&' then
            match scanReference rest with
            | .error stop => .error stop
            | .ok (_, after) =>
                let read := cell :: rest.take (countBefore ';' rest + 1)
                (scanAttributeValue quote fuel after).map fun (value, more) => (read ++ value, more)
          else (scanAttributeValue quote fuel rest).map fun (value, more) => (cell :: value, more)
      | _ => refuseChar (cell :: rest)

/-- What follows the equals sign of an attribute. -/
def scanEquals (cells : List Cell) : Except Stop (List Cell) :=
  match skipBlanks cells with
  | cell :: rest => if cell.is '=' then .ok rest else .error (.invalid (cell :: rest))
  | [] => .error .short

/-- An attribute: name, equals sign and quoted value. -/
def scanAttribute (cells : List Cell) : Scan Attribute :=
  match scanQualified cells with
  | .error stop => .error stop
  | .ok (name, rest) =>
      let offset := match cells with
        | cell :: _ => cell.offset
        | [] => 0
      let isEnd := match rest with
        | cell :: _ => cell.isBlank || cell.is '='
        | [] => true
      if !isEnd then refuseChar rest
      else
        match scanEquals rest with
        | .error stop => .error stop
        | .ok after =>
            match skipBlanks after with
            | [] => .error .short
            | quote :: inside =>
                if quote.is '"' || quote.is '\'' then
                  let mark := quote.char?.getD '"'
                  (scanAttributeValue mark (countBefore mark inside + 1) inside).map
                    fun (value, more) => (⟨name, offset, value⟩, more)
                else .error (.invalid (quote :: inside))

/-- The end of a tag that holds all of an element, after its slash. -/
def scanEmptyEnd : List Cell → Except Stop (List Cell)
  | [] => .error .short
  | close :: rest => if close.is '>' then .ok rest else .error (.invalid (close :: rest))

/-- The attributes of a tag, from the blank before them to the end of the tag; whether the tag
holds all of its element. `fuel` bounds the attributes. -/
def scanAttributes : Nat → List Cell → Scan (List Attribute × Bool)
  | 0, _ => .error .short
  | fuel + 1, cells =>
      match cells with
      | [] => .error .short
      | cell :: rest =>
          if cell.is '>' then .ok (([], false), rest)
          else if cell.is '/' then (scanEmptyEnd rest).map fun after => (([], true), after)
          else if cell.isBlank then
            match skipBlanks rest with
            | [] => .error .short
            | next :: more =>
                if next.is '>' then .ok (([], false), more)
                else if next.is '/' then (scanEmptyEnd more).map fun after => (([], true), after)
                else
                  match scanAttribute (next :: more) with
                  | .error stop => .error stop
                  | .ok (first, after) =>
                      (scanAttributes fuel after).map fun ((attributes, isEmpty), final) =>
                        ((first :: attributes, isEmpty), final)
          else .error (.invalid (cell :: rest))

/-- A tag that opens an element, after its opening mark. No tag reaches beyond the next such
mark. -/
def scanStartTag (cells : List Cell) : Scan StartTag :=
  match scanQualified cells with
  | .error stop => .error stop
  | .ok (name, rest) =>
      let isEnd := match rest with
        | cell :: _ => cell.isBlank || cell.is '>' || cell.is '/'
        | [] => true
      if !isEnd then refuseChar rest
      else (scanAttributes (countBefore '<' rest + 1) rest).map
        fun ((attributes, isEmpty), after) => (⟨name, attributes, isEmpty⟩, after)

/-- A tag that closes an element, after its two opening marks. Colons may stand anywhere in its
name, since it must be the name of the tag that opens the element. -/
def scanEndTag (cells : List Cell) : Scan (List Char × Nat) :=
  match cells with
  | [] => .error .short
  | first :: _ =>
      if !first.isNameStart then refuseChar cells
      else
        let isPart (cell : Cell) : Bool := cell.isNameChar || cell.is ':'
        let name := charsOf (cells.takeWhile isPart)
        match cells.dropWhile isPart with
        | [] => .error .short
        | rest@(cell :: more) =>
            if cell.is '>' then .ok ((name, first.offset), more)
            else if cell.isBlank then
              match skipBlanks more with
              | [] => .error .short
              | close :: after =>
                  if close.is '>' then .ok ((name, first.offset), after)
                  else .error (.invalid (close :: after))
            else refuseChar rest

/-- What follows the opening of text without markup, after its first three characters. All of the
word must be there before it is looked at. -/
def scanLiteralOpen (cells : List Cell) : Scan Piece :=
  if totalWidth cells < 6 then .error .short
  else
    let rec go : List Char → List Cell → Scan Piece
      | [], rest => .ok (.openLiteral, rest)
      | c :: cs, cell :: rest => if cell.is c then go cs rest else .error (.invalid (cell :: rest))
      | _, [] => .error .short
    go ['C', 'D', 'A', 'T', 'A', '['] cells

/-- Markup after its opening mark. -/
def scanMarkup (cells : List Cell) : Scan Piece :=
  match cells with
  | [] => .error .short
  | cell :: rest =>
      if cell.is '!' then
        match rest with
        | [] => .error .short
        | kind :: more =>
            if kind.is '-' then (scanComment more).map fun after => (.comment, after)
            else if kind.is '[' then scanLiteralOpen more
            else .error (.invalid rest)
      else if cell.is '?' then
        (scanInstruction rest).map fun (found, after) =>
          (match found with
            | .plain => .instruction
            | .declaration _ => .declaration, after)
      else if cell.is '/' then
        (scanEndTag rest).map fun ((name, offset), after) => (.endTag name offset, after)
      else (scanStartTag cells).map fun (tag, after) => (.startTag tag, after)

/-- Whether these are two characters which, after a closing bracket, only end text without
markup; the place of the last one. -/
def literalEnd? : List Cell → Option (List Cell)
  | bracket :: close :: rest => if bracket.is ']' && close.is '>' then some (close :: rest) else none
  | _ => none

/-- One piece of content at the start of cells. -/
def scanPiece (cell : Cell) (rest : List Cell) : Scan Piece :=
  match cell.sign with
  | .char '<' _ => scanMarkup rest
  | .char '&' _ => (scanReference rest).map fun (r, after) => (.reference r, after)
  | .char ']' _ =>
      match literalEnd? rest with
      | some close => .error (.invalid close)
      | none => .ok (.text ']', rest)
  | .char c _ => .ok (.text c, rest)
  | _ => refuseChar (cell :: rest)

end BucketRegion.Xml

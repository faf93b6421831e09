import BucketRegion.Decimal.Natural
import BucketRegion.Text.Ranges
import BucketRegion.Xml.Encoding

/-!
# Scanning documents

Names, references and instructions at the start of a list of cells. A scan that fails says
whether the input is wrong at some place or only too short.
-/

set_option autoImplicit false

namespace BucketRegion.Xml

/-- Why nothing is found. -/
inductive Stop where
  /-- Nothing of the kind can go on as `rest` does. -/
  | invalid (rest : List Cell)
  /-- The input ends inside a character. -/
  | cut
  /-- The input ends too early. -/
  | short
  deriving Repr, DecidableEq

/-- What is found and what follows it. -/
abbrev Scan (α : Type) := Except Stop (α × List Cell)

/-- Fails where a mark of markup is missing. -/
def refuseMark {α : Type} : List Cell → Scan α
  | [] => .error .short
  | rest => .error (.invalid rest)

/-- Fails where a character is missing, be it part of a name or of text. -/
def refuseChar {α : Type} : List Cell → Scan α
  | [] => .error .short
  | rest@(cell :: _) =>
      match cell.sign with
      | .cut => .error .cut
      | _ => .error (.invalid rest)

namespace Cell

def char? (cell : Cell) : Option Char :=
  match cell.sign with
  | .char c _ => some c
  | _ => none

/-- Whether the cell holds this character. -/
def is (cell : Cell) (c : Char) : Bool := cell.char? == some c

def isBlank (cell : Cell) : Bool :=
  match cell.sign with
  | .char c _ => Xml.isBlank c
  | _ => false

/-- Whether a name can start here. -/
def isNameStart (cell : Cell) : Bool :=
  match cell.sign with
  | .char _ .letter => true
  | .char _ .start => true
  | _ => false

/-- Whether a name can go on here. -/
def isNameChar (cell : Cell) : Bool :=
  match cell.sign with
  | .char _ .none => false
  | .char _ _ => true
  | _ => false

/-- Whether a keyword can go on here. -/
def isLetter (cell : Cell) : Bool :=
  match cell.sign with
  | .char _ .letter => true
  | _ => false

end Cell

/-- The characters of cells. -/
def charsOf (cells : List Cell) : List Char := cells.filterMap Cell.char?

/-- Text whose cells all stand at one place, as a reference does for its replacement. -/
def cellsAt (offset : Nat) (cs : List Char) : List Cell :=
  cs.map fun c => ⟨offset, (Utf8.encodeChar c).length, .char c (NameRole.ofChar c)⟩

/-- A keyword at the start of cells. -/
def dropWord? : List Char → List Cell → Option (List Cell)
  | [], cells => some cells
  | _, [] => none
  | c :: cs, cell :: rest => if cell.is c then dropWord? cs rest else none

def skipBlanks (cells : List Cell) : List Cell := cells.dropWhile Cell.isBlank

/-- A name without colons. -/
def scanName : List Cell → Scan (List Char)
  | cell :: rest =>
      if cell.isNameStart then
        .ok (charsOf (cell :: rest.takeWhile Cell.isNameChar), rest.dropWhile Cell.isNameChar)
      else refuseChar (cell :: rest)
  | [] => .error .short

/-- A name, or two names joined by a colon. -/
def scanQualified (cells : List Cell) : Scan (List Char) :=
  match scanName cells with
  | .error stop => .error stop
  | .ok (first, rest) =>
      match rest with
      | colon :: more =>
          if colon.is ':' then (scanName more).map fun (second, after) =>
            (first ++ ':' :: second, after)
          else .ok (first, rest)
      | [] => .ok (first, [])

/-! ## References -/

/-- What stands after an ampersand. -/
inductive Reference where
  | entity (name : List Char)
  /-- A character by its number; none if documents cannot hold it. -/
  | char (c? : Option Char)
  deriving Repr, DecidableEq

/-- The character with number `n`, if documents can hold it. -/
def charOf? (n : Nat) : Option Char :=
  if isAllowed n then some (Char.ofNat n) else none

/-- Digits and the semicolon after them. -/
def scanDigits (isDigit : Char → Bool) (cells : List Cell) : Scan (List Char) :=
  let isDigitCell (cell : Cell) : Bool := cell.char?.any isDigit
  match cells.takeWhile isDigitCell, cells.dropWhile isDigitCell with
  | [], rest => refuseMark rest
  | digits, rest =>
      match rest with
      | cell :: after => if cell.is ';' then .ok (charsOf digits, after) else refuseMark rest
      | [] => refuseMark []

/-- What follows an ampersand, its semicolon included. -/
def scanReference (cells : List Cell) : Scan Reference :=
  match cells with
  | [] => .error .short
  | cell :: rest =>
      if cell.is '#' then
        match rest with
        | mark :: digits =>
            if mark.is 'x' then
              (scanDigits (Text.hexValue? · |>.isSome) digits).map fun (ds, after) =>
                (.char (charOf? (Text.hexNumber ds)), after)
            else
              (scanDigits Char.isDigit rest).map fun (ds, after) =>
                (.char (charOf? (Decimal.valueOf ds)), after)
        | [] => .error .short
      else
        match scanName cells with
        | .error stop => .error stop
        | .ok (name, after) =>
            match after with
            | stop :: more => if stop.is ';' then .ok (.entity name, more) else refuseChar after
            | [] => .error .short

/-- The character that one of the five names stands for that need no declaration. -/
def predefined? (name : List Char) : Option Char :=
  match String.ofList name with
  | "lt" => some '<'
  | "gt" => some '>'
  | "amp" => some '&'
  | "quot" => some '"'
  | "apos" => some '\''
  | _ => none

/-! ## Comments and instructions -/

/-- What follows the end of a comment, which starts with two hyphens. -/
def scanCommentBody : List Cell → Except Stop (List Cell)
  | [] => .error .short
  | cell :: rest =>
      match cell.sign with
      | .char '-' _ =>
          match rest with
          | [] => .error .short
          | second :: more =>
              if second.is '-' then
                match more with
                | [] => .error .short
                | close :: after => if close.is '>' then .ok after else .error (.invalid more)
              else scanCommentBody rest
      | .char _ _ => scanCommentBody rest
      | .cut => .error .cut
      | _ => .error (.invalid (cell :: rest))

/-- What follows a comment whose first hyphen has been read. -/
def scanComment : List Cell → Except Stop (List Cell)
  | [] => .error .short
  | cell :: rest =>
      if cell.is '-' then scanCommentBody rest else .error (.invalid (cell :: rest))

/-- The inside of an instruction after its target, and what follows the instruction. -/
def scanInstructionBody : List Cell → Scan (List Cell)
  | [] => .error .short
  | cell :: rest =>
      match cell.sign with
      | .char '?' _ =>
          match rest with
          | [] => .error .short
          | close :: after =>
              if close.is '>' then .ok ([], after)
              else (scanInstructionBody rest).map fun (body, more) => (cell :: body, more)
      | .char _ _ => (scanInstructionBody rest).map fun (body, more) => (cell :: body, more)
      | .cut => .error .cut
      | _ => .error (.invalid (cell :: rest))

/-- What an instruction is for. -/
inductive Instruction where
  | plain
  /-- The declaration of the document itself: what stands in it after its target. -/
  | declaration (body : List Cell)
  deriving Repr

/-- An instruction after its two opening marks. Only a declaration can have a target that reads
`xml` in small or capital letters, and that in small ones. -/
def scanInstruction (cells : List Cell) : Scan Instruction :=
  match scanName cells with
  | .error stop => .error stop
  | .ok (target, rest) =>
      let isReserved := target.map Char.toLower == ['x', 'm', 'l']
      let isDeclaration := target == ['x', 'm', 'l']
      match rest with
      | [] => .error .short
      | cell :: more =>
          if cell.isBlank || cell.is '?' then
            if isReserved && !isDeclaration then .error (.invalid rest)
            else if cell.isBlank then
              (scanInstructionBody more).map fun (body, after) =>
                (if isDeclaration then .declaration (cell :: body) else .plain, after)
            else
              match more with
              | [] => .error .short
              | close :: after =>
                  if close.is '>' then
                    .ok (if isDeclaration then .declaration [] else .plain, after)
                  else .error (.invalid more)
          else refuseChar rest

end BucketRegion.Xml

import BucketRegion.Xml.Scan

/-!
# Symbols of the prolog

What stands before the first element of a document, piece by piece: names, quoted literals and
marks of declarations.
-/

set_option autoImplicit false

namespace BucketRegion.Xml

/-- What a name in a declaration can be used for. -/
inductive NameKind where
  | plain
  /-- Two names joined by a colon. -/
  | qualified
  /-- Characters of names, but no name. -/
  | token
  deriving Repr, DecidableEq

/-- How often a part of an element's content may occur. -/
inductive Occurrence where
  | once
  | optional
  | any
  | some
  deriving Repr, DecidableEq

/-- A piece of the prolog. -/
inductive Symbol where
  | blank
  | comment
  | instruction
  /-- The declaration of the document: what stands in it. -/
  | declaration (body : List Cell)
  /-- A declaration opens, of this kind. -/
  | openDeclaration (keyword : List Char)
  | openSection
  | closeSection
  /-- The first element starts here; nothing is read. -/
  | element
  | name (kind : NameKind) (chars : List Char)
  /-- A name with a mark of how often the part that it names may occur. -/
  | counted (chars : List Char)
  | poundName (chars : List Char)
  /-- What stands between two quotes. -/
  | literal (inside : List Cell)
  | percent
  | parameterReference
  | comma
  | bar
  | openBracket
  | closeBracket
  | openGroup
  | closeGroup (occurrence : Occurrence)
  | close
  deriving Repr

/-- A quoted literal after its opening quote. Some characters only can follow its end. -/
def scanLiteral (quote : Char) : List Cell → Scan (List Cell)
  | [] => .error .short
  | cell :: rest =>
      match cell.sign with
      | .char c _ =>
          if c == quote then
            match rest with
            | [] => .ok ([], [])
            | next :: _ =>
                if next.isBlank || next.is '>' || next.is '%' || next.is '[' then .ok ([], rest)
                else .error (.invalid rest)
          else (scanLiteral quote rest).map fun (inside, after) => (cell :: inside, after)
      | _ => refuseChar (cell :: rest)

/-- The letters of a keyword and what follows them. -/
def scanKeyword (cells : List Cell) : Scan (List Char) :=
  match cells.dropWhile Cell.isLetter with
  | [] => .error .short
  | rest@(cell :: more) =>
      let found : Scan (List Char) := .ok (charsOf (cells.takeWhile Cell.isLetter), rest)
      if cell.isBlank then found
      else if cell.is '%' then
        match more with
        | [] => .error .short
        | next :: _ =>
            if next.isBlank || next.is '%' then .error (.invalid rest) else found
      else .error (.invalid rest)

/-- A declaration after its two opening marks. -/
def scanDeclaration (cells : List Cell) : Scan Symbol :=
  match cells with
  | [] => .error .short
  | cell :: rest =>
      if cell.is '-' then (scanComment rest).map fun after => (.comment, after)
      else if cell.is '[' then .ok (.openSection, rest)
      else if cell.isLetter then
        (scanKeyword cells).map fun (keyword, after) => (.openDeclaration keyword, after)
      else .error (.invalid cells)

/-- What follows a percent sign. -/
def scanPercent (cells : List Cell) : Scan Symbol :=
  match cells with
  | [] => .error .short
  | cell :: _ =>
      if cell.isBlank || cell.is '%' then .ok (.percent, cells)
      else
        match scanName cells with
        | .error stop => .error stop
        | .ok (_, []) => .error .short
        | .ok (_, rest@(stop :: after)) =>
            if stop.is ';' then .ok (.parameterReference, after) else refuseChar rest

/-- A name after a number sign. -/
def scanPoundName (cells : List Cell) : Scan Symbol :=
  match scanName cells with
  | .error stop => .error stop
  | .ok (name, []) => .ok (.poundName name, [])
  | .ok (name, rest@(cell :: _)) =>
      if cell.isBlank || cell.is ')' || cell.is '>' || cell.is '%' || cell.is '|' then
        .ok (.poundName name, rest)
      else refuseChar rest

/-- Whether a name ends before this cell. -/
def endsName (cell : Cell) : Bool :=
  cell.isBlank || cell.is '>' || cell.is ')' || cell.is ',' || cell.is '|' || cell.is '[' ||
    cell.is '%'

/-- The rest of a name whose characters so far are `read`, the last one first. -/
def scanNameSymbol (kind : NameKind) (read : List Char) : List Cell → Scan Symbol
  | [] => .ok (.name kind read.reverse, [])
  | cell :: rest =>
      if cell.isNameChar then scanNameSymbol kind (charsOf [cell] ++ read) rest
      else if endsName cell then .ok (.name kind read.reverse, cell :: rest)
      else if cell.is ':' then
        match kind, rest with
        | .plain, [] => .error .short
        | .plain, next :: _ =>
            scanNameSymbol (if next.isNameChar then .qualified else .token) (':' :: read) rest
        | _, _ => scanNameSymbol .token (':' :: read) rest
      else if cell.is '+' || cell.is '*' || cell.is '?' then
        if kind == .token then .error (.invalid (cell :: rest))
        else .ok (.counted read.reverse, rest)
      else refuseChar (cell :: rest)

/-- The end of a group after its mark. -/
def scanGroupEnd (cells : List Cell) : Scan Symbol :=
  match cells with
  | [] => .ok (.closeGroup .once, [])
  | cell :: rest =>
      if cell.is '*' then .ok (.closeGroup .any, rest)
      else if cell.is '?' then .ok (.closeGroup .optional, rest)
      else if cell.is '+' then .ok (.closeGroup .some, rest)
      else if cell.isBlank || cell.is '>' || cell.is ',' || cell.is '|' || cell.is ')' then
        .ok (.closeGroup .once, cells)
      else .error (.invalid cells)

/-- A closing bracket after its mark; a second one and a closing mark end a section. -/
def scanBracketEnd (cells : List Cell) : Scan Symbol :=
  match cells with
  | [] => .ok (.closeBracket, [])
  | cell :: rest =>
      if cell.is ']' then
        match rest with
        | [] => .error .short
        | close :: after =>
            if close.is '>' then .ok (.closeSection, after) else .ok (.closeBracket, cells)
      else .ok (.closeBracket, cells)

/-- What follows an opening mark of markup; `cells` starts with the mark. -/
def scanOpening (cells rest : List Cell) : Scan Symbol :=
  match rest with
  | [] => .error .short
  | cell :: more =>
      if cell.is '!' then scanDeclaration more
      else if cell.is '?' then
        (scanInstruction more).map fun (found, after) =>
          (match found with
            | .plain => .instruction
            | .declaration body => .declaration body, after)
      else
        let isElement : Bool := match cell.sign with
          | .char _ _ => cell.isNameStart || 1 < cell.width
          | .broken => true
          | .cut => true
          | .bad => false
        if isElement then .ok (.element, cells) else .error (.invalid rest)

/-- One symbol at the start of cells. -/
def scanSymbol (cell : Cell) (rest : List Cell) : Scan Symbol :=
  let cells := cell :: rest
  if cell.isBlank then .ok (.blank, skipBlanks rest)
  else
    match cell.sign with
    | .char '<' _ => scanOpening cells rest
    | .char '"' _ => (scanLiteral '"' rest).map fun (inside, after) => (.literal inside, after)
    | .char '\'' _ => (scanLiteral '\'' rest).map fun (inside, after) => (.literal inside, after)
    | .char '%' _ => scanPercent rest
    | .char ',' _ => .ok (.comma, rest)
    | .char '[' _ => .ok (.openBracket, rest)
    | .char ']' _ => scanBracketEnd rest
    | .char '(' _ => .ok (.openGroup, rest)
    | .char ')' _ => scanGroupEnd rest
    | .char '|' _ => .ok (.bar, rest)
    | .char '>' _ => .ok (.close, rest)
    | .char '#' _ => scanPoundName rest
    | .char c role =>
        match role with
        | .letter => scanNameSymbol .plain [c] rest
        | .start => scanNameSymbol .plain [c] rest
        | .tail => scanNameSymbol .token [c] rest
        | .none => if c == ':' then scanNameSymbol .token [c] rest else .error (.invalid cells)
    | _ => refuseChar cells

end BucketRegion.Xml

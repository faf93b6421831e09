import BucketRegion.Xml.Doctype
import BucketRegion.Xml.Markup
import BucketRegion.Xml.Namespace

/-!
# Content of a document

The first element of a document with everything in it, read piece by piece. References are
replaced by the text that they stand for, which is read as content in its turn.
-/

set_option autoImplicit false

namespace BucketRegion.Xml

/-- An element: its name, the text before its first child, and its children. -/
structure Element where
  name : Name
  text : String
  children : List Element

/-- An element whose end is still to come: the name as its tag holds it, its prefixes, and the
characters and the children read so far, each the last one first. -/
structure OpenElement where
  tag : List Char
  name : Name
  scope : Scope
  text : List Char
  children : List Element

/-- The element, if it ends here. -/
def OpenElement.element (o : OpenElement) : Element :=
  ⟨o.name, String.ofList o.text.reverse, o.children.reverse⟩

/-- A reference to a name that may be declared outside the document, and where it stands. -/
structure SkippedReference where
  name : List Char
  offset : Nat
  deriving Repr, DecidableEq

/-- What has been read: the open elements, the innermost first; the first element, if it has
ended; the first reference that was passed over; and the octets of all replacements. -/
structure Content where
  opened : List OpenElement
  root? : Option Element
  skipped? : Option SkippedReference
  octets : Nat

namespace Content

def empty : Content := ⟨[], none, none, 0⟩

/-- The prefixes in force. -/
def scope (c : Content) : Scope :=
  match c.opened with
  | [] => Scope.initial
  | o :: _ => o.scope

/-- Adds a character to the innermost element. What follows a child is not kept. -/
def addChar (c : Content) (char : Char) : Content :=
  match c.opened with
  | [] => c
  | o :: outer =>
      if o.children.isEmpty then { c with opened := { o with text := char :: o.text } :: outer } else c

def addText (c : Content) (text : List Char) : Content := text.foldl addChar c

/-- Opens an element. -/
def push (c : Content) (tag : List Char) (name : Name) (scope : Scope) : Content :=
  { c with opened := ⟨tag, name, scope, [], []⟩ :: c.opened }

/-- Ends the innermost element. -/
def pop (c : Content) : Content :=
  match c.opened with
  | [] => c
  | [o] => { c with opened := [], root? := some o.element }
  | o :: parent :: outer =>
      { c with opened := { parent with children := o.element :: parent.children } :: outer }

/-- Notes a reference that is passed over. -/
def skip (c : Content) (name : List Char) (offset : Nat) : Content :=
  { c with skipped? := c.skipped?.or (some ⟨name, offset⟩) }

end Content

/-! ## Tags -/

/-- The attributes of a tag as far as they are read: the names of all; the names that declare no
prefix, the last one first; the prefixes; and the octets of all replacements. -/
structure TagReading where
  seen : List (List Char)
  names : List (List Char)
  scope : Scope
  octets : Nat

/-- Takes an attribute with its value. -/
def TagReading.add (t : TagReading) (name value : List Char) : Except Cause TagReading :=
  match declaredPrefix? name with
  | some label => (t.scope.bind label value).map fun scope => { t with scope := scope }
  | none => .ok { t with names := name :: t.names }

/-- Takes the attributes that a tag holds. -/
def TagReading.addHeld (d : Declarations) (rules : List AttributeRule) (base direct steps : Nat)
    (expanding : List (List Char)) : TagReading → List Attribute → Except Fault TagReading
  | t, [] => .ok t
  | t, a :: more =>
      if t.seen.contains a.name then .error ⟨.duplicateAttribute, a.offset⟩
      else
        let isText := ((rules.find? (·.name == a.name)).map (·.isText)).getD true
        match expandValue d ⟨base, direct, isText⟩ steps expanding false ⟨[], t.octets⟩ a.value with
        | .error fault => .error fault
        | .ok e =>
            let t := { t with seen := a.name :: t.seen, octets := e.octets }
            match t.add a.name (e.value isText) with
            | .error cause => .error ⟨cause, base⟩
            | .ok t => TagReading.addHeld d rules base direct steps expanding t more

/-- Takes the declared values of attributes that the tag does not hold. -/
def TagReading.addDeclared : TagReading → List AttributeRule → Except Cause TagReading
  | t, [] => .ok t
  | t, rule :: more =>
      match rule.value? with
      | none => t.addDeclared more
      | some value =>
          if t.seen.contains rule.name then t.addDeclared more
          else
            match t.add rule.name value with
            | .error cause => .error cause
            | .ok t => t.addDeclared more

/-- Checks all prefixes of a tag and gives the name of its element. -/
def TagReading.finish (t : TagReading) (tag : List Char) : Except Cause Name :=
  match t.scope.checkAttributes [] t.names.reverse with
  | .error cause => .error cause
  | .ok () => t.scope.elementName tag

/-! ## Reading -/

/-- What is being read: the document, or the text of a reference in it. `floor` tells how many
elements were open at its start, `stop` which offset its end has, `expanding` the names whose
text is being read, and `direct?` how many octets of the document had been read with the
reference. -/
structure Frame where
  floor : Nat
  stop : Nat
  expanding : List (List Char)
  direct? : Option Nat

/-- Whether an element is open that was not at the start. -/
def Frame.hasOpened (frame : Frame) (c : Content) : Bool := !(c.opened.drop frame.floor).isEmpty

/-- Opens the element of a tag that starts at `base`, and ends it if the tag holds all of it. -/
def Content.openTag (c : Content) (d : Declarations) (frame : Frame) (steps base direct : Nat)
    (tag : StartTag) : Except Fault Content :=
  let rules := d.rules tag.name
  let start : TagReading := ⟨[], [], c.scope, c.octets⟩
  match start.addHeld d rules base direct steps frame.expanding tag.attributes with
  | .error fault => .error fault
  | .ok held =>
      match held.addDeclared rules with
      | .error cause => .error ⟨cause, base⟩
      | .ok t =>
          match t.finish tag.name with
          | .error cause => .error ⟨cause, base⟩
          | .ok name =>
              let c := { c with octets := t.octets }.push tag.name name t.scope
              .ok (if tag.isEmpty then c.pop else c)

/-- Ends an element by a tag that starts at `base`, with its name at `offset`. -/
def Content.closeTag (c : Content) (frame : Frame) (base offset : Nat) (tag : List Char) :
    Except Fault Content :=
  if !frame.hasOpened c then .error ⟨.asynchronousEntity, base⟩
  else
    match c.opened with
    | o :: _ => if o.tag == tag then .ok c.pop else .error ⟨.mismatchedTag, offset⟩
    | [] => .error ⟨.asynchronousEntity, base⟩

/-- Text without markup, and what follows its end. -/
def readLiteral (stop : Nat) : List Cell → Except Fault (List Char × List Cell)
  | [] => .error ⟨.openLiteral, stop⟩
  | cell :: rest =>
      match cell.sign with
      | .char c _ =>
          let isHalf := (c == ']' || c == '\r') && rest.isEmpty ||
            c == ']' && (match rest with | [next] => next.is ']' | _ => false)
          if isHalf then .error ⟨.openLiteral, cell.offset⟩
          else if c == ']' && (literalEnd? rest).isSome then .ok ([], rest.drop 2)
          else (readLiteral stop rest).map fun (text, after) => (c :: text, after)
      | .cut => .error ⟨.partialChar, cell.offset⟩
      | _ => .error ⟨.invalidToken, cell.offset⟩

/-- What a reference asks for. -/
inductive Replacement where
  | char (c : Char)
  | text (name cs : List Char)
  | skipped (name : List Char)

/-- What a reference at `offset` asks for. -/
def Frame.replacement (frame : Frame) (d : Declarations) (offset : Nat) (r : Reference) :
    Except Fault Replacement :=
  match r with
  | .char (some c) => .ok (.char c)
  | .char none => .error ⟨.badCharacter, offset⟩
  | .entity name =>
      match predefined? name with
      | some c => .ok (.char c)
      | none =>
          match d.entity? name with
          | none => if d.mustDeclare then .error ⟨.undefinedEntity, offset⟩ else .ok (.skipped name)
          | some entity =>
              if frame.expanding.contains name then .error ⟨.recursiveEntity, offset⟩
              else
                match entity with
                | .unparsed => .error ⟨.binaryEntity, offset⟩
                | .external => .ok (.skipped name)
                | .text cs => .ok (.text name cs)

/-- The fault of content that ends too early. -/
def Frame.end (frame : Frame) (extent : Extent) (c : Content) : Except Fault Content :=
  if frame.direct?.isNone then
    .error ⟨if extent.hasHalf then .unclosedToken else .noElement, frame.stop⟩
  else if !frame.hasOpened c then .ok c
  else .error ⟨.asynchronousEntity, frame.stop⟩

/-- How many octets a piece of a reference's text has, which reaches from `cells` to `after`. -/
def pieceOctets (cells after : List Cell) : Nat :=
  totalWidth (cells.take (cells.length - after.length))

/-- Reads content up to the end of the first element, or up to the end of a reference's text;
`fuel` bounds the cells of all texts. What has been read when it fails is given with the fault. -/
def readContent (d : Declarations) (extent : Extent) :
    Nat → Frame → Content → List Cell → Except (Fault × Content) (Content × List Cell)
  | 0, frame, c, _ => .error (⟨.noElement, frame.stop⟩, c)
  | _ + 1, frame, c, [] =>
      match frame.end extent c with
      | .error fault => .error (fault, c)
      | .ok c => .ok (c, [])
  | fuel + 1, frame, c, cell :: rest =>
      if cell.is '\r' && rest.isEmpty && frame.direct?.isNone then
        .error (⟨.noElement, cell.offset⟩, c)
      else
        match scanPiece cell rest with
        | .error stop => .error (Fault.ofStop cell.offset stop, c)
        | .ok (piece, after) =>
            let c := if frame.direct?.isSome then
                { c with octets := c.octets + pieceOctets (cell :: rest) after }
              else c
            let direct := frame.direct?.getD (offsetOf frame.stop after)
            if frame.direct?.isSome && isExcessive direct c.octets then
              .error (⟨.amplification, cell.offset⟩, c)
            else
              match piece with
              | .text char => readContent d extent fuel frame (c.addChar char) after
              | .comment => readContent d extent fuel frame c after
              | .instruction => readContent d extent fuel frame c after
              | .declaration => .error (⟨.misplacedDeclaration, cell.offset⟩, c)
              | .openLiteral =>
                  match readLiteral frame.stop after with
                  | .error fault => .error (fault, c)
                  | .ok (text, more) => readContent d extent fuel frame (c.addText text) more
              | .startTag tag =>
                  match c.openTag d frame extent.steps cell.offset direct tag with
                  | .error fault => .error (fault, c)
                  | .ok c => if c.opened.isEmpty then .ok (c, after)
                      else readContent d extent fuel frame c after
              | .endTag tag offset =>
                  match c.closeTag frame cell.offset offset tag with
                  | .error fault => .error (fault, c)
                  | .ok c => if c.opened.isEmpty then .ok (c, after)
                      else readContent d extent fuel frame c after
              | .reference r =>
                  match frame.replacement d cell.offset r with
                  | .error fault => .error (fault, c)
                  | .ok (.char char) => readContent d extent fuel frame (c.addChar char) after
                  | .ok (.skipped name) =>
                      readContent d extent fuel frame (c.skip name cell.offset) after
                  | .ok (.text name cs) =>
                      let inner : Frame :=
                        ⟨c.opened.length, cell.offset, name :: frame.expanding, some direct⟩
                      match readContent d extent fuel inner c (cellsAt cell.offset cs) with
                      | .error failed => .error failed
                      | .ok (c, _) => readContent d extent fuel frame c after

end BucketRegion.Xml

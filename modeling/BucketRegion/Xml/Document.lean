import BucketRegion.Xml.Content
import BucketRegion.Xml.Declaration

/-!
# Documents

The first element of a document given as octets, or why there is none.
-/

set_option autoImplicit false

namespace BucketRegion.Xml

/-- Why a document cannot be read. -/
inductive Problem where
  | fault (cause : Cause) (place : Place)
  /-- A reference to a name that is declared outside the document, if at all. -/
  | undeclared (name : List Char) (place : Place)
  | unknownEncoding (name : List Char)
  | multiByteEncoding
  | binaryEncoding (name : List Char)
  | hostLabelEncoding
  | asciiLabelEncoding
  | emptyEncoding

/-- The octets of a reference that messages show. -/
def shownOctets : Nat := 100

def Problem.message : Problem → String
  | .fault cause place =>
      cause.message ++ ": line " ++ toString place.line ++ ", column " ++ toString place.column
  | .undeclared name place =>
      let reference := (Utf8.encodeChars ('&' :: name ++ [';'])).take shownOctets
      "undefined entity " ++ String.ofList (Utf8.decodeReplacing reference) ++ ": line " ++
        toString place.line ++ ", column " ++ toString place.column
  | .unknownEncoding name => "unknown encoding: " ++ String.ofList name
  | .multiByteEncoding => "multi-byte encodings are not supported"
  | .binaryEncoding name =>
      "'" ++ String.ofList name ++
        "' is not a text encoding; use codecs.decode() to handle arbitrary codecs"
  | .hostLabelEncoding =>
      "decoding with 'idna' codec failed (UnicodeError: Unsupported error handling replace)"
  | .asciiLabelEncoding =>
      "'ascii' codec can't decode byte 0x80 in position 82: ordinal not in range(128)"
  | .emptyEncoding =>
      "decoding with 'undefined' codec failed (UnicodeError: undefined encoding)"

/-- Whether the document breaks a rule; otherwise only its encoding is in the way. -/
def Problem.isMalformed : Problem → Bool
  | .fault _ _ => true
  | .undeclared _ _ => true
  | _ => false

/-- Comments, instructions and blanks after the first element; `fuel` bounds them. -/
def readEpilogue (extent : Extent) : Nat → List Cell → Except Fault Unit
  | 0, _ => .ok ()
  | _ + 1, [] => if extent.hasHalf then .error ⟨.unclosedToken, extent.stop⟩ else .ok ()
  | fuel + 1, cell :: rest =>
      match scanSymbol cell rest with
      | .error stop => .error (Fault.ofStop cell.offset stop)
      | .ok (.blank, after) => readEpilogue extent fuel after
      | .ok (.comment, after) => readEpilogue extent fuel after
      | .ok (.instruction, after) => readEpilogue extent fuel after
      | .ok _ => .error ⟨.junkAfterElement, cell.offset⟩

/-- The first element of a document whose cells these are, without its own declaration. A reference
that was passed over is told before every other fault. -/
def readBody (extent : Extent) (d : Declarations) (cells : List Cell) :
    Except (Fault ⊕ SkippedReference) Element :=
  let steps := cells.length + 1
  match readProlog extent steps d .start cells with
  | .error fault => .error (.inl fault)
  | .ok (d, cells) =>
      let frame : Frame := ⟨0, extent.stop, [], none⟩
      match readContent d extent extent.steps frame Content.empty cells with
      | .error (fault, c) => .error (c.skipped?.elim (.inl fault) .inr)
      | .ok (c, after) =>
          match c.skipped?, readEpilogue extent steps after, c.root? with
          | some skipped, _, _ => .error (.inr skipped)
          | none, .error fault, _ => .error (.inl fault)
          | none, .ok (), some root => .ok root
          | none, .ok (), none => .error (.inl ⟨.noElement, extent.stop⟩)

/-- Reads octets from `start` on, with what is declared. -/
def readFrom (e : Encoding) (octets : Bytes) (start : Nat) (isStandalone : Bool) :
    Except Problem Element :=
  let count := octets.length
  let hasHalf := e.unitSize == 2 && (count - start) % 2 == 1
  let extent : Extent := ⟨count, hasHalf, (count + 2) * (count + 2)⟩
  let place := Place.ofOffset e octets
  match readBody extent (Declarations.initial isStandalone) (e.cells start (octets.drop start)) with
  | .ok element => .ok element
  | .error (.inl fault) => .error (.fault fault.cause (place fault.offset))
  | .error (.inr skipped) => .error (.undeclared skipped.name (place skipped.offset))

/-- The encoding that a declared name asks for, where the octets so far are in `current`. -/
def Encoding.change (current : Encoding) (name : List Char) (place : Place) :
    Except Problem Encoding :=
  match current.ofName? name with
  | some found => if current.canBecome found then .ok found else .error (.fault .wrongEncoding place)
  | none =>
      match NamedEncoding.ofName? name with
      | none => .error (.unknownEncoding name)
      | some (.page codes) => .ok (.page codes)
      | some .multiByte => .error .multiByteEncoding
      | some .foreign => .error (.fault .unknownEncoding place)
      | some .binary => .error (.binaryEncoding name)
      | some .hostLabels => .error .hostLabelEncoding
      | some .asciiLabels => .error .asciiLabelEncoding
      | some .empty => .error .emptyEncoding

/-- Reads a document after its declaration, which starts at `start` and holds `body`. -/
def readDeclared (e : Encoding) (octets : Bytes) (start : Nat) (body : List Cell) :
    Except Problem Element :=
  let place := Place.ofOffset e octets
  let bodyEnd := start + e.unitSize * (5 + totalWidth body)
  match Declaration.read body with
  | .error rest => .error (.fault .declaration (place (offsetOf bodyEnd rest)))
  | .ok declaration =>
      let rest := bodyEnd + 2 * e.unitSize
      match declaration.encoding? with
      | none => readFrom e octets rest declaration.isStandalone
      | some (name, nameStart) =>
          match e.change name (place (offsetOf bodyEnd nameStart)) with
          | .error problem => .error problem
          | .ok e => readFrom e octets rest declaration.isStandalone

/-- The first element of a document. -/
def parse (octets : Bytes) : Except Problem Element :=
  match Encoding.detect? octets with
  | none => .error (.fault .unclosedToken ⟨1, 0⟩)
  | some (e, start) =>
      match e.cells start (octets.drop start) with
      | cell :: rest =>
          match scanSymbol cell rest with
          | .ok (.declaration body, _) => readDeclared e octets cell.offset body
          | _ => readFrom e octets start false
      | [] => readFrom e octets start false

end BucketRegion.Xml

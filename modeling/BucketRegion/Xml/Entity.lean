import BucketRegion.Xml.Fault
import BucketRegion.Xml.Symbol

/-!
# Entities

Names that stand for text, and the attributes that elements have without holding them: what the
declarations of a document say, and the text that values with references denote.
-/

set_option autoImplicit false

namespace BucketRegion.Xml

/-- What a declared name stands for. -/
inductive Entity where
  | text (cs : List Char)
  /-- Text that is not in the document. -/
  | external
  /-- Something that is no text. -/
  | unparsed
  deriving Repr, DecidableEq

/-- What is declared of an attribute: whether its value is any text, or else words; and the value
for elements that do not have it. -/
structure AttributeRule where
  name : List Char
  isText : Bool
  value? : Option (List Char)
  deriving Repr, DecidableEq

/-- What a document declares. -/
structure Declarations where
  isStandalone : Bool
  /-- There may be declarations outside the document, which are not read. -/
  mayBeOutside : Bool
  /-- Declarations count. After one that may be outside they do in documents that stand alone. -/
  isKept : Bool
  entities : List (List Char × Entity)
  attributes : List (List Char × List AttributeRule)
  deriving Repr

namespace Declarations

/-- Nothing declared but whether the document stands alone. -/
def initial (isStandalone : Bool) : Declarations :=
  ⟨isStandalone, false, true, [], []⟩

def entity? (d : Declarations) (name : List Char) : Option Entity := d.entities.lookup name

/-- The rules for the attributes of an element, in the order of their declarations. -/
def rules (d : Declarations) (element : List Char) : List AttributeRule :=
  (d.attributes.lookup element).getD []

/-- Whether a reference to a name that is not declared is wrong. Otherwise the name may be declared
outside. -/
def mustDeclare (d : Declarations) : Bool := !d.mayBeOutside || d.isStandalone

/-- Declares a name. The caller sees to it that it is new. -/
def addEntity (d : Declarations) (name : List Char) (entity : Entity) : Declarations :=
  { d with entities := (name, entity) :: d.entities }

/-- Adds a rule for an attribute. The first rule for a name counts: a later one that gives a value
or identifies elements is passed over. -/
def addRule (d : Declarations) (element : List Char) (rule : AttributeRule) (isId : Bool) :
    Declarations :=
  let rules := d.rules element
  if (rule.value?.isSome || isId) && rules.any (·.name == rule.name) then d
  else
    { d with
      attributes :=
        (element, rules ++ [rule]) :: d.attributes.filter fun (name, _) => name != element }

/-- Notes that there may be declarations outside the document. -/
def lookOutside (d : Declarations) : Declarations := { d with mayBeOutside := true }

/-- Notes a reference to declarations that are not read. -/
def skipReference (d : Declarations) : Declarations :=
  { d with mayBeOutside := true, isKept := d.isStandalone }

end Declarations

/-! ## Values of entities -/

/-- The text that a name is declared to stand for. References to characters are replaced, all
others stay. `fuel` bounds the cells. -/
def entityText : Nat → List Cell → Except Fault (List Char)
  | 0, _ => .ok []
  | _ + 1, [] => .ok []
  | fuel + 1, cell :: rest =>
      match cell.char? with
      | some '&' =>
          match scanReference rest with
          | .error (.invalid bad) => .error ⟨.invalidToken, offsetOf cell.offset bad⟩
          | .error _ => .error ⟨.invalidToken, cell.offset⟩
          | .ok (.char none, _) => .error ⟨.badCharacter, cell.offset⟩
          | .ok (.char (some c), after) => (entityText fuel after).map (c :: ·)
          | .ok (.entity name, after) =>
              (entityText fuel after).map fun text => '&' :: name ++ ';' :: text
      | some '%' =>
          match scanPercent rest with
          | .ok (.parameterReference, _) => .error ⟨.parameterReference, cell.offset⟩
          | .ok (_, bad) => .error ⟨.invalidToken, offsetOf cell.offset bad⟩
          | .error (.invalid bad) => .error ⟨.invalidToken, offsetOf cell.offset bad⟩
          | .error _ => .error ⟨.invalidToken, cell.offset⟩
      | some c => (entityText fuel rest).map (c :: ·)
      | none => .error ⟨.invalidToken, cell.offset⟩

/-! ## Values of attributes -/

/-- Text with references replaced, the last character first, and how many octets the replacements
had. -/
structure Expansion where
  text : List Char
  octets : Nat

/-- Whether replacements have too many octets for a document of which `direct` octets are read. -/
def isExcessive (direct octets : Nat) : Bool :=
  8388608 ≤ direct + octets && 100 * direct < direct + octets

/-- Where a value with references stands: the offset for faults of the references, the octets of
the document read so far, and whether the value is any text. -/
structure ValueFrame where
  base : Nat
  direct : Nat
  isText : Bool

/-- Adds a blank; words are separated by one, and none stands before the first. -/
def Expansion.addBlank (e : Expansion) (isText : Bool) : Expansion :=
  if isText then { e with text := ' ' :: e.text }
  else
    match e.text with
    | [] => e
    | ' ' :: _ => e
    | text => { e with text := ' ' :: text }

/-- Reads the cells of an attribute's value. `expanding` holds the names whose text is being read;
`isNested` tells whether the cells are such text. `fuel` bounds the cells of all texts. -/
def expandValue (d : Declarations) (frame : ValueFrame) :
    Nat → List (List Char) → Bool → Expansion → List Cell → Except Fault Expansion
  | 0, _, _, e, _ => .ok e
  | _ + 1, _, _, e, [] => .ok e
  | fuel + 1, expanding, isNested, e, cell :: rest =>
      let e := if isNested then { e with octets := e.octets + cell.width } else e
      if isExcessive frame.direct e.octets && isNested then .error ⟨.amplification, frame.base⟩
      else
        match cell.char? with
        | some '&' =>
            match scanReference rest with
            | .error (.invalid bad) => .error ⟨.invalidToken, offsetOf cell.offset bad⟩
            | .error _ => .error ⟨.invalidToken, cell.offset⟩
            | .ok (.char none, _) => .error ⟨.badCharacter, cell.offset⟩
            | .ok (.char (some c), after) =>
                let e := if c == ' ' then e.addBlank frame.isText
                  else { e with text := c :: e.text }
                expandValue d frame fuel expanding isNested e after
            | .ok (.entity name, after) =>
                match predefined? name with
                | some c =>
                    expandValue d frame fuel expanding isNested { e with text := c :: e.text } after
                | none =>
                    match d.entity? name with
                    | none =>
                        if d.mustDeclare then .error ⟨.undefinedEntity, frame.base⟩
                        else expandValue d frame fuel expanding isNested e after
                    | some entity =>
                        if expanding.contains name then .error ⟨.recursiveEntity, frame.base⟩
                        else
                          match entity with
                          | .unparsed => .error ⟨.binaryEntity, cell.offset⟩
                          | .external => .error ⟨.externalInAttribute, cell.offset⟩
                          | .text cs =>
                              match expandValue d frame fuel (name :: expanding) true e
                                  (cellsAt frame.base cs) with
                              | .error fault => .error fault
                              | .ok e => expandValue d frame fuel expanding isNested e after
        | some '<' => .error ⟨.invalidToken, cell.offset⟩
        | some c =>
            let e := if isBlank c then e.addBlank frame.isText
              else { e with text := c :: e.text }
            expandValue d frame fuel expanding isNested e rest
        | none => .error ⟨.invalidToken, cell.offset⟩

/-- The value of an attribute in order; words have no blank after the last one. -/
def Expansion.value (e : Expansion) (isText : Bool) : List Char :=
  match isText, e.text with
  | false, ' ' :: text => text.reverse
  | _, text => text.reverse

end BucketRegion.Xml

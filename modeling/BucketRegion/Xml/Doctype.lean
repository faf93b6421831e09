import BucketRegion.Xml.Entity

/-!
# The prolog of a document

What stands before the first element: instructions, comments and the declaration of the
document's type with the declarations in it.
-/

set_option autoImplicit false

namespace BucketRegion.Xml

/-- What a declaration of an entity declares: a name, if it counts, for use in content or only in
other declarations. -/
structure Declaree where
  name? : Option (List Char)
  isGeneral : Bool
  deriving Repr

/-- An attribute of an element as far as it is declared: whether its value is any text, and whether
it identifies elements. -/
structure Listed where
  element : List Char
  name : List Char
  isText : Bool
  isId : Bool
  deriving Repr

/-- Where a prolog stands: what can come next. -/
inductive Stage where
  | start
  | doctypeName
  | doctypeBody
  | doctypePublic
  | doctypeSystem
  | doctypeSubset
  | subset
  | doctypeEnd
  | afterDoctype
  | entityName
  | parameterName
  | entityBody (declaree : Declaree)
  | entityPublic (declaree : Declaree)
  | entitySystem (declaree : Declaree)
  | entityEnd (declaree : Declaree)
  | entityUse (declaree : Declaree)
  | formatName
  | formatBody
  | formatPublic
  | formatSystem
  | formatEnd
  | listOwner
  | listItem (element : List Char)
  | listType (element name : List Char)
  | choiceStart (item : Listed)
  | choiceEnd (item : Listed)
  | formatsOpen (item : Listed)
  | formatsStart (item : Listed)
  | formatsEnd (item : Listed)
  | listDefault (item : Listed)
  | listFixed (item : Listed)
  | elementName
  | elementBody
  | groupStart
  | mixedEnd
  | mixedName
  | mixedMore
  /-- In groups, the innermost first: the mark between its parts, if there was one. -/
  | groupPart (marks : List (Option Symbol))
  | groupMore (marks : List (Option Symbol))
  | declarationEnd
  deriving Repr

/-- Refuses a symbol that starts at `offset`. -/
def refuseSymbol {α : Type} (symbol : Symbol) (offset : Nat) : Except Fault α :=
  match symbol with
  | .parameterReference => .error ⟨.parameterReference, offset⟩
  | .declaration _ => .error ⟨.misplacedDeclaration, offset⟩
  | _ => .error ⟨.statement, offset⟩

/-- Whether a public identifier can hold a character. -/
def isPublicIdChar (c : Char) : Bool :=
  c.isAlphanum || " \n\r-'()+,./:=?;!*#@$_%".toList.contains c

/-- Refuses a public identifier at its first character that cannot be in one. -/
def checkPublicId (inside : List Cell) (offset : Nat) : Except Fault Unit :=
  match inside.dropWhile fun cell => cell.char?.any isPublicIdChar with
  | [] => .ok ()
  | bad => .error ⟨.publicId, offsetOf offset bad⟩

/-- Whether a symbol is this word. -/
def Symbol.isWord : Symbol → String → Bool
  | .name .plain chars, word => chars == word.toList
  | _, _ => false

/-- A name in which two names may be joined. -/
def Symbol.qualified? : Symbol → Option (List Char)
  | .name .plain chars => some chars
  | .name .qualified chars => some chars
  | _ => none

/-- A part of a group: a name, with or without a mark of how often it may occur. -/
def Symbol.isPart : Symbol → Bool
  | .name .plain _ => true
  | .name .qualified _ => true
  | .counted _ => true
  | _ => false

/-- The types of attributes whose values are words. -/
def wordTypes : List String :=
  ["ID", "IDREF", "IDREFS", "ENTITY", "ENTITIES", "NMTOKEN", "NMTOKENS"]

/-- What a new declaration declares: names that need no declaration and names that are declared
already are left as they are. -/
def declareeOf (d : Declarations) (name : List Char) : Declaree :=
  let isNew := (predefined? name).isNone && d.isKept && (d.entity? name).isNone
  ⟨if isNew then some name else none, true⟩

/-- Declares what a declaration declares. -/
def Declarations.declare (d : Declarations) (declaree : Declaree) (entity : Entity) : Declarations :=
  match declaree.name? with
  | some name => d.addEntity name entity
  | none => d

/-- The rest of an attribute list after the value for elements that do not have the attribute. -/
def Declarations.declareDefault (d : Declarations) (item : Listed) (inside : List Cell)
    (offset steps : Nat) : Except Fault (Declarations × Stage) :=
  if !d.isKept then .ok (d, .listItem item.element)
  else
    match expandValue d ⟨offset, offset + 1, item.isText⟩ steps [] false ⟨[], 0⟩ inside with
    | .error fault => .error fault
    | .ok e =>
        .ok (d.addRule item.element ⟨item.name, item.isText, some (e.value item.isText)⟩ false,
          .listItem item.element)

/-- The declaration that a keyword opens. -/
def Stage.ofKeyword? (keyword : List Char) : Option Stage :=
  match String.ofList keyword with
  | "ENTITY" => some .entityName
  | "ATTLIST" => some .listOwner
  | "ELEMENT" => some .elementName
  | "NOTATION" => some .formatName
  | _ => none

/-- The type of a listed attribute. -/
def Stage.ofType? (element name : List Char) (symbol : Symbol) : Option Stage :=
  match symbol with
  | .openGroup => some (.choiceStart ⟨element, name, false, false⟩)
  | _ =>
      if symbol.isWord "CDATA" then some (.listDefault ⟨element, name, true, false⟩)
      else if symbol.isWord "NOTATION" then some (.formatsOpen ⟨element, name, false, false⟩)
      else if wordTypes.any symbol.isWord then
        some (.listDefault ⟨element, name, false, symbol.isWord "ID"⟩)
      else none

/-- The groups after a mark between the parts of the innermost one; its marks must be alike. -/
def markGroups? (mark : Symbol) (isOther : Symbol → Bool) (marks : List (Option Symbol)) :
    Option (List (Option Symbol)) :=
  match marks with
  | last :: outer => if last.any isOther then none else some (some mark :: outer)
  | [] => some []

/-- A symbol inside the description of an element's content. -/
def Stage.describe? (stage : Stage) (symbol : Symbol) : Option Stage :=
  match stage, symbol with
  | .elementBody, .openGroup => some .groupStart
  | .elementBody, _ =>
      if symbol.isWord "EMPTY" || symbol.isWord "ANY" then some .declarationEnd else none
  | .groupStart, .poundName name => if name == "PCDATA".toList then some .mixedEnd else none
  | .groupStart, .openGroup => some (.groupPart [none, none])
  | .groupStart, _ => if symbol.isPart then some (.groupMore [none]) else none
  | .mixedEnd, .closeGroup .once => some .declarationEnd
  | .mixedEnd, .closeGroup .any => some .declarationEnd
  | .mixedEnd, .bar => some .mixedName
  | .mixedName, _ => symbol.qualified?.map fun _ => .mixedMore
  | .mixedMore, .closeGroup .any => some .declarationEnd
  | .mixedMore, .bar => some .mixedName
  | .groupPart marks, .openGroup => some (.groupPart (none :: marks))
  | .groupPart marks, _ => if symbol.isPart then some (.groupMore marks) else none
  | .groupMore (_ :: []), .closeGroup _ => some .declarationEnd
  | .groupMore (_ :: outer), .closeGroup _ => some (.groupMore outer)
  | .groupMore marks, .comma =>
      (markGroups? .comma (fun | .bar => true | _ => false) marks).map .groupPart
  | .groupMore marks, .bar =>
      (markGroups? .bar (fun | .comma => true | _ => false) marks).map .groupPart
  | _, _ => none

/-- The stage after a symbol, and what is then declared. The symbol starts at `offset`; `steps`
bounds the cells of values. Blanks can stand everywhere and are read before. -/
def Stage.next (d : Declarations) (stage : Stage) (symbol : Symbol) (offset steps : Nat) :
    Except Fault (Declarations × Stage) :=
  let enter (stage : Stage) : Except Fault (Declarations × Stage) := .ok (d, stage)
  let refuse : Except Fault (Declarations × Stage) := refuseSymbol symbol offset
  let toSome (stage? : Option Stage) : Except Fault (Declarations × Stage) :=
    match stage? with
    | some stage => enter stage
    | none => refuse
  let checked (inside : List Cell) (stage : Stage) : Except Fault (Declarations × Stage) :=
    (checkPublicId inside offset).map fun _ => (d, stage)
  match stage, symbol with
  | .start, .comment => enter .start
  | .start, .instruction => enter .start
  | .start, .openDeclaration keyword =>
      if keyword == "DOCTYPE".toList then enter .doctypeName else refuse
  | .afterDoctype, .comment => enter .afterDoctype
  | .afterDoctype, .instruction => enter .afterDoctype
  | .doctypeName, _ => toSome (symbol.qualified?.map fun _ => .doctypeBody)
  | .doctypeBody, .openBracket => enter .subset
  | .doctypeBody, .close => enter .afterDoctype
  | .doctypeBody, _ =>
      if symbol.isWord "SYSTEM" then enter .doctypeSystem
      else if symbol.isWord "PUBLIC" then enter .doctypePublic
      else refuse
  | .doctypePublic, .literal inside =>
      (checked inside .doctypeSystem).map fun (d, stage) => (d.lookOutside, stage)
  | .doctypeSystem, .literal _ => .ok (d.lookOutside, .doctypeSubset)
  | .doctypeSubset, .openBracket => enter .subset
  | .doctypeSubset, .close => enter .afterDoctype
  | .doctypeEnd, .close => enter .afterDoctype
  | .subset, .comment => enter .subset
  | .subset, .instruction => enter .subset
  | .subset, .parameterReference => .ok (d.skipReference, .subset)
  | .subset, .closeBracket => enter .doctypeEnd
  | .subset, .openDeclaration keyword => toSome (Stage.ofKeyword? keyword)
  | .entityName, .percent => enter .parameterName
  | .entityName, .name .plain name => enter (.entityBody (declareeOf d name))
  | .parameterName, .name .plain _ => enter (.entityBody ⟨none, false⟩)
  | .entityBody declaree, .literal inside =>
      if !d.isKept then enter .declarationEnd
      else
        (entityText (inside.length + 1) inside).map fun text =>
          (d.declare declaree (.text text), .declarationEnd)
  | .entityBody declaree, _ =>
      if symbol.isWord "SYSTEM" then enter (.entitySystem declaree)
      else if symbol.isWord "PUBLIC" then enter (.entityPublic declaree)
      else refuse
  | .entityPublic declaree, .literal inside => checked inside (.entitySystem declaree)
  | .entitySystem declaree, .literal _ => enter (.entityEnd declaree)
  | .entityEnd declaree, .close => .ok (d.declare declaree .external, .subset)
  | .entityEnd declaree, _ =>
      if declaree.isGeneral && symbol.isWord "NDATA" then enter (.entityUse declaree) else refuse
  | .entityUse declaree, .name .plain _ => .ok (d.declare declaree .unparsed, .declarationEnd)
  | .formatName, .name .plain _ => enter .formatBody
  | .formatBody, _ =>
      if symbol.isWord "SYSTEM" then enter .formatSystem
      else if symbol.isWord "PUBLIC" then enter .formatPublic
      else refuse
  | .formatPublic, .literal inside => checked inside .formatEnd
  | .formatSystem, .literal _ => enter .declarationEnd
  | .formatEnd, .literal _ => enter .declarationEnd
  | .formatEnd, .close => enter .subset
  | .listOwner, _ => toSome (symbol.qualified?.map .listItem)
  | .listItem _, .close => enter .subset
  | .listItem element, _ => toSome (symbol.qualified?.map (.listType element))
  | .listType element name, _ => toSome (Stage.ofType? element name symbol)
  | .choiceStart item, .name _ _ => enter (.choiceEnd item)
  | .choiceEnd item, .closeGroup .once => enter (.listDefault item)
  | .choiceEnd item, .bar => enter (.choiceStart item)
  | .formatsOpen item, .openGroup => enter (.formatsStart item)
  | .formatsStart item, .name .plain _ => enter (.formatsEnd item)
  | .formatsEnd item, .closeGroup .once => enter (.listDefault item)
  | .formatsEnd item, .bar => enter (.formatsStart item)
  | .listDefault item, .poundName name =>
      if name == "FIXED".toList then enter (.listFixed item)
      else if name == "IMPLIED".toList || name == "REQUIRED".toList then
        if d.isKept then
          .ok (d.addRule item.element ⟨item.name, item.isText, none⟩ item.isId,
            .listItem item.element)
        else enter (.listItem item.element)
      else refuse
  | .listDefault item, .literal inside => d.declareDefault item inside offset steps
  | .listFixed item, .literal inside => d.declareDefault item inside offset steps
  | .elementName, _ => toSome (symbol.qualified?.map fun _ => .elementBody)
  | .declarationEnd, .close => enter .subset
  | _, _ => toSome (stage.describe? symbol)

/-- Whether the first element can start here. -/
def Stage.admitsElement : Stage → Bool
  | .start => true
  | .afterDoctype => true
  | _ => false

/-- The input of a document: where it ends, whether half a unit is left there, and a bound for the
cells of all texts that are read. -/
structure Extent where
  stop : Nat
  hasHalf : Bool
  steps : Nat
  deriving Repr

/-- Reads a prolog up to the first element; `fuel` bounds its symbols. -/
def readProlog (extent : Extent) :
    Nat → Declarations → Stage → List Cell → Except Fault (Declarations × List Cell)
  | 0, _, _, _ => .error ⟨.noElement, extent.stop⟩
  | _ + 1, _, _, [] =>
      .error ⟨if extent.hasHalf then .unclosedToken else .noElement, extent.stop⟩
  | fuel + 1, d, stage, cell :: rest =>
      match scanSymbol cell rest with
      | .error stop => .error (Fault.ofStop cell.offset stop)
      | .ok (.blank, after) => readProlog extent fuel d stage after
      | .ok (.element, cells) =>
          if stage.admitsElement then .ok (d, cells) else refuseSymbol .element cell.offset
      | .ok (symbol, after) =>
          match stage.next d symbol cell.offset extent.steps with
          | .error fault => .error fault
          | .ok (d, stage) => readProlog extent fuel d stage after

end BucketRegion.Xml

import BucketRegion.Xml.Fault

/-!
# Namespaces

Prefixes of names and the names of spaces that they stand for.
-/

set_option autoImplicit false

namespace BucketRegion.Xml

/-- A name in a space, if it is in one. -/
structure Name where
  space? : Option (List Char)
  part : List Char
  deriving Repr, DecidableEq

/-- What prefixes stand for, the latest first. The empty one is that of names without a colon. -/
abbrev Scope := List (List Char × List Char)

namespace Scope

def xmlSpace : List Char := "http://www.w3.org/XML/1998/namespace".toList

def xmlnsSpace : List Char := "http://www.w3.org/2000/xmlns/".toList

/-- The prefix that needs no declaration. -/
def initial : Scope := [("xml".toList, xmlSpace)]

/-- The space of a prefix. -/
def space? (scope : Scope) (label : List Char) : Option (List Char) :=
  match scope.lookup label with
  | some [] => none
  | found => found

/-- Lets a prefix stand for a space, or the empty prefix for none. -/
def bind (scope : Scope) (label space : List Char) : Except Cause Scope :=
  if space.isEmpty && !label.isEmpty then .error .undeclaredPrefix
  else if label == "xmlns".toList then .error .reservedXmlns
  else if space.contains '}' then .error .statement
  else if label == "xml".toList then
    if space == xmlSpace then .ok ((label, space) :: scope) else .error .reservedXml
  else if space == xmlSpace || space == xmlnsSpace then .error .reservedSpace
  else .ok ((label, space) :: scope)

end Scope

/-- The prefix and the rest of a name, parted at its first colon; the prefix is empty if there is
none. -/
def splitPrefix (name : List Char) : List Char × List Char :=
  match name.dropWhile (· != ':') with
  | _ :: part => (name.takeWhile (· != ':'), part)
  | [] => ([], name)

/-- The prefix that an attribute declares. -/
def declaredPrefix? (name : List Char) : Option (List Char) :=
  if name == "xmlns".toList then some []
  else
    match splitPrefix name with
    | ([], _) => none
    | (label, part) => if label == "xmlns".toList then some part else none

/-- The name of an element in scope. -/
def Scope.elementName (scope : Scope) (name : List Char) : Except Cause Name :=
  match splitPrefix name with
  | ([], part) => .ok ⟨scope.space? [], part⟩
  | (label, part) =>
      match scope.space? label with
      | some space => .ok ⟨some space, part⟩
      | none => .error .unboundPrefix

/-- Refuses attributes, in their order, with a prefix that stands for nothing or with the name of
an earlier one. -/
def Scope.checkAttributes (scope : Scope) : List Name → List (List Char) → Except Cause Unit
  | _, [] => .ok ()
  | seen, name :: names =>
      match splitPrefix name with
      | ([], _) => scope.checkAttributes seen names
      | (label, part) =>
          match scope.space? label with
          | none => .error .unboundPrefix
          | some space =>
              let found : Name := ⟨some space, part⟩
              if seen.contains found then .error .duplicateAttribute
              else scope.checkAttributes (found :: seen) names

end BucketRegion.Xml

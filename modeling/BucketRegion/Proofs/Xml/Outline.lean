import BucketRegion.Proofs.Xml.Document

/-!
# Outlines of documents

Documents with one outline have the same local names and texts, whatever comments and attributes
they have, in whatever spaces their names are, and whatever prefixes stand for these.
-/

set_option autoImplicit false

namespace BucketRegion.Xml

/-- The local name and the text of an element. -/
def Element.field (e : Element) : List Char × String := (e.name.part, e.text)

/-- What is left of written content without comments, attributes and prefixes, and without the text
that follows elements. -/
inductive Outline where
  | done
  | element (part text : List Char) (inside rest : Outline)
  deriving Repr, DecidableEq

def Outline.fields : Outline → List (List Char × String)
  | done => []
  | element part text _ rest => (part, String.ofList text) :: rest.fields

/-- A name without its prefix. -/
def localPart (name : List Char) : List Char := (splitPrefix name).2

namespace Written

/-- The text in front of the first element. -/
def lead : Written → List Char
  | done => []
  | comment _ tail rest => tail ++ rest.lead
  | element _ _ _ _ _ _ => []

def outline : Written → Outline
  | done => .done
  | comment _ _ rest => rest.outline
  | element tag _ text inside _ rest =>
      .element (localPart tag) (text ++ inside.lead) inside.outline rest.outline

end Written

theorem part_of_elementName {scope : Scope} {tag : List Char} {name : Name}
    (named : scope.elementName tag = .ok name) : name.part = localPart tag := by
  unfold Scope.elementName at named
  unfold localPart
  split at named
  · next part shown =>
      cases named
      rw [shown]
  · next label part _ shown =>
      rw [shown]
      split at named
      · cases named
        rfl
      · cases named

theorem part_of_opens {scope inner : Scope} {tag : List Char}
    {pairs : List (List Char × List Char)} {name : Name}
    (opened : opens scope tag pairs = .ok (name, inner)) : name.part = localPart tag := by
  unfold opens at opened
  split at opened
  · cases opened
  · next t _ =>
      cases finished : t.finish tag with
      | error cause =>
          rw [finished] at opened
          cases opened
      | ok found =>
          rw [finished] at opened
          cases opened
          unfold TagReading.finish at finished
          split at finished
          · cases finished
          · exact part_of_elementName finished

theorem Written.Denotes.fields_eq {scope : Scope} {w : Written} {lead : List Char}
    {elements : List Element} (denotes : w.Denotes scope lead elements) :
    w.lead = lead ∧ elements.map Element.field = w.outline.fields := by
  induction denotes with
  | done => exact ⟨rfl, rfl⟩
  | comment _ _ _ ih => exact ⟨congrArg _ ih.1, ih.2⟩
  | element _ _ _ opened _ _ _ _ ihInside ihLater =>
      refine ⟨rfl, ?_⟩
      rw [outline, Outline.fields, List.map_cons, ihLater.2, Element.field, part_of_opens opened,
        ihInside.1]

namespace Document

variable {w w' : Document} {root root' : Element}

theorem Denotes.root_eq (document : w.Denotes root) :
    ∃ text inside, w.root.outline = .element root.name.part text inside .done ∧
      root.children.map Element.field = inside.fields := by
  obtain ⟨tag, pairs, text, inside, shown⟩ := document.single
  have element := document.element
  rw [shown] at element ⊢
  cases element with
  | element _ _ _ opened _ within _ later =>
      cases later
      refine ⟨text ++ inside.lead, inside.outline, ?_, within.fields_eq.2⟩
      rw [Written.outline, part_of_opens opened]
      rfl

/-- The elements of documents with one outline have the same local name, and so have their children,
which also have the same texts. -/
theorem Denotes.field_eq (document : w.Denotes root) (document' : w'.Denotes root')
    (same : w.root.outline = w'.root.outline) :
    root.name.part = root'.name.part ∧
      root.children.map Element.field = root'.children.map Element.field := by
  obtain ⟨_, inside, outlined, children⟩ := document.root_eq
  obtain ⟨_, inside', outlined', children'⟩ := document'.root_eq
  rw [outlined, outlined'] at same
  obtain ⟨part, _, within, _⟩ := Outline.element.inj same
  rw [children, children', within]
  exact ⟨part, rfl⟩

example :
    (Written.element "e:Error".toList [("xmlns:e".toList, "urn:e".toList)] []
        (.comment "of".toList [] (.element "e:Code".toList [("n".toList, "1".toList)] "No".toList
          (.comment [] "Key".toList .done) [] .done)) [] .done).outline =
      (Written.element "Error".toList [] []
        (.element "Code".toList [] "NoKey".toList .done [] .done) [] .done).outline := by
  decide

end Document

end BucketRegion.Xml

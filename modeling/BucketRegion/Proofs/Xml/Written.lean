import BucketRegion.Proofs.Xml.Tags

/-!
# Content that is read back

Content is written as comments and elements, each followed by text. What is read of it is what it
denotes: an element has the name that its tag has in scope, the text in front of its first child,
and its children. Comments, and attributes that declare no prefix, leave nothing.
-/

set_option autoImplicit false

namespace BucketRegion.Xml

/-! ## Attributes -/

/-- A character of an attribute's value as it is read. -/
def plainBlank (c : Char) : Char := if isBlank c then ' ' else c

theorem expandValue_spell (d : Declarations) {value : List Char}
    (plain : isPlainValue value = true) {fuel : Nat} (enough : value.length ≤ fuel)
    (base direct : Nat) (expanding : List (List Char)) (e : Expansion) (start : Nat) :
    expandValue d ⟨base, direct, true⟩ fuel expanding false e (spell start value) =
      .ok { e with text := (value.map plainBlank).reverse ++ e.text } := by
  induction value generalizing fuel e start with
  | nil => cases fuel <;> rfl
  | cons c value ih =>
      rw [isPlainValue, List.all_cons, Bool.and_eq_true, ← isPlainValue] at plain
      obtain ⟨here, later⟩ := plain
      simp only [Bool.and_eq_true, bne_iff_ne, ne_eq] at here
      obtain ⟨⟨_, opening⟩, reference⟩ := here
      cases fuel with
      | zero => cases enough
      | succ fuel =>
          have blank : (if isBlank c then e.addBlank true else { e with text := c :: e.text }) =
              { e with text := plainBlank c :: e.text } := by
            rw [plainBlank]
            split <;> rfl
          have char : (cellOf start c).char? = some c := rfl
          rw [spell, expandValue]
          simp only [Bool.and_false, Bool.false_eq_true, if_false, char]
          rw [blank, ih later (Nat.le_of_succ_le_succ enough)]
          simp

namespace TagReading

/-- Takes the attributes of a tag one after the other. -/
def take (t : TagReading) : List (List Char × List Char) → Except Cause TagReading
  | [] => .ok t
  | (name, value) :: more =>
      match { t with seen := name :: t.seen }.add name (value.map plainBlank) with
      | .error cause => .error cause
      | .ok t => t.take more

theorem seen_of_add {t t' : TagReading} {name value : List Char}
    (added : t.add name value = .ok t') : t'.seen = t.seen := by
  unfold add at added
  split at added
  · next label _ =>
      cases bound : t.scope.bind label value with
      | error cause =>
          rw [bound] at added
          cases added
      | ok scope =>
          rw [bound] at added
          cases added
          rfl
  · cases added
    rfl

theorem add_octets (t : TagReading) (name value : List Char) (n : Nat) :
    { t with octets := n }.add name value =
      (t.add name value).map fun t => { t with octets := n } := by
  unfold add
  split
  · next label _ => cases t.scope.bind label value <;> rfl
  · rfl

/-- What has been expanded before does not matter. -/
theorem take_octets (pairs : List (List Char × List Char)) (t : TagReading) (n : Nat) :
    { t with octets := n }.take pairs = (t.take pairs).map fun t => { t with octets := n } := by
  induction pairs generalizing t with
  | nil => rfl
  | cons pair pairs ih =>
      obtain ⟨name, value⟩ := pair
      have added := add_octets { t with seen := name :: t.seen } name (value.map plainBlank) n
      rw [take, take, added]
      cases { t with seen := name :: t.seen }.add name (value.map plainBlank) with
      | error cause => rfl
      | ok t => exact ih t

variable {pairs : List (List Char × List Char)} {found : List Attribute} {steps : Nat}

/-- Attributes with different names, all of whose values can be expanded, are taken. -/
theorem addHeld_of_take (d : Declarations) (base direct : Nat) (expanding : List (List Char))
    (holds : List.Forall₂ Holds pairs found) (writable : ∀ pair ∈ pairs, isWritable pair = true)
    (short : ∀ pair ∈ pairs, pair.2.length ≤ steps) (distinct : (pairs.map Prod.fst).Nodup)
    {t t' : TagReading} (unseen : ∀ pair ∈ pairs, pair.1 ∉ t.seen) (taken : t.take pairs = .ok t') :
    t.addHeld d [] base direct steps expanding found = .ok t' := by
  induction holds generalizing t with
  | nil =>
      cases taken
      rw [addHeld]
  | @cons pair a pairs found held _ ih =>
      obtain ⟨named, start, spelled⟩ := held
      obtain ⟨here, writableLater⟩ := List.forall_mem_cons.mp writable
      obtain ⟨shortHere, shortLater⟩ := List.forall_mem_cons.mp short
      obtain ⟨unseenHere, unseenLater⟩ := List.forall_mem_cons.mp unseen
      obtain ⟨apart, distinctLater⟩ := List.nodup_cons.mp distinct
      rw [isWritable, Bool.and_eq_true] at here
      have new : t.seen.contains a.name = false := by
        rw [named]
        simpa using unseenHere
      have value := expandValue_spell d here.2 shortHere base direct expanding ⟨[], t.octets⟩ start
      rw [take] at taken
      split at taken
      · cases taken
      · next t₁ added =>
          have unseenNext : ∀ other ∈ pairs, other.1 ∉ t₁.seen := by
            intro other member
            rw [seen_of_add added]
            intro among
            rcases List.mem_cons.mp among with same | before
            · exact apart (same ▸ List.mem_map_of_mem member)
            · exact unseenLater other member before
          have later := ih writableLater shortLater distinctLater unseenNext taken
          rw [addHeld, new]
          simp only [Bool.false_eq_true, if_false, List.find?_nil, Option.map_none,
            Option.getD_none, spelled, value, Expansion.value, List.append_nil,
            List.reverse_reverse, named, added, later]

end TagReading

/-- The name of the element that a tag opens, and the prefixes inside it. -/
def opens (scope : Scope) (tag : List Char) (pairs : List (List Char × List Char)) :
    Except Cause (Name × Scope) :=
  match (⟨[], [], scope, 0⟩ : TagReading).take pairs with
  | .error cause => .error cause
  | .ok t => (t.finish tag).map fun name => (name, t.scope)

/-! ## Open elements -/

/-- An open element after more text and more children. -/
def OpenElement.extend (o : OpenElement) (text : List Char) (children : List Element) :
    OpenElement :=
  { o with
    text := if o.children.isEmpty then text.reverse ++ o.text else o.text
    children := children.reverse ++ o.children }

namespace OpenElement

theorem extend_nil (o : OpenElement) : o.extend [] [] = o := by
  unfold extend
  simp

theorem extend_text (o : OpenElement) (text more : List Char) (children : List Element) :
    (o.extend text []).extend more children = o.extend (text ++ more) children := by
  unfold extend
  cases o.children with
  | nil => simp
  | cons child children => rfl

/-- After a child, text is not kept. -/
theorem extend_child (o : OpenElement) (child : Element) (text : List Char)
    (children : List Element) :
    (o.extend [] [child]).extend text children = o.extend [] (child :: children) := by
  unfold extend
  cases o.children <;> simp

end OpenElement

namespace Content

/-- The content with the innermost element extended. -/
def extend (c : Content) (text : List Char) (children : List Element) : Content :=
  match c.opened with
  | [] => c
  | o :: outer => { c with opened := o.extend text children :: outer }

variable {c : Content} {o : OpenElement} {outer : List OpenElement}

theorem opened_extend (opened : c.opened = o :: outer) (text : List Char)
    (children : List Element) :
    (c.extend text children).opened = o.extend text children :: outer := by
  unfold extend
  rw [opened]

theorem addChar_eq_extend (c : Content) (char : Char) : c.addChar char = c.extend [char] [] := by
  obtain ⟨opened, root?, skipped?, octets⟩ := c
  cases opened with
  | nil => rfl
  | cons o outer =>
      simp only [addChar, extend, OpenElement.extend]
      cases o.children.isEmpty <;> rfl

theorem extend_nil (c : Content) : c.extend [] [] = c := by
  obtain ⟨opened, root?, skipped?, octets⟩ := c
  cases opened with
  | nil => rfl
  | cons o outer => simp only [extend, OpenElement.extend_nil]

theorem extend_extend_text (c : Content) (text more : List Char) (children : List Element) :
    (c.extend text []).extend more children = c.extend (text ++ more) children := by
  obtain ⟨opened, root?, skipped?, octets⟩ := c
  cases opened with
  | nil => rfl
  | cons o outer => simp only [extend, OpenElement.extend_text]

theorem extend_extend_child (c : Content) (child : Element) (text : List Char)
    (children : List Element) :
    (c.extend [] [child]).extend text children = c.extend [] (child :: children) := by
  obtain ⟨opened, root?, skipped?, octets⟩ := c
  cases opened with
  | nil => rfl
  | cons o outer => simp only [extend, OpenElement.extend_child]

/-- An element that is opened, extended and ended is one more child. -/
theorem pop_extend_push (opened : c.opened = o :: outer) (tag : List Char) (name : Name)
    (inner : Scope) (text : List Char) (children : List Element) :
    ((c.push tag name inner).extend text children).pop =
      c.extend [] [⟨name, String.ofList text, children⟩] := by
  obtain ⟨_, root?, skipped?, octets⟩ := c
  cases opened
  simp [push, extend, pop, OpenElement.extend, OpenElement.element]

theorem pop_extend_push_of_closed (closed : c.opened = []) (tag : List Char) (name : Name)
    (inner : Scope) (text : List Char) (children : List Element) :
    ((c.push tag name inner).extend text children).pop =
      { c with root? := some ⟨name, String.ofList text, children⟩ } := by
  obtain ⟨_, root?, skipped?, octets⟩ := c
  cases closed
  simp [push, extend, pop, OpenElement.extend, OpenElement.element]

end Content

/-! ## Reading on -/

/-- Content that is read goes on as other content in front of other cells. -/
def GoesOn (d : Declarations) (extent : Extent) (frame : Frame) (c : Content) (cells : List Cell)
    (c' : Content) (after : List Cell) : Prop :=
  ∃ n, n + after.length ≤ cells.length ∧ ∀ fuel,
    readContent d extent (n + fuel) frame c cells = readContent d extent fuel frame c' after

namespace GoesOn

variable {d : Declarations} {extent : Extent} {frame : Frame} {c c' c'' : Content}
variable {cells after later : List Cell}

theorem refl : GoesOn d extent frame c cells c cells :=
  ⟨0, Nat.le_of_eq (Nat.zero_add _), fun fuel => by rw [Nat.zero_add]⟩

theorem trans (first : GoesOn d extent frame c cells c' after)
    (second : GoesOn d extent frame c' after c'' later) :
    GoesOn d extent frame c cells c'' later := by
  obtain ⟨n, shorter, first⟩ := first
  obtain ⟨m, shorterStill, second⟩ := second
  refine ⟨n + m, by omega, fun fuel => ?_⟩
  rw [Nat.add_assoc, first, second]

theorem of_step {cell : Cell} {rest : List Cell} (shorter : after.length ≤ rest.length)
    (step : ∀ fuel, readContent d extent (fuel + 1) frame c (cell :: rest) =
      readContent d extent fuel frame c' after) :
    GoesOn d extent frame c (cell :: rest) c' after := by
  refine ⟨1, ?_, fun fuel => ?_⟩
  · rw [List.length_cons]
    omega
  · rw [Nat.add_comm, step]

end GoesOn

section

variable {d : Declarations} {extent : Extent} {frame : Frame} {c : Content} {rest : List Char}

theorem goesOn_text (direct : frame.direct? = none) {text : List Char} (plain : IsPlainText text)
    (offset : Nat) :
    GoesOn d extent frame c (spell offset (text ++ '<' :: rest)) (c.extend text [])
      (spell (offset + octetCount text) ('<' :: rest)) := by
  have ends : ∀ e ∈ ('<' :: rest).head?, e = '<' := by
    intro e first
    cases first
    rfl
  induction text generalizing c offset with
  | nil =>
      rw [Content.extend_nil]
      exact GoesOn.refl
  | cons char text ih =>
      have later := ih (c := c.addChar char) plain.of_cons (offset + (Utf8.encodeChar char).length)
      rw [Content.addChar_eq_extend, Content.extend_extend_text] at later
      rw [octetCount_cons, ← Nat.add_assoc]
      have more : (spell (offset + (Utf8.encodeChar char).length)
          (text ++ '<' :: rest)).isEmpty = false := by
        cases text <;> rfl
      have piece := scanPiece_text plain ends offset (offset + (Utf8.encodeChar char).length)
      rw [List.cons_append, spell]
      refine GoesOn.trans (GoesOn.of_step (Nat.le_refl _) fun fuel => ?_) later
      rw [readContent, piece]
      simp only [more, direct, Bool.and_false, Bool.false_and, Bool.false_eq_true, if_false,
        Option.isSome_none, Content.addChar_eq_extend]

theorem goesOn_comment (direct : frame.direct? = none) {cs : List Char} (plain : IsCommentText cs)
    (offset : Nat) :
    GoesOn d extent frame c (spell offset (writeComment cs ++ rest)) c
      (spell (offset + octetCount (writeComment cs)) rest) := by
  have piece := scanPiece_comment plain offset rest
  have feed : (cellOf offset '<').is '\r' = false := rfl
  rw [writeComment_append, spell_of_single (by decide)]
  refine GoesOn.of_step ?_ fun fuel => ?_
  · simp only [length_spell, List.length_append, List.length_cons]
    omega
  · rw [readContent, piece, feed]
    simp only [direct, Bool.false_and, Bool.false_eq_true, if_false, Option.isSome_none]

theorem openTag_of_opens {tag : List Char} {pairs : List (List Char × List Char)}
    {found : List Attribute} (holds : List.Forall₂ Holds pairs found)
    (writable : ∀ pair ∈ pairs, isWritable pair = true) (distinct : (pairs.map Prod.fst).Nodup)
    {steps : Nat} (short : ∀ pair ∈ pairs, pair.2.length ≤ steps) (rules : d.rules tag = [])
    {name : Name} {inner : Scope} (opened : opens c.scope tag pairs = .ok (name, inner))
    (base octets : Nat) :
    c.openTag d frame steps base octets ⟨tag, found, false⟩ = .ok (c.push tag name inner) := by
  unfold opens at opened
  have taken := TagReading.take_octets pairs ⟨[], [], c.scope, 0⟩ c.octets
  split at opened
  · cases opened
  · next t read =>
      cases finished : t.finish tag with
      | error cause =>
          rw [finished] at opened
          cases opened
      | ok found' =>
          rw [finished] at opened
          cases opened
          rw [read] at taken
          have held := TagReading.addHeld_of_take d base octets frame.expanding holds writable short
            distinct (fun _ _ => List.not_mem_nil) taken
          have same : TagReading.finish { t with octets := c.octets } tag = .ok name := finished
          unfold Content.openTag
          simp only [rules, held, TagReading.addDeclared, same]
          rfl

theorem goesOn_startTag (direct : frame.direct? = none) {tag : List Char}
    {pairs : List (List Char × List Char)} (named : isQualified tag = true)
    (writable : ∀ pair ∈ pairs, isWritable pair = true) (distinct : (pairs.map Prod.fst).Nodup)
    (short : ∀ pair ∈ pairs, pair.2.length ≤ extent.steps) (rules : d.rules tag = [])
    {name : Name} {inner : Scope} (opened : opens c.scope tag pairs = .ok (name, inner))
    (offset : Nat) :
    GoesOn d extent frame c (spell offset (writeStart tag pairs ++ rest)) (c.push tag name inner)
      (spell (offset + octetCount (writeStart tag pairs)) rest) := by
  obtain ⟨found, holds, piece⟩ := scanPiece_startTag named writable offset rest
  have feed : (cellOf offset '<').is '\r' = false := rfl
  rw [writeStart_append, spell_of_single (by decide)]
  refine GoesOn.of_step ?_ fun fuel => ?_
  · simp only [length_spell, List.length_append, List.length_cons]
    omega
  · have isOpen : (c.push tag name inner).opened.isEmpty = false := rfl
    rw [readContent, piece, feed]
    simp only [direct, Bool.false_and, Bool.false_eq_true, if_false, Option.isSome_none,
      openTag_of_opens holds writable distinct short rules opened, isOpen]

theorem closeTag_of_opened {tag : List Char} {o : OpenElement} {outer : List OpenElement}
    (floor : frame.floor ≤ outer.length) (opened : c.opened = o :: outer) (same : o.tag = tag)
    (base start : Nat) : c.closeTag frame base start tag = .ok c.pop := by
  have hasOpened : frame.hasOpened c = true := by
    rw [Frame.hasOpened, opened]
    simp
    omega
  unfold Content.closeTag
  rw [hasOpened, opened]
  simp [same]

theorem readContent_endTag (direct : frame.direct? = none) {tag : List Char}
    (named : isQualified tag = true) {o : OpenElement} {outer : List OpenElement}
    (floor : frame.floor ≤ outer.length) (opened : c.opened = o :: outer) (same : o.tag = tag)
    (fuel offset : Nat) :
    readContent d extent (fuel + 1) frame c (spell offset (writeEnd tag ++ rest)) =
      if c.pop.opened.isEmpty then
        .ok (c.pop, spell (offset + octetCount (writeEnd tag)) rest)
      else readContent d extent fuel frame c.pop
        (spell (offset + octetCount (writeEnd tag)) rest) := by
  obtain ⟨start, piece⟩ := scanPiece_endTag named offset rest
  have feed : (cellOf offset '<').is '\r' = false := rfl
  rw [writeEnd_append, spell_of_single (by decide), readContent, piece, feed]
  simp only [direct, Bool.false_and, Bool.false_eq_true, if_false, Option.isSome_none,
    closeTag_of_opened floor opened same]

theorem goesOn_endTag (direct : frame.direct? = none) {tag : List Char}
    (named : isQualified tag = true) {o parent : OpenElement} {outer : List OpenElement}
    (floor : frame.floor ≤ (parent :: outer).length) (opened : c.opened = o :: parent :: outer)
    (same : o.tag = tag) (offset : Nat) :
    GoesOn d extent frame c (spell offset (writeEnd tag ++ rest)) c.pop
      (spell (offset + octetCount (writeEnd tag)) rest) := by
  have isOpen : c.pop.opened.isEmpty = false := by
    rw [Content.pop, opened]
    rfl
  refine ⟨1, ?_, fun fuel => ?_⟩
  · simp only [length_spell, writeEnd, List.length_append, List.length_cons]
    omega
  · rw [Nat.add_comm, readContent_endTag direct named floor opened same, isOpen]
    rfl

end

/-! ## Written content -/

/-- Comments and elements, each with the text after it; an element has text and content in it. -/
inductive Written where
  | done
  | comment (cs tail : List Char) (rest : Written)
  | element (tag : List Char) (pairs : List (List Char × List Char)) (text : List Char)
      (inside : Written) (tail : List Char) (rest : Written)

namespace Written

def write : Written → List Char
  | done => []
  | comment cs tail rest => (writeComment cs ++ tail) ++ rest.write
  | element tag pairs text inside tail rest =>
      (writeStart tag pairs ++ text) ++ (inside.write ++ ((writeEnd tag ++ tail) ++ rest.write))

/-- In a scope, content denotes the text in front of its first element, and its elements. -/
inductive Denotes : Scope → Written → List Char → List Element → Prop
  | done {scope : Scope} : Denotes scope done [] []
  | comment {scope : Scope} {cs tail lead : List Char} {rest : Written} {elements : List Element}
      (comment : IsCommentText cs) (plain : IsPlainText tail)
      (later : Denotes scope rest lead elements) :
      Denotes scope (.comment cs tail rest) (tail ++ lead) elements
  | element {scope inner : Scope} {tag text tail lead after : List Char} {name : Name}
      {pairs : List (List Char × List Char)} {inside rest : Written}
      {children elements : List Element}
      (named : isQualified tag = true) (writable : ∀ pair ∈ pairs, isWritable pair = true)
      (distinct : (pairs.map Prod.fst).Nodup) (opened : opens scope tag pairs = .ok (name, inner))
      (plain : IsPlainText text) (within : Denotes inner inside lead children)
      (plainTail : IsPlainText tail) (later : Denotes scope rest after elements) :
      Denotes scope (.element tag pairs text inside tail rest) []
        (⟨name, String.ofList (text ++ lead), children⟩ :: elements)

end Written

/-- Text that starts with markup, and is read up to other markup after it. -/
structure Leads (d : Declarations) (extent : Extent) (frame : Frame) (c : Content) (cs : List Char)
    (c' : Content) : Prop where
  starts : ∀ first ∈ cs.head?, first = '<'
  goesOn (offset : Nat) (rest : List Char) :
    GoesOn d extent frame c (spell offset (cs ++ '<' :: rest)) c'
      (spell (offset + octetCount cs) ('<' :: rest))

namespace Leads

variable {d : Declarations} {extent : Extent} {frame : Frame} {c c' c'' : Content}
variable {cs ds : List Char}

theorem refl : Leads d extent frame c [] c where
  starts first none := by cases none
  goesOn offset rest := GoesOn.refl

theorem trans (first : Leads d extent frame c cs c') (second : Leads d extent frame c' ds c'') :
    Leads d extent frame c (cs ++ ds) c'' where
  starts e leading := by
    cases cs with
    | nil => exact second.starts e leading
    | cons c cs => exact first.starts e leading
  goesOn offset rest := by
    have next : ∃ more, ds ++ '<' :: rest = '<' :: more := by
      cases ds with
      | nil => exact ⟨rest, rfl⟩
      | cons e ds =>
          cases second.starts e rfl
          exact ⟨_, rfl⟩
    obtain ⟨more, shown⟩ := next
    have front := first.goesOn offset more
    rw [← shown] at front
    rw [List.append_assoc, octetCount_append, ← Nat.add_assoc]
    exact front.trans (second.goesOn (offset + octetCount cs) rest)

/-- Markup with text after it. -/
theorem of_markup {text : List Char} (markup : List Char) (starts : markup.head? = some '<')
    (goesOn : ∀ offset rest, GoesOn d extent frame c (spell offset (markup ++ rest)) c'
      (spell (offset + octetCount markup) rest))
    (direct : frame.direct? = none) (plain : IsPlainText text) :
    Leads d extent frame c (markup ++ text) (c'.extend text []) where
  starts e leading := by
    rw [List.head?_append, starts] at leading
    cases leading
    rfl
  goesOn offset rest := by
    rw [List.append_assoc, octetCount_append, ← Nat.add_assoc]
    exact (goesOn offset _).trans (goesOn_text direct plain _)

end Leads

namespace Written

variable {d : Declarations} {extent : Extent} {frame : Frame} {scope : Scope} {w : Written}
variable {lead : List Char} {elements : List Element}

/-- A tag opens an element, and what is in it is added to it. -/
theorem leads_opened (direct : frame.direct? = none) (rules : ∀ tag, d.rules tag = [])
    {inner : Scope} {tag text : List Char} {name : Name} {pairs : List (List Char × List Char)}
    {inside : Written} {c : Content} (named : isQualified tag = true)
    (writable : ∀ pair ∈ pairs, isWritable pair = true) (distinct : (pairs.map Prod.fst).Nodup)
    (opened : opens c.scope tag pairs = .ok (name, inner)) (plain : IsPlainText text)
    (short : (writeStart tag pairs).length ≤ extent.steps)
    (content : Leads d extent frame ((c.push tag name inner).extend text []) inside.write
      (((c.push tag name inner).extend text []).extend lead elements)) :
    Leads d extent frame c ((writeStart tag pairs ++ text) ++ inside.write)
      ((c.push tag name inner).extend (text ++ lead) elements) := by
  have values : ∀ pair ∈ pairs, pair.2.length ≤ extent.steps := by
    intro pair member
    have value := length_value_le member
    simp only [writeStart, List.length_append] at short
    omega
  have start : Leads d extent frame c (writeStart tag pairs ++ text) _ :=
    Leads.of_markup (writeStart tag pairs) rfl
      (fun offset rest => goesOn_startTag direct named writable distinct values (rules tag) opened
        offset) direct plain
  rw [Content.extend_extend_text] at content
  exact start.trans content

/-- What content denotes is added to the innermost element when it is read. -/
theorem Denotes.leads (denotes : Denotes scope w lead elements) (direct : frame.direct? = none)
    (floor : frame.floor = 0) (rules : ∀ tag, d.rules tag = [])
    (short : w.write.length ≤ extent.steps) {c : Content} {o : OpenElement}
    {outer : List OpenElement} (opened : c.opened = o :: outer) (inScope : o.scope = scope) :
    Leads d extent frame c w.write (c.extend lead elements) := by
  induction denotes generalizing c o outer with
  | done =>
      rw [Content.extend_nil]
      exact Leads.refl
  | comment comment plain later ih =>
      rename_i cs tail lead rest elements
      have first : Leads d extent frame c (writeComment cs ++ tail) _ :=
        Leads.of_markup (writeComment cs) rfl
          (fun offset rest => goesOn_comment direct comment offset) direct plain
      rw [write, List.length_append] at short
      have after := ih (by omega) (Content.opened_extend opened tail []) inScope
      rw [Content.extend_extend_text] at after
      exact first.trans after
  | @element scope inner tag text tail lead after name pairs inside rest children elements
      named writable distinct opens plain within plainTail later ihInside ihLater =>
      simp only [write, List.length_append] at short
      have c_scope : c.scope = scope := by
        rw [Content.scope, opened]
        exact inScope
      have isOpen : (c.push tag name inner).opened = ⟨tag, name, inner, [], []⟩ :: o :: outer := by
        rw [Content.push, opened]
      have begun := leads_opened direct rules named writable distinct (c_scope ▸ opens) plain
        (by omega) (ihInside (by omega) (Content.opened_extend isOpen text []) rfl)
      have ended : Leads d extent frame _ (writeEnd tag ++ tail) _ :=
        Leads.of_markup (writeEnd tag) rfl
          (fun offset rest => goesOn_endTag direct named (floor ▸ Nat.zero_le _)
            (Content.opened_extend isOpen (text ++ lead) children) rfl offset) direct plainTail
      rw [Content.pop_extend_push opened] at ended
      have added := Content.opened_extend opened []
        [⟨name, String.ofList (text ++ lead), children⟩]
      have onward := ihLater (by omega) (Content.opened_extend added tail []) inScope
      rw [Content.extend_extend_text, Content.extend_extend_child c _ (tail ++ after)] at onward
      have whole := begun.trans (ended.trans onward)
      rw [List.append_assoc] at whole
      exact whole

end Written

end BucketRegion.Xml

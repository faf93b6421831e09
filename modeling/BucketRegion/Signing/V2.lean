import BucketRegion.Bytes.Base64
import BucketRegion.Calendar.Clock
import BucketRegion.Digest.Hmac
import BucketRegion.Signing.Basic
import BucketRegion.Text.Blank

/-!
# Signatures of version 2

The text that is signed names the method, a few headers, the date, and the resource: the path and
those parameters of the query that name a part of it.
-/

set_option autoImplicit false

namespace BucketRegion.Signing.V2

open Http (Request)

/-- Parameters that name a part of a resource. -/
def subresources : List String :=
  ["accelerate", "acl", "cors", "defaultObjectAcl", "location", "logging", "partNumber", "policy",
    "requestPayment", "torrent", "versioning", "versionId", "versions", "website", "uploads",
    "uploadId", "response-content-type", "response-content-language", "response-expires",
    "response-cache-control", "response-content-disposition", "response-content-encoding",
    "delete", "lifecycle", "tagging", "restore", "storageClass", "notification", "replication",
    "analytics", "metrics", "inventory", "select", "select-type",
    "object-lock"]

/-- A part of a query without the equals sign at its end: an empty value is no value. -/
def dropEquals (part : List Char) : List Char :=
  if part.getLast? == some '=' then part.dropLast else part

/-- The URL whose text is signed. -/
def signingUrl (url : Url) : Except UrlError Url :=
  match url.query.getD "" with
  | "" => .ok url
  | query =>
      let parts := (Text.splitOn '&' query.toList).map dropEquals
      url.change { query := some (String.ofList (Text.joinWith ['&'] parts)) }

/-- The trimmed value of a header, or nothing. -/
def standardValue (lines : List (String × String)) (name : String) : String :=
  match lines.find? fun line => Text.lower line.1 == name with
  | some (_, value) => Text.trim value
  | none => ""

/-- The service's own headers in ascending order, one a line. -/
def customHeaders (lines : List (String × String)) : List String :=
  let own := (lines.map fun (name, value) => (Text.lower name, value)).filter fun line =>
    (Text.dropLead? "x-amz-".toList line.1.toList).isSome
  (((own.map (·.1)).mergeSort fun a b => a ≤ b).eraseDups).map fun name =>
    name ++ ":" ++ ",".intercalate
      ((own.filter fun line => line.1 == name).map fun line => Text.trim line.2)

/-- The subresources of a query in ascending order, their values decoded. -/
def resourceParts (query : List Char) : List (String × Option String) :=
  let parts := (Text.splitOn '&' query).map fun part =>
    match Text.cut? '=' part with
    | some (key, value) => (String.ofList key, some (Url.decodeText (String.ofList value)))
    | none => (String.ofList part, none)
  (parts.filter fun part => subresources.contains part.1).mergeSort fun a b => a.1 ≤ b.1

/-- The path and the subresources of a URL. -/
def canonicalResource (url : Url.Reference) : String :=
  let parts := if url.query.isEmpty then [] else resourceParts url.query
  String.ofList url.path ++
    if parts.isEmpty then ""
    else "?" ++ "&".intercalate (parts.map fun (key, value) =>
      value.elim key fun value => key ++ "=" ++ value)

/-- The text that is signed. -/
def stringToSign (method : String) (url : Url.Reference) (lines : List (String × String))
    (date : String) : String :=
  "\n".intercalate <|
    [Text.upper method, standardValue lines "content-md5", standardValue lines "content-type",
      date] ++ customHeaders lines ++ [canonicalResource url]

def signature (key : Bytes) (text : String) : String :=
  Base64.encode (Digest.hmacSha1 key (Utf8.encode text))

/-- Signs a request. The signature is made before any header is set, and the date is set before it. -/
def sign (credentials : Credentials) (clock : Calendar.Reading) (request : Request) : Outcome :=
  match signingUrl request.url with
  | .error error => .failed request (.url error)
  | .ok url =>
      match clock.instant? with
      | none => .failed request .noTime
      | some instant =>
          let date := instant.headerDate
          let text := stringToSign request.method (Url.Reference.ofChars url.text.toList)
            (signable request) date
          match Utf8.encode? credentials.secretKey with
          | .error found => .failed request (.key found)
          | .ok key =>
              let value := "AWS " ++ credentials.accessKey ++ ":" ++ signature key text
              Outcome.setting request "date" date fun request =>
                Outcome.setting request "authorization" value .done

end BucketRegion.Signing.V2

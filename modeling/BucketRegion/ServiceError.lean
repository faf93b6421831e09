import BucketRegion.Http.Response
import BucketRegion.Text.Blank
import BucketRegion.Value.Basic
import BucketRegion.Xml.Document

/-!
# Errors of the service

What a response that is no success says: by an error document in its body, or else by its status.
-/

set_option autoImplicit false

namespace BucketRegion

/-- An error that the service reports. -/
structure ServiceError where
  code : String
  message : String
  status : Int
  bucket : String
  object : String
  requestId : String
  hostId : String
  region : String
  deriving Repr, DecidableEq

namespace ServiceError

/-- The texts of an error document by their names. -/
abbrev Texts := List (String × String)

/-- The texts that the children of an error element hold, without blanks around them, the last
child first. Other elements hold none. -/
def textsOf? (root : Xml.Element) : Option Texts :=
  if root.name.part == "Error".toList then
    some (root.children.reverse.map fun child =>
      (String.ofList child.name.part, Text.trim child.text))
  else none

/-- The texts of the error document in a body, if it holds one. -/
def readTexts? (body : Bytes) : Except Xml.Problem (Option Texts) :=
  if body.isEmpty then .ok none
  else
    match Xml.parse body with
    | .ok root => .ok (textsOf? root)
    | .error problem => if problem.isMalformed then .ok none else .error problem

/-- The code and message that a status stands for. -/
def textsOfStatus (status : Int) (reason bucket object : String) : Texts :=
  let texts (code message : String) : Texts := [("Code", code), ("Message", message)]
  if status == 404 then
    if object != "" then texts "NoSuchKey" "The specified key does not exist."
    else if bucket != "" then texts "NoSuchBucket" "The specified bucket does not exist."
    else texts "NotFound" reason
  else if status == 403 then texts "AccessDenied" "Access Denied."
  else if status == 409 then texts "Conflict" "Bucket not empty."
  else
    let code := String.ofList (reason.toList.filter (· != ' '))
    texts (if code == "" then toString status else code) reason

/-- The text of a name, or another one where there is none or an empty one. -/
def textOr (texts : Texts) (name other : String) : String :=
  match texts.lookup name with
  | none => other
  | some "" => other
  | some text => text

/-- The error of a response to a request for a bucket or an object in it; `body` is what the
response holds. -/
def ofResponse (response : Http.Response) (body : Bytes) (bucket object : String) :
    Except Xml.Problem ServiceError :=
  (readTexts? body).map fun texts? =>
    let texts := texts?.getD (textsOfStatus response.status response.reason bucket object)
    let header (name : String) : String := (response.headers.get? name).getD ""
    { code := textOr texts "Code" ""
      message := textOr texts "Message" ""
      status := response.status
      bucket := textOr texts "BucketName" bucket
      object := textOr texts "Key" object
      requestId := textOr texts "RequestId" (header "x-amz-request-id")
      hostId := textOr texts "HostId" (header "x-amz-id-2")
      region := textOr texts "Region" (header "x-amz-bucket-region") }

/-- The error as a table. -/
def fields (e : ServiceError) : List (String × Value) :=
  [("code", .text e.code), ("message", .text e.message), ("status_code", .int e.status),
    ("bucket_name", .text e.bucket), ("key", .text e.object), ("request_id", .text e.requestId),
    ("host_id", .text e.hostId), ("region", .text e.region)]

end ServiceError

end BucketRegion

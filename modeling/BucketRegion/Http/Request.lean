import BucketRegion.Http.Headers
import BucketRegion.Url.Basic

/-!
# Requests

Requests as they are sent: a method in capital letters, a URL, headers that name the host and the
size of the body, and the body.
-/

set_option autoImplicit false

namespace BucketRegion.Http

structure Request where
  method : String
  url : Url
  headers : Headers
  body : Bytes
  deriving Repr, DecidableEq

/-- Why there is no request. -/
inductive RequestError where
  | url (error : UrlError)
  | host (fault : Idna.Fault)
  | notAscii (problem : Text.NotAscii)
  deriving Repr, DecidableEq

def RequestError.message : RequestError → String
  | .url error => error.message
  | .host fault => fault.message
  | .notAscii problem => problem.message

namespace Request

/-- The header line that names the host, unless it is there or the URL has no host. -/
def hostLine (url : Url) (headers : Headers) : Except RequestError (List (String × String)) :=
  if headers.contains "host" then .ok []
  else
    match url.hostName with
    | .error fault => .error (.host fault)
    | .ok "" => .ok []
    | .ok _ =>
        match Text.notAscii? url.netloc with
        | some problem => .error (.notAscii problem)
        | none => .ok [("host", url.netloc)]

/-- Methods that tell the size even of an empty body. -/
def tellsSize (method : String) : Bool :=
  method == "POST" || method == "PUT" || method == "PATCH"

/-- Puts a request together: the host comes first, the size of an empty body next, and that of
any other body last. Lines that are there already are kept. -/
def build (method : String) (url : Url) (headers : Headers) (body : Bytes) :
    Except RequestError Request := do
  let method := Text.upper method
  let sized := headers.contains "content-length"
  let lines :=
    if body.isEmpty || sized then headers.lines
    else headers.lines ++ [("content-length", toString body.length)]
  let host ← hostLine url headers
  let framed := sized || !body.isEmpty || headers.contains "transfer-encoding"
  let size := if !framed && tellsSize method then [("content-length", "0")] else []
  return ⟨method, url, Headers.ofLines (host ++ size ++ lines), body⟩

/-- Sets a header. -/
def set (r : Request) (name value : String) : Except Text.NotAscii Request :=
  (r.headers.set name value).map fun headers => { r with headers := headers }

end Request

end BucketRegion.Http

import BucketRegion.Bytes.Base64
import BucketRegion.Http.Redirect
import BucketRegion.Http.Request

/-!
# Sessions

What lasts from one exchange with a service to the next: the headers that every request starts
with, the cookies that responses have set, and whether requests are still sent at all.
-/

set_option autoImplicit false

namespace BucketRegion.Http

/-- What a request is handed to: it answers, or fails. -/
abbrev Transport := Request → Except Failure Response

structure Session where
  userAgent : String
  jar : CookieJar
  isOpen : Bool
  deriving Repr, DecidableEq

/-- Why a request that was to be sent has no response. -/
inductive SendError where
  | closed
  | failure (f : Failure)
  | redirect (p : Redirect.Problem)
  deriving Repr, DecidableEq

namespace SendError

def message : SendError → String
  | closed => "Cannot send a request, as the client has been closed."
  | failure f => f.message
  | redirect p => p.message

/-- How far from this program an error arises. A redirect to an address that is no URL is an error
of the service's way of talking. -/
def kind : SendError → FailureKind
  | closed => .other
  | failure f => f.kind
  | redirect (.address _) => .transport
  | redirect _ => .other

end SendError

/-- How far from this program an error of reading arises. -/
def Response.ReadError.kind : Response.ReadError → FailureKind
  | .coding _ => .protocol
  | .failure f => f.kind

namespace Session

/-- The header lines that every request starts with. -/
def headerLines (s : Session) : List (String × String) :=
  [("accept", "*/*"), ("accept-encoding", "gzip, deflate"), ("connection", "keep-alive"),
    ("user-agent", s.userAgent)]

/-- The headers of a request for a URL: those of all requests, and the cookies that suit it. -/
def headersFor (s : Session) (url : Url) : Except Text.NotAscii Headers :=
  let headers := Headers.ofLines s.headerLines
  match s.jar.header? (Place.ofUrl url) with
  | none => .ok headers
  | some cookies => headers.set "cookie" cookies

/-- A request for what a URL names. -/
def request (s : Session) (url : Url) : Except RequestError Request := do
  let headers ← (s.headersFor url).mapError .notAscii
  Request.build "GET" url headers []

/-- The name and password that a URL holds. -/
def credentialsOf (url : Url) : String × String :=
  let (name, password) := (Text.cut? ':' url.userinfo.toList).getD (url.userinfo.toList, [])
  (String.ofList (Url.decodeChars name), String.ofList (Url.decodeChars password))

/-- A request as it leaves: a name or password in its URL takes the place of a signature. -/
def authorized (request : Request) : Request :=
  match credentialsOf request.url with
  | ("", "") => request
  | (name, password) =>
      let token := Base64.encode (Utf8.encode (name ++ ":" ++ password))
      { request with
        headers.lines := Headers.putLine "authorization" ("Basic " ++ token) request.headers.lines }

/-- What sending a request comes to. -/
structure Exchange where
  session : Session
  /-- The request that the transport got, if it got one. -/
  sent? : Option Request
  /-- The response that came back, if one came. -/
  received? : Option Response
  result : Except SendError Response

/-- Sends a request. The cookies of a response are kept even if it is then refused. -/
def send (s : Session) (transport : Transport) (request : Request) : Exchange :=
  if !s.isOpen then ⟨s, none, none, .error .closed⟩
  else
    let request := authorized request
    match transport request with
    | .error f => ⟨s, some request, none, .error (.failure f)⟩
    | .ok response =>
        let s := { s with jar := s.jar.learn (Place.ofUrl request.url) response }
        match Redirect.check s.jar request.url response with
        | .ok () => ⟨s, some request, some response, .ok response⟩
        | .error p => ⟨s, some request, some response, .error (.redirect p)⟩

end Session

end BucketRegion.Http

import BucketRegion.Http.CookieJar
import BucketRegion.Http.Status
import BucketRegion.Url.Join

/-!
# Redirects

Where a response sends its reader. Redirects are not followed, but the request that one asks for
has to be one that could be made.
-/

set_option autoImplicit false

namespace BucketRegion.Http.Redirect

/-- Why the request that a redirect asks for cannot be made. -/
inductive Problem where
  /-- The address as it is written is no URL. -/
  | address (error : UrlError)
  /-- The URL that the address stands for is none. -/
  | url (error : UrlError)
  | host (fault : Idna.Fault)
  /-- A cookie that would go with the request cannot be written. -/
  | cookie (problem : Text.NotAscii)
  deriving Repr, DecidableEq

def Problem.message : Problem → String
  | .address error => "Invalid URL in location header: " ++ error.message ++ "."
  | .url error => error.message
  | .host fault => fault.message
  | .cookie problem => problem.message

/-- The host of a URL in readable form. -/
def hostOf (url : Url) : Except Problem String := url.hostName.mapError .host

/-- An address that has a scheme but no host names the host that was asked. -/
def withHost (asked url : Url) : Except Problem Url := do
  if url.scheme == "" then return url
  if (← hostOf url) != "" then return url
  (url.change { host := some (← hostOf asked) }).mapError .url

/-- An address without scheme or host is relative to the URL that was asked. -/
def resolved (asked url : Url) : Except Problem Url :=
  if url.scheme == "" || url.host == "" then (Url.join asked url).mapError .url else .ok url

/-- A fragment is passed on to an address without one. -/
def withFragment (asked url : Url) : Except Problem Url :=
  let fragment := Url.decodeText (asked.fragment.getD "")
  if fragment == "" || Url.decodeText (url.fragment.getD "") != "" then .ok url
  else (url.change { fragment := some fragment }).mapError .url

/-- The URL that an address stands for in the answer to a request for the URL `asked`. -/
def target (asked : Url) (address : String) : Except Problem Url := do
  let url ← (Url.parse address).mapError .address
  withFragment asked (← resolved asked (← withHost asked url))

/-- The address that a response redirects to. -/
def addressOf? (response : Response) : Option String :=
  if isRedirect response.status then response.headers.get? "location" else none

/-- Whether the request that a response asks for, if it asks for one, can be made. -/
def check (jar : CookieJar) (asked : Url) (response : Response) : Except Problem Unit :=
  match addressOf? response with
  | none => .ok ()
  | some address => do
      let url ← target asked address
      let _ ← hostOf url
      match (jar.header? (Place.ofUrl url)).bind Text.notAscii? with
      | some problem => .error (.cookie problem)
      | none => .ok ()

end BucketRegion.Http.Redirect

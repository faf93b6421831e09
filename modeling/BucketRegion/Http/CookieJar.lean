import BucketRegion.Http.Cookie
import BucketRegion.Http.Response
import BucketRegion.Value.Basic

/-!
# Cookie jars

The cookies that responses have set, by domain, path and name, each in order of first use. A jar
judges cookies at the time at which it was made.
-/

set_option autoImplicit false

namespace BucketRegion.Http

/-- Cookies by domain, path and name; `now` counts seconds since the start of 1970. -/
structure CookieJar where
  now : Int
  domains : List (String × List (String × List (String × Cookie)))
  deriving Repr, DecidableEq

namespace CookieJar

/-- An empty jar, made at a reading of the clock. -/
def new (clock : Calendar.Reading) : CookieJar :=
  ⟨clock.seconds - Int.ofNat (ExpiryDate.epochOrdinal * 86400), []⟩

/-- The year in which the jar was made. -/
def year (jar : CookieJar) : Nat :=
  (Calendar.Date.ofOrdinal (jar.now / 86400 + ExpiryDate.epochOrdinal).toNat).year

/-- The cookies in their order. -/
def cookies (jar : CookieJar) : List Cookie :=
  jar.domains.flatMap fun (_, paths) => paths.flatMap fun (_, names) => names.map (·.2)

/-- Keeps a cookie in the place of one of its domain, path and name. -/
def put (jar : CookieJar) (c : Cookie) : CookieJar :=
  let paths := (Fields.get? c.domain jar.domains).getD []
  let names := (Fields.get? c.path paths).getD []
  { jar with
    domains := Fields.put c.domain (Fields.put c.path (Fields.put c.name c names) paths)
      jar.domains }

/-- Drops the cookie of a domain, path and name. The order of domains and paths stays. -/
def drop (jar : CookieJar) (domain path name : String) : CookieJar :=
  { jar with
    domains := jar.domains.map fun (d, paths) =>
      if d == domain then
        (d, paths.map fun (p, names) => if p == path then (p, Fields.erase name names) else (p, names))
      else (d, paths) }

/-- The verdicts on the cookies that headers of a style set; none if one spoils them all. -/
def verdicts (jar : CookieJar) (style : CookieStyle) (place : Place) (headers : List String) :
    List (Except CookieFault Cookie.Verdict) :=
  let drafts? : Except CookieFault (List (CookieLine × Option CookieDraft)) := do
    (← style.lines jar.year headers).mapM fun line => do
      return (line, ← CookieDraft.ofTerms? jar.now {} line.terms)
  match drafts? with
  | .error _ => []
  | .ok drafts => drafts.filterMap fun (line, draft?) =>
      draft?.map (Cookie.judge style jar.now place line)

/-- Drops expired cookies in turn; what a fault comes after is dropped all the same. -/
def dropExpired (jar : CookieJar) : List (Except CookieFault Cookie.Verdict) → CookieJar
  | .ok (.drop domain path name) :: rest => (jar.drop domain path name).dropExpired rest
  | .ok _ :: rest => jar.dropExpired rest
  | _ => jar

/-- The cookies to be kept: all of them, or none if there is a fault. -/
def keptOf (verdicts : List (Except CookieFault Cookie.Verdict)) : List Cookie :=
  match verdicts.mapM id with
  | .error _ => []
  | .ok all => all.filterMap fun verdict =>
      match verdict with
      | .keep cookie => some cookie
      | _ => none

/-- The headers of a style that a response has. -/
def headersOf (style : CookieStyle) (response : Response) : List String :=
  (response.headers.lines.filter fun line => Text.lower line.1 == style.headerName).map (·.2)

/-- The jar after a response to a request for a place. Headers of the newer style come first, and do
not count without one of the older style. Cookies that expire are dropped before any are kept, and a
fault in one header spoils the others of its style too. -/
def learn (jar : CookieJar) (place : Place) (response : Response) : CookieJar :=
  match headersOf .older response with
  | [] => jar
  | headers =>
      let newer := jar.verdicts .newer place (headersOf .newer response)
      let older := jar.verdicts .older place headers
      (keptOf newer ++ keptOf older).foldl put ((jar.dropExpired newer).dropExpired older)

/-- What the cookie header of a request for a place says, if any cookie suits it; those of the
longest path come first. -/
def header? (jar : CookieJar) (place : Place) : Option String :=
  match jar.cookies.filter (·.suits place) with
  | [] => none
  | cookies =>
      let sorted := cookies.mergeSort fun a b => b.path.length ≤ a.path.length
      some ("; ".intercalate (sorted.map Cookie.text))

end CookieJar

end BucketRegion.Http

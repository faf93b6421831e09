import BucketRegion.Decimal.Power
import BucketRegion.Http.ExpiryDate
import BucketRegion.Http.HeaderWords
import BucketRegion.Text.Case
import BucketRegion.Text.Split
import BucketRegion.Url.Basic
import BucketRegion.Url.Reference

/-!
# Cookies

What a response asks to be kept and sent along with later requests: how a cookie is read from a
header of the older or the newer style, which requests may set it, and which get it back.
-/

set_option autoImplicit false

namespace BucketRegion.Http

/-! ## Requests as cookies see them -/

/-- What cookies know of a request. The host is the authority without a port, in small letters. -/
structure Place where
  host : String
  path : String
  port : String
  secure : Bool
  deriving Repr, DecidableEq

namespace Place

/-- Characters that stand for themselves in the path of a cookie. -/
def isPlainPathChar (c : Char) : Bool :=
  Url.isUnreserved c || ['%', '/', ';', ':', '@', '&', '=', '+', '$', ',', '!', '~', '*', '\'',
    '(', ')'].contains c

/-- Writes encoded octets with capital digits. -/
def raiseOctets : List Char → List Char
  | '%' :: a :: b :: rest =>
      if Url.isHexDigit a && Url.isHexDigit b then
        '%' :: a.toUpper :: b.toUpper :: raiseOctets rest
      else '%' :: raiseOctets (a :: b :: rest)
  | c :: rest => c :: raiseOctets rest
  | [] => []

/-- A path in the form in which cookies compare it. -/
def escapePath (path : List Char) : String :=
  String.ofList (raiseOctets (Url.encodeUnsafe isPlainPathChar path))

/-- An authority without the port at its end. -/
def dropPort (authority : List Char) : List Char :=
  match Text.cutLast? ':' authority with
  | some (host, port) => if !port.isEmpty && port.all Char.isDigit then host else authority
  | none => authority

/-- The port that an authority shows after its first colon, if that is a number. -/
def shownPort (authority : List Char) : String :=
  match Text.cut? ':' (Url.decodeChars authority) with
  | none => "80"
  | some (_, port) =>
      match Decimal.readInteger (String.ofList port) with
      | .ok _ => String.ofList port
      | .error _ => "80"

/-- What cookies know of a request for a URL. -/
def ofUrl (url : Url) : Place :=
  let parts := Url.Reference.ofChars url.text.toList
  let path := escapePath parts.path
  { host := Text.lower (String.ofList (dropPort parts.netloc))
    path := if path.toList.head? == some '/' then path else "/" ++ path
    port := shownPort parts.netloc
    secure := url.scheme == "https" || url.scheme == "wss" }

/-- The name of the host among all hosts: a name without a dot is one of the local network. -/
def fullHost (p : Place) : String :=
  if p.host.toList.contains '.' then p.host else p.host ++ ".local"

/-- The path of cookies that name none: up to the last slash, and with it if `closed`. -/
def folder (p : Place) (closed : Bool) : String :=
  match Text.cutLast? '/' p.path.toList with
  | none => p.path
  | some (before, _) =>
      let path := if closed then before ++ ['/'] else before
      if path.isEmpty then "/" else String.ofList path

end Place

/-- A name with a dot in front. -/
def dotted (name : String) : String :=
  if name.toList.head? == some '.' then name else "." ++ name

/-- Whether a text ends in another one. -/
def endsIn (text ending : String) : Bool := ending.toList.isSuffixOf text.toList

/-! ## Reading a header -/

/-- The two headers that cookies are set by: the older one tells a cookie between semicolons, the
newer one has header words. -/
inductive CookieStyle where
  | older
  | newer
  deriving Repr, DecidableEq

def CookieStyle.headerName : CookieStyle → String
  | older => "set-cookie"
  | newer => "set-cookie2"

/-- What a header says of a cookie. A value is none if no equals sign is written. -/
inductive CookieTerm where
  | domain (value : Option String)
  | path (value : Option String)
  | port (value : Option String)
  | secure (value : Option String)
  | version (value : Option String)
  | expires (date : Option Int)
  /-- An expiry whose date has not been read. -/
  | unread
  | maxAge (value : Option String)
  deriving Repr, DecidableEq

/-- Why all cookies of a response are passed over. -/
inductive CookieFault where
  | date (fault : ExpiryDate.Fault)
  /-- An age without a value. -/
  | noAge
  /-- An expiry whose date has not been read. -/
  | unreadDate
  /-- An expiry so far ahead that no time stands for it. -/
  | distantExpiry
  deriving Repr, DecidableEq

/-- Text without a quotation mark at its start and one at its end. -/
def dropQuotes (s : String) : String :=
  let cs := s.toList
  let cs := if cs.head? == some '"' then cs.drop 1 else cs
  String.ofList (if cs.getLast? == some '"' then cs.dropLast else cs)

/-- The term of a name, if it is one that counts. The newer style leaves dates unread. -/
def CookieTerm.ofWord? (word : HeaderWord) : Option CookieTerm :=
  let (name, value) := word
  match Text.lower name with
  | "domain" => some (.domain value)
  | "path" => some (.path value)
  | "port" => some (.port value)
  | "secure" => some (.secure value)
  | "version" => some (.version value)
  | "max-age" => some (.maxAge value)
  | "expires" => some (if value.isSome then .unread else .expires none)
  | _ => none

/-- The term of a name in the older style, which quotes versions and reads dates. -/
def CookieTerm.ofPair? (present : Nat) (pair : HeaderWord) :
    Except CookieFault (Option CookieTerm) :=
  match ofWord? pair with
  | some (.version value) => .ok (some (.version (value.map dropQuotes)))
  | some .unread =>
      match ExpiryDate.read present (dropQuotes (pair.2.getD "")) with
      | .ok date => .ok (some (.expires date))
      | .error fault => .error (.date fault)
  | term => .ok term

/-- The name and value of a part between semicolons. -/
def pairOfPart (part : String) : HeaderWord :=
  match Text.cutText? '=' (Text.trim part) with
  | some (name, value) => (Text.trim name, some (Text.trim value))
  | none => (Text.trim part, none)

/-- A cookie as its header tells it. -/
structure CookieLine where
  name : String
  value : Option String
  terms : List CookieTerm
  deriving Repr, DecidableEq

/-- Reads a header of the older style; it holds no cookie if its first part has no name. -/
def CookieLine.read? (present : Nat) (header : String) :
    Except CookieFault (Option CookieLine) :=
  match (Text.splitText ';' header).map pairOfPart with
  | [] => .ok none
  | (name, value) :: parts => do
      if name == "" then return none
      let terms ← (parts.filter (·.1 != "")).mapM (CookieTerm.ofPair? present)
      return some ⟨name, value, terms.filterMap id⟩

/-- The cookie that header words tell. -/
def CookieLine.ofWords? : List HeaderWord → Option CookieLine
  | [] => none
  | (name, value) :: words => some ⟨name, value, words.filterMap CookieTerm.ofWord?⟩

/-- The cookies that the headers of a style tell. -/
def CookieStyle.lines (style : CookieStyle) (present : Nat) (headers : List String) :
    Except CookieFault (List CookieLine) :=
  match style with
  | older => (headers.mapM (CookieLine.read? present)).map (·.filterMap id)
  | newer => .ok ((headers.flatMap HeaderWord.lists).filterMap CookieLine.ofWords?)

/-- What the terms of a header come to. A term is none if it is missing, and the first of several
counts; a port without a value is that of the request. An expiry is `unread` if it is a date that has
not been read. -/
structure CookieDraft where
  domain : Option String := none
  path : Option String := none
  port : Option (Option String) := none
  secure : Option Bool := none
  version : Option String := none
  expires : Option Int := none
  unread : Bool := false
  deriving Repr, DecidableEq

namespace CookieDraft

/-- What a term does to a draft at a time; none if it makes the cookie void. An age goes before a
date. -/
def take (now : Int) (draft : CookieDraft) :
    CookieTerm → Except CookieFault (Option CookieDraft)
  | .domain value =>
      .ok <| match draft.domain, value with
        | some _, _ => some draft
        | none, some domain => some { draft with domain := some (Text.lower domain) }
        | none, none => none
  | .path value =>
      .ok <| match draft.path, value with
        | some _, _ => some draft
        | none, some path => some { draft with path := some path }
        | none, none => none
  | .version value =>
      .ok <| match draft.version, value with
        | some _, _ => some draft
        | none, some version => some { draft with version := some version }
        | none, none => none
  | .port value => .ok (some { draft with port := draft.port <|> some value })
  | .secure value =>
      .ok (some { draft with secure := draft.secure <|> some (value != some "") })
  | .expires date => .ok (some { draft with expires := draft.expires <|> date })
  | .unread => .ok (some { draft with unread := draft.expires.isNone })
  | .maxAge none => .error .noAge
  | .maxAge (some age) =>
      match Decimal.readInteger age with
      | .ok seconds => .ok (some { draft with expires := some (now + seconds), unread := false })
      | .error _ => .ok none

/-- The draft of some terms; none if the cookie is void. -/
def ofTerms? (now : Int) : CookieDraft → List CookieTerm → Except CookieFault (Option CookieDraft)
  | draft, [] => .ok (some draft)
  | draft, term :: terms =>
      match draft.take now term with
      | .ok (some draft) => ofTerms? now draft terms
      | other => other

end CookieDraft

/-! ## Cookies -/

/-- A cookie that is kept. It goes to every port if it names none. -/
structure Cookie where
  name : String
  value : Option String
  version : Int
  domain : String
  path : String
  ports : Option (List String)
  secure : Bool
  deriving Repr, DecidableEq

namespace Cookie

/-- How a cookie is sent. -/
def text (c : Cookie) : String := c.name ++ c.value.elim "" fun value => "=" ++ value

/-- Whether a request for a place may set a cookie for a domain that it names: the domain has a dot
inside, unless the host is a local one, and the host is in it. -/
def isOwnDomain (place : Place) (version : Int) (domain : String) : Bool :=
  let host := place.fullHost
  let bare := if domain.toList.head? == some '.' then String.ofList (domain.toList.drop 1) else domain
  let isInside :=
    endsIn host domain || endsIn host (bare ++ ".local") || host.toList.head? == some '.' ||
      endsIn ("." ++ host) domain
  (bare.toList.contains '.' || endsIn host ".local") && (version != 0 || isInside)

/-- Whether the ports that a cookie names hold that of a place; all before it are numbers. -/
def namesPort (place : Place) : List String → Bool
  | [] => false
  | port :: ports =>
      match Decimal.readInteger port with
      | .error _ => false
      | .ok _ => port == place.port || namesPort place ports

/-- What becomes of a header's cookie. -/
inductive Verdict where
  | keep (cookie : Cookie)
  /-- The cookie has expired, and one that was kept before goes with it. -/
  | drop (domain path name : String)
  | ignore
  deriving Repr, DecidableEq

/-- The largest expiry for which there is a time, and one more. -/
def expiryLimit : Int := Int.ofNat (Decimal.twoTo 1024 - Decimal.twoTo 970)

/-- The version that a header tells. Headers of the older style are of version 0 if they tell
none. -/
def versionOf (style : CookieStyle) (told : Option String) :
    Except Decimal.NumeralError (Option Int) :=
  match style, told with
  | .newer, none => .ok none
  | _, told => (Decimal.readInteger (told.getD "0")).map some

/-- Judges the cookie of a header with its terms, set by a request for a place. The old protocol is
version 0, and in the older style version 1 is treated like it; later versions are not kept. -/
def judge (style : CookieStyle) (now : Int) (place : Place) (line : CookieLine)
    (draft : CookieDraft) : Except CookieFault Verdict :=
  match versionOf style draft.version with
  | .error _ => .ok .ignore
  | .ok version =>
      let path := match draft.path with
        | none | some "" => place.folder (version != some 0)
        | some path => Place.escapePath path.toList
      let domain := draft.domain.elim place.fullHost dotted
      let port := (draft.port.getD none).map (Text.keepText (!Text.isBlank ·))
      let ports := match draft.port with
        | none => none
        | some none => some [place.port]
        | some (some _) => port.map (Text.splitText ',')
      let version := if style == .older && version == some 1 then some 0 else version
      let isOwn (version : Int) := draft.domain.isNone || isOwnDomain place version domain
      let isOwnPort := match draft.port with
        | some (some _) => ports.any (namesPort place)
        | _ => true
      if draft.unread then .error .unreadDate
      else if draft.expires.any (· ≤ now) then .ok (.drop domain path line.name)
      else if draft.expires.any (expiryLimit ≤ ·) then .error .distantExpiry
      else
        match version with
        | none => .ok .ignore
        | some version =>
            if version ≤ 0 && isOwn version && isOwnPort then
              .ok (.keep ⟨line.name, line.value, version, domain, path, ports,
                draft.secure.getD false⟩)
            else .ok .ignore

/-- Whether a cookie goes to a domain of a place: the host is in it by one of its names. -/
def suitsHost (c : Cookie) (place : Place) : Bool :=
  let domain := dotted c.domain
  (endsIn (dotted place.host) domain || endsIn (dotted place.fullHost) domain) &&
    (c.version != 0 || endsIn ("." ++ place.fullHost) domain)

/-- Whether a cookie goes to a path: its own path, or one below it. -/
def suitsPath (c : Cookie) (place : Place) : Bool :=
  match Text.dropLead? c.path.toList place.path.toList with
  | none => false
  | some [] => true
  | some (next :: _) => c.path.toList.getLast? == some '/' || next == '/'

/-- Whether a cookie goes with a request for a place. -/
def suits (c : Cookie) (place : Place) : Bool :=
  c.suitsHost place && c.suitsPath place && (!c.secure || place.secure) &&
    c.ports.all fun ports => ports.contains place.port

end Cookie

end BucketRegion.Http

import BucketRegion.Decimal.Numeral
import BucketRegion.Idna.Label
import BucketRegion.Text.Case
import BucketRegion.Text.Quoted
import BucketRegion.Text.Split
import BucketRegion.Url.Address
import BucketRegion.Url.Percent

/-!
# URLs

URLs in canonical form: every component holds only characters that it can hold, the host is in
ASCII and small letters, a port that the scheme implies is left out, and the path has no dot
segments. Reading a URL and changing a component both give the canonical form.
-/

set_option autoImplicit false

namespace BucketRegion

/-- A URL in canonical form. An address in brackets is held without them. -/
structure Url where
  scheme : String
  userinfo : String
  host : String
  port : Option Int
  path : String
  query : Option String
  fragment : Option String
  deriving Repr, DecidableEq

/-- Why a text or a component makes no URL. -/
inductive UrlError where
  | tooLong
  | unprintable (c : Char) (position : Nat)
  | longComponent (name : String)
  | unprintableComponent (name : String) (c : Char) (position : Nat)
  | badComponent (name : String)
  | badAddress4 (host : String)
  | badAddress6 (host : String)
  | badHostName (host : String)
  | badPort (port : String)
  | unrootedPath
  | doubleSlash
  | leadingColon
  deriving Repr, DecidableEq

def quotedChar (c : Char) : String := Text.quoted (String.ofList [c])

def UrlError.message : UrlError → String
  | .tooLong => "URL too long"
  | .unprintable c position =>
      "Invalid non-printable ASCII character in URL, " ++ quotedChar c ++ " at position " ++
        toString position ++ "."
  | .longComponent name => "URL component '" ++ name ++ "' too long"
  | .unprintableComponent name c position =>
      "Invalid non-printable ASCII character in URL " ++ name ++ " component, " ++
        quotedChar c ++ " at position " ++ toString position ++ "."
  | .badComponent name => "Invalid URL component '" ++ name ++ "'"
  | .badAddress4 host => "Invalid IPv4 address: " ++ Text.quoted host
  | .badAddress6 host => "Invalid IPv6 address: " ++ Text.quoted host
  | .badHostName host => "Invalid IDNA hostname: " ++ Text.quoted host
  | .badPort port => "Invalid port: " ++ Text.quoted port
  | .unrootedPath => "For absolute URLs, path must be empty or begin with '/'"
  | .doubleSlash => "Relative URLs cannot have a path starting with '//'"
  | .leadingColon => "Relative URLs cannot have a path starting with ':'"

namespace Url

/-- The longest URL, and the longest component that a URL is changed by. -/
def lengthLimit : Nat := 65536

def isVisible (c : Char) : Bool := 0x20 ≤ c.toNat && c.toNat < 0x7F

/-- Characters that stand for themselves in a fragment. -/
def isFragmentChar (c : Char) : Bool :=
  isVisible c && !(c == ' ' || c == '"' || c == '<' || c == '>' || c == '`')

/-- Characters that stand for themselves in a query. -/
def isQueryChar (c : Char) : Bool :=
  isVisible c && !(c == ' ' || c == '"' || c == '#' || c == '<' || c == '>')

/-- Characters that stand for themselves in a path. -/
def isPathChar (c : Char) : Bool :=
  isQueryChar c && !(c == '?' || c == '`' || c == '\x7b' || c == '\x7d')

/-- Characters that stand for themselves in the user information. -/
def isUserinfoChar (c : Char) : Bool :=
  isPathChar c && !(c == '/' || c == ';' || c == '=' || c == '@' || c == '[' || c == '\\' ||
    c == ']' || c == '^' || c == '|')

/-- Characters that stand for themselves in a host name. -/
def isHostChar (c : Char) : Bool :=
  isUnreserved c || ['!', '$', '&', '\'', '(', ')', '*', '+', ',', ';', '=', '"', '`', '\x7b',
    '\x7d', '%', '|', '\\'].contains c

/-- The first control character of ASCII and where it stands. -/
def firstControl? : Nat → List Char → Option (Char × Nat)
  | _, [] => none
  | position, c :: rest =>
      if Text.isAsciiControl c then some (c, position) else firstControl? (position + 1) rest

/-- The parts of a URL before they are made canonical. -/
structure Parts where
  scheme : List Char
  authority : List Char
  path : List Char
  query : Option (List Char)
  fragment : Option (List Char)

def isSchemeChar (c : Char) : Bool :=
  c.isAlphanum || c == '+' || c == '.' || c == '-'

/-- The scheme in front of a colon, which may be empty, and what follows; without one all of the
text follows. -/
def splitScheme (cs : List Char) : List Char × List Char :=
  let name := cs.takeWhile isSchemeChar
  match cs.dropWhile isSchemeChar with
  | ':' :: rest =>
      match name with
      | [] => ([], rest)
      | first :: _ => if first.isAlpha then (name, rest) else ([], cs)
  | _ => ([], cs)

/-- What stands before a mark, and what follows it if it is there. -/
def splitMark (mark : Char) (cs : List Char) : List Char × Option (List Char) :=
  match Text.cut? mark cs with
  | some (before, after) => (before, some after)
  | none => (cs, none)

/-- The parts of a text. -/
def Parts.ofChars (cs : List Char) : Parts :=
  let (scheme, rest) := splitScheme cs
  let (authority, rest) :=
    match rest with
    | '/' :: '/' :: more =>
        let isEnd (c : Char) : Bool := c == '/' || c == '?' || c == '#'
        (more.takeWhile (!isEnd ·), more.dropWhile (!isEnd ·))
    | _ => ([], rest)
  let (rest, fragment) := splitMark '#' rest
  let (path, query) := splitMark '?' rest
  ⟨scheme, authority, path, query, fragment⟩

/-- User information, host and port of an authority. -/
structure Authority where
  userinfo : List Char
  host : List Char
  port : List Char

/-- The user information stands before the last at sign. A host may be an address in brackets;
otherwise it ends at the first colon. -/
def Authority.ofChars (cs : List Char) : Authority :=
  let (userinfo, rest) := (Text.cutLast? '@' cs).getD ([], cs)
  let bracketed : Option (List Char × List Char) :=
    if rest.head? == some '[' then
      (Text.cutLast? ']' rest).map fun (before, after) => (before ++ [']'], after)
    else none
  let (host, rest) := bracketed.getD (rest.takeWhile (· != ':'), rest.dropWhile (· != ':'))
  ⟨userinfo, host, match rest with | ':' :: port => port | _ => rest⟩

/-- The canonical form of a host. -/
def canonicalHost (host : List Char) : Except UrlError (List Char) :=
  let shown := String.ofList host
  if host.isEmpty then .ok []
  else if Address.looksLikeVersion4 host then
    if Address.isVersion4 host then .ok host else .error (.badAddress4 shown)
  else if host.head? == some '[' && host.getLast? == some ']' && 2 ≤ host.length then
    let inner := (host.drop 1).dropLast
    if Address.isVersion6 inner then .ok inner else .error (.badAddress6 shown)
  else if Idna.isAscii host then .ok (requote isHostChar (host.map Char.toLower))
  else
    match Idna.encode (Text.lowerFrom [] host) with
    | .ok name => .ok name
    | .error _ => .error (.badHostName shown)

/-- The port that a scheme implies. -/
def impliedPort? (scheme : String) : Option Int :=
  if scheme == "http" || scheme == "ws" then some 80
  else if scheme == "https" || scheme == "wss" then some 443
  else if scheme == "ftp" then some 21
  else none

/-- The port of a URL; none if it is not written, or implied by the scheme as it is written. -/
def canonicalPort (scheme port : String) : Except UrlError (Option Int) :=
  if port == "" then .ok none
  else
    match Decimal.readInteger port with
    | .error _ => .error (.badPort port)
    | .ok n => .ok (if impliedPort? scheme == some n then none else some n)

/-- One step of leaving out dot segments; the segments that stay are held in reverse. -/
def passSegment (kept : List (List Char)) (segment : List Char) : List (List Char) :=
  if segment == ['.'] then kept
  else if segment == ['.', '.'] then if kept == [[]] then kept else kept.drop 1
  else segment :: kept

/-- A path without dot segments: `.` is left out, and `..` with the segment before it. -/
def dropDots (path : List Char) : List Char :=
  let segments := Text.splitOn '/' path
  if segments.contains ['.'] || segments.contains ['.', '.'] then
    Text.joinWith ['/'] (segments.foldl passSegment []).reverse
  else path

/-- Whether a path fits what stands in front of it. -/
def checkPath (path : List Char) (hasScheme hasAuthority : Bool) : Except UrlError Unit :=
  if hasAuthority && !path.isEmpty && path.head? != some '/' then .error .unrootedPath
  else if !hasScheme && !hasAuthority && path.take 2 == ['/', '/'] then .error .doubleSlash
  else if !hasScheme && !hasAuthority && path.head? == some ':' then .error .leadingColon
  else .ok ()

/-- Puts a URL together in canonical form. -/
def assemble (parts : Parts) (authority : Authority) : Except UrlError Url := do
  let host ← canonicalHost authority.host
  let scheme := String.ofList (parts.scheme.map Char.toLower)
  let port ← canonicalPort (String.ofList parts.scheme) (String.ofList authority.port)
  let userinfo := requote isUserinfoChar authority.userinfo
  let hasScheme := !parts.scheme.isEmpty
  let hasAuthority := !userinfo.isEmpty || !host.isEmpty || port.isSome
  checkPath parts.path hasScheme hasAuthority
  let path := if hasScheme || hasAuthority then dropDots parts.path else parts.path
  return {
    scheme := scheme
    userinfo := String.ofList userinfo
    host := String.ofList host
    port := port
    path := String.ofList (requote isPathChar path)
    query := parts.query.map fun q => String.ofList (requote isQueryChar q)
    fragment := parts.fragment.map fun f => String.ofList (requote isFragmentChar f) }

/-- Reads a URL. -/
def parse (text : String) : Except UrlError Url :=
  let cs := text.toList
  if lengthLimit < cs.length then .error .tooLong
  else
    match firstControl? 0 cs with
    | some (c, position) => .error (.unprintable c position)
    | none =>
        let parts := Parts.ofChars cs
        assemble parts (Authority.ofChars parts.authority)

/-- The host and port as the authority shows them. -/
def netloc (url : Url) : String :=
  (if url.host.toList.contains ':' then "[" ++ url.host ++ "]" else url.host) ++
    url.port.elim "" fun port => ":" ++ Decimal.integerText port

def authority (url : Url) : String :=
  (if url.userinfo == "" then "" else url.userinfo ++ "@") ++ url.netloc

/-- The text of a URL. -/
def text (url : Url) : String :=
  (if url.scheme == "" then "" else url.scheme ++ ":") ++
    (if url.authority == "" then "" else "//" ++ url.authority) ++ url.path ++
    (url.query.elim "" fun q => "?" ++ q) ++ url.fragment.elim "" fun f => "#" ++ f

/-- A component that a URL is changed by: it is not too long, has no control characters, and
none of the marks that end it. -/
def checkComponent (name : String) (marks : List Char) (value : List Char) :
    Except UrlError Unit :=
  if lengthLimit < value.length then .error (.longComponent name)
  else
    match firstControl? 0 value with
    | some (c, position) => .error (.unprintableComponent name c position)
    | none => if value.any marks.contains then .error (.badComponent name) else .ok ()

/-- A host that a URL is changed by is in brackets if it holds a colon. -/
def changedHost (host : String) : List Char :=
  let cs := host.toList
  if cs.contains ':' && !(cs.head? == some '[' && cs.getLast? == some ']') then
    '[' :: cs ++ [']']
  else cs

/-- The changes that are made to a URL; what is none stays as it is. -/
structure Change where
  path : Option String := none
  query : Option String := none
  fragment : Option String := none
  host : Option String := none

/-- A URL with some components changed. All of its components are checked and made canonical
anew. -/
def change (url : Url) (c : Change) : Except UrlError Url := do
  let path := (c.path.getD url.path).toList
  let query := (c.query <|> url.query).map String.toList
  let fragment := (c.fragment <|> url.fragment).map String.toList
  checkComponent "scheme" [] url.scheme.toList
  checkComponent "authority" ['/', '?', '#'] url.authority.toList
  checkComponent "path" ['?', '#'] path
  query.forM (checkComponent "query" ['#'])
  fragment.forM (checkComponent "fragment" [])
  let host := c.host.map changedHost
  host.forM (checkComponent "host" [])
  let authority := Authority.ofChars url.authority.toList
  assemble ⟨url.scheme.toList, url.authority.toList, path, query, fragment⟩
    { authority with host := host.getD authority.host }

/-- The host in readable form. -/
def hostName (url : Url) : Except Idna.Fault String :=
  if url.host.toList.take 4 == Idna.mark then (Idna.decode url.host.toList).map String.ofList
  else .ok url.host

/-- What a request asks for: the path, or a slash for an empty one, and the query. -/
def target (url : Url) : String :=
  (if url.path == "" then "/" else url.path) ++ url.query.elim "" fun q => "?" ++ q

end Url

end BucketRegion

import BucketRegion.Text.Case
import BucketRegion.Text.Split
import BucketRegion.Url.Address

/-!
# References

The five parts of a URL's text as they are written. Signatures are computed from these parts.
-/

set_option autoImplicit false

namespace BucketRegion.Url

/-- The parts of a URL's text; a query or fragment that is missing is empty. -/
structure Reference where
  scheme : List Char
  netloc : List Char
  path : List Char
  query : List Char
  fragment : List Char
  deriving Repr, DecidableEq

namespace Reference

/-- What stands before the first mark and what follows it. -/
def cutAtMark (mark : Char) (cs : List Char) : List Char × List Char :=
  (Text.cut? mark cs).getD (cs, [])

/-- The scheme in small letters, and what follows its colon. -/
def cutScheme (cs : List Char) : List Char × List Char :=
  match Text.cut? ':' cs with
  | some (first :: more, rest) =>
      if first.isAlpha && more.all fun c => c.isAlphanum || c == '+' || c == '-' || c == '.' then
        ((first :: more).map Char.toLower, rest)
      else ([], cs)
  | _ => ([], cs)

/-- Splits the text of a URL. Left out is the refusal of an authority with one square bracket and not
the other, as in `http://[x`: a URL has such a text only if it has no host and its path starts with
two slashes. -/
def ofChars (cs : List Char) : Reference :=
  let (scheme, rest) := cutScheme cs
  let (netloc, rest) :=
    match rest with
    | '/' :: '/' :: more =>
        let isEnd (c : Char) : Bool := c == '/' || c == '?' || c == '#'
        (more.takeWhile (!isEnd ·), more.dropWhile (!isEnd ·))
    | _ => ([], rest)
  let (rest, fragment) := cutAtMark '#' rest
  let (path, query) := cutAtMark '?' rest
  ⟨scheme, netloc, path, query, fragment⟩

/-- Host and port as the authority holds them; the user information is left out. -/
def hostInfo (r : Reference) : List Char × List Char :=
  let info := match Text.cutLast? '@' r.netloc with
    | some (_, info) => info
    | none => r.netloc
  match Text.cut? '[' info with
  | some (_, bracketed) =>
      let (host, rest) := cutAtMark ']' bracketed
      (host, (cutAtMark ':' rest).2)
  | none => cutAtMark ':' info

/-- The host in small letters, a zone left as it is; none if it is empty. -/
def hostName? (r : Reference) : Option (List Char) :=
  match r.hostInfo.1 with
  | [] => none
  | host =>
      let name := host.takeWhile (· != '%')
      some (Text.lowerFrom [] name ++ host.drop name.length)

/-- Why a port cannot be told. -/
inductive PortError where
  | notDecimal (port : String)
  | outOfRange
  deriving Repr, DecidableEq

/-- The port, if one is written. -/
def port? (r : Reference) : Except PortError (Option Nat) :=
  match r.hostInfo.2 with
  | [] => .ok none
  | port =>
      if port.all Char.isDigit then
        if Decimal.valueOf port ≤ 65535 then .ok (some (Decimal.valueOf port))
        else .error .outOfRange
      else .error (.notDecimal (String.ofList port))

end Reference

end BucketRegion.Url

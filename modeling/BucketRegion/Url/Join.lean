import BucketRegion.Url.Basic
import BucketRegion.Url.Reference

/-!
# Joining references

The URL that a reference stands for where another URL is the base.
-/

set_option autoImplicit false

namespace BucketRegion.Url

namespace Reference

/-- The path as it follows an authority: a slash stands between them. -/
def rootedPath (r : Reference) : List Char :=
  if r.netloc.isEmpty || r.path.isEmpty || r.path.head? == some '/' then r.path
  else '/' :: r.path

/-- The text of a reference. -/
def chars (r : Reference) : List Char :=
  (if r.scheme.isEmpty then [] else r.scheme ++ [':']) ++
    (if r.netloc.isEmpty then [] else ['/', '/'] ++ r.netloc) ++ r.rootedPath ++
    (if r.query.isEmpty then [] else '?' :: r.query) ++
    (if r.fragment.isEmpty then [] else '#' :: r.fragment)

/-- The segments of a path that is given relative to another one; empty segments inside are left
out. -/
def relativeSegments (base path : List Char) : List (List Char) :=
  let steps := Text.splitOn '/' base
  let folders := if steps.getLast? == some [] then steps else steps.dropLast
  let segments := folders ++ Text.splitOn '/' path
  segments.take 1 ++ ((segments.drop 1).dropLast.filter (!·.isEmpty)) ++
    (segments.drop 1).getLast?.toList

/-- One step of resolving dot segments; the segments that stay are held in reverse. -/
def resolveSegment (kept : List (List Char)) (segment : List Char) : List (List Char) :=
  if segment == ['.', '.'] then kept.drop 1
  else if segment == ['.'] then kept
  else segment :: kept

/-- The path that segments come to. -/
def resolvePath (segments : List (List Char)) : List Char :=
  let last := segments.getLast?.getD []
  let resolved := (segments.foldl resolveSegment []).reverse ++
    (if last == ['.'] || last == ['.', '.'] then [[]] else [])
  match Text.joinWith ['/'] resolved with
  | [] => ['/']
  | path => path

/-- A reference without a scheme, taken relative to a base. -/
def join (base r : Reference) : Reference :=
  if !r.netloc.isEmpty then { r with scheme := base.scheme }
  else if r.path.isEmpty then
    { base with query := if r.query.isEmpty then base.query else r.query, fragment := r.fragment }
  else
    let segments :=
      if r.path.head? == some '/' then Text.splitOn '/' r.path
      else relativeSegments base.path r.path
    { base with path := resolvePath segments, query := r.query, fragment := r.fragment }

end Reference

/-- The URL that a relative one stands for where `base` is the base. -/
def join (base relative : Url) : Except UrlError Url :=
  let read (url : Url) : Reference := Reference.ofChars url.text.toList
  parse (String.ofList ((read base).join (read relative)).chars)

end BucketRegion.Url

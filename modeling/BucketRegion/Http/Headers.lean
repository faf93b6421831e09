import BucketRegion.Text.Ascii
import BucketRegion.Text.Case
import BucketRegion.Text.Split

/-!
# Headers

The header lines of a request or response, in order. Names are in small letters, and a name may
stand on several lines. Headers that were all ASCII when they were put together stay so.
-/

set_option autoImplicit false

namespace BucketRegion.Http

/-- Header lines; `asciiOnly` says that they take no characters beyond ASCII. -/
structure Headers where
  lines : List (String × String)
  asciiOnly : Bool
  deriving Repr, DecidableEq

namespace Headers

def isAsciiLine (line : String × String) : Bool :=
  Text.isAscii line.1.toList && Text.isAscii line.2.toList

/-- Headers of given lines. -/
def ofLines (lines : List (String × String)) : Headers :=
  let lines := lines.map fun (name, value) => (Text.asciiLower name, value)
  ⟨lines, lines.all isAsciiLine⟩

/-- The values of a name, in order. -/
def valuesOf (h : Headers) (name : String) : List String :=
  (h.lines.filter fun line => line.1 == name).map (·.2)

def contains (h : Headers) (name : String) : Bool := h.lines.any fun line => line.1 == name

/-- The value of a name; several are joined by a comma and a space. -/
def get? (h : Headers) (name : String) : Option String :=
  match h.valuesOf name with
  | [] => none
  | values => some (", ".intercalate values)

/-- Puts a value on the first line of a name and drops the others, or appends a line. -/
def putLine (name value : String) : List (String × String) → List (String × String)
  | [] => [(name, value)]
  | (n, v) :: rest =>
      if n == name then (name, value) :: rest.filter fun line => line.1 != name
      else (n, v) :: putLine name value rest

/-- Sets the value of a name. -/
def set (h : Headers) (name value : String) : Except Text.NotAscii Headers :=
  match if h.asciiOnly then Text.notAscii? value else none with
  | some problem => .error problem
  | none => .ok { h with lines := putLine name value h.lines }

/-- The names in order of first appearance, each with its value. -/
def merged (h : Headers) : List (String × String) :=
  h.lines.foldl (fun all (name, value) =>
    match all.lookup name with
    | some before =>
        all.map fun entry => if entry.1 == name then (name, before ++ ", " ++ value) else entry
    | none => all ++ [(name, value)]) []

end Headers

end BucketRegion.Http

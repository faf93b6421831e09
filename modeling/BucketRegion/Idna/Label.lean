import BucketRegion.Idna.Direction
import BucketRegion.Idna.Joining
import BucketRegion.Idna.Permitted
import BucketRegion.Idna.Punycode
import BucketRegion.Text.Composed
import BucketRegion.Text.Loose
import BucketRegion.Text.Split

/-!
# Labels

The labels of host names: what a label may look like, and its two forms, one in any script and
one in ASCII that starts with `xn--`.
-/

set_option autoImplicit false

namespace BucketRegion.Idna

/-- Why a host name or label is refused; positions count from one. -/
inductive Fault where
  | longDomain
  | emptyDomain
  | longLabel
  | emptyLabel
  | notComposed
  | innerHyphens
  | outerHyphen
  | leadingMark
  | joiner (c : Char) (position : Nat) (label : Text.Loose)
  | context (c : Char) (position : Nat) (label : Text.Loose)
  | forbidden (code : Text.CodePoint) (position : Nat) (label : Text.Loose)
  | direction (fault : DirectionFault)
  | nothingEncoded
  | trailingHyphen
  | notEncoded
  deriving Repr, DecidableEq

/-- The number of a code point with at least four hexadecimal digits. -/
def codeName (n : Nat) : String :=
  let width := if n < 0x10000 then 4 else if n < 0x100000 then 5 else 6
  "U+" ++ String.ofList ((Text.hexPadded width n).map Char.toUpper)

def DirectionFault.message : DirectionFault → String
  | .unknown label position =>
      "Unknown directionality in label " ++ Text.quoted (String.ofList label) ++ " at position " ++
        toString position
  | .first label =>
      "First codepoint in label " ++ Text.quoted (String.ofList label) ++
        " must be directionality L, R or AL"
  | .inRightToLeft position =>
      "Invalid direction for codepoint at position " ++ toString position ++
        " in a right-to-left label"
  | .mixedNumerals => "Can not mix numeral types in a right-to-left label"
  | .inLeftToRight position =>
      "Invalid direction for codepoint at position " ++ toString position ++
        " in a left-to-right label"
  | .ending => "Label ends with illegal codepoint directionality"

def Fault.message : Fault → String
  | .longDomain => "Domain too long"
  | .emptyDomain => "Empty domain"
  | .longLabel => "Label too long"
  | .emptyLabel => "Empty Label"
  | .notComposed => "Label must be in Normalization Form C"
  | .innerHyphens => "Label has disallowed hyphens in 3rd and 4th position"
  | .outerHyphen => "Label must not start or end with a hyphen"
  | .leadingMark => "Label begins with an illegal combining character"
  | .joiner c position label =>
      "Unknown codepoint adjacent to joiner " ++ codeName c.toNat ++ " at position " ++
        toString position ++ " in " ++ label.quoted
  | .context c position label =>
      "Codepoint " ++ codeName c.toNat ++ " not allowed at position " ++ toString position ++
        " in " ++ label.quoted
  | .forbidden code position label =>
      "Codepoint " ++ codeName code.toNat ++ " at position " ++ toString position ++ " of " ++
        label.quoted ++ " not allowed"
  | .direction fault => fault.message
  | .nothingEncoded => "Malformed A-label, no Punycode eligible content found"
  | .trailingHyphen => "A-label must not end with a hyphen"
  | .notEncoded => "Invalid A-label"

/-- The class of the signs that mute a vowel, which joiners may follow. -/
def vowelMuteClass : Nat := 9

/-- Whether the nearest character that joining does not pass over is one of the given. -/
def joins (sets : List Text.CodeSet) : List Char → Bool
  | [] => false
  | c :: rest =>
      if joiningTransparent.contains c then joins sets rest
      else sets.any fun set => set.contains c

/-- Whether a joiner may stand between two parts of a label, the first one reversed: after a sign
that mutes a vowel, and the one that keeps letters apart also between letters that join. -/
def joinerAllowed (c : Char) (before after : List Char) : Bool :=
  before.head?.any (fun previous => Text.markClass previous.toNat == vowelMuteClass) ||
    (c == '\u200C' && joins [joiningLeft, joiningDual] before &&
      joins [joiningRight, joiningDual] after)

/-- Whether a contextual character may stand between two parts of a label, the first one
reversed. -/
def contextAllowed (c : Char) (before after : List Char) : Bool :=
  let n := c.toNat
  let others := before ++ after
  if n == 0xB7 then before.head? == some 'l' && after.head? == some 'l'
  else if n == 0x375 then after.head?.any greek.contains
  else if n == 0x5F3 || n == 0x5F4 then before.head?.any hebrew.contains
  else if n == 0x30FB then others.any japanese.contains
  else if n ≤ 0x669 then others.all fun o => !(0x6F0 ≤ o.toNat && o.toNat ≤ 0x6F9)
  else others.all fun o => !(0x660 ≤ o.toNat && o.toNat ≤ 0x669)

/-- Checks the code points of a label from `position` on; `before` holds, in reverse, the characters
in front of it. -/
def checkChars (label : Text.Loose) (position : Nat) (before : List Char) :
    Text.Loose → Except Fault Unit
  | [] => .ok ()
  | .surrogate offset :: _ => .error (.forbidden (.surrogate offset) position label)
  | .char c :: rest =>
      let go := checkChars label (position + 1) (c :: before) rest
      if isPermitted c then go
      else if isJoiner c then
        if joinerAllowed c before (Text.Loose.shown rest) then go
        else .error (.joiner c position label)
      else if isContextual c then
        if contextAllowed c before (Text.Loose.shown rest) then go
        else .error (.context c position label)
      else .error (.forbidden (.char c) position label)

/-- The rules that every label keeps: its length, its composed form, its hyphens, its first
character, each character in its place, and the direction of writing. Up to where a surrogate is
found, it counts as the replacement character, which joins, composes and marks nothing either. -/
def checkLabel (label : Text.Loose) : Except Fault Unit :=
  let shown := label.shown
  match shown with
  | [] => .error .emptyLabel
  | first :: _ =>
      if 254 < shown.length then .error .longLabel
      else if !Text.isComposed shown then .error .notComposed
      else if (shown.drop 2).take 2 == ['-', '-'] then .error .innerHyphens
      else if first == '-' || shown.getLast? == some '-' then .error .outerHyphen
      else if marks.contains first then .error .leadingMark
      else
        match checkChars label 1 [] label with
        | .error fault => .error fault
        | .ok () =>
            match checkDirection shown with
            | .error fault => .error (.direction fault)
            | .ok () => .ok ()

def isAscii (cs : List Char) : Bool := cs.all fun c => c.toNat < 0x80

/-- The mark in front of labels in Punycode. -/
def mark : List Char := ['x', 'n', '-', '-']

/-- The readable form of a label of ASCII. -/
def readable (label : List Char) : Except Fault (List Char) :=
  let small := label.map Char.toLower
  if small.take 4 == mark then
    let encoded := small.drop 4
    if encoded.isEmpty then .error .nothingEncoded
    else if encoded.getLast? == some '-' then .error .trailingHyphen
    else
      match Punycode.decode? encoded with
      | none => .error .notEncoded
      | some decoded => (checkLabel decoded).map fun _ => decoded.shown
  else (checkLabel (.ofChars small)).map fun _ => small

/-- The form of a label in ASCII, at most 63 characters long. -/
def plainForm (label : List Char) : Except Fault (List Char) :=
  let form :=
    if isAscii label then (readable label).map fun _ => label
    else (checkLabel (.ofChars label)).map fun _ => mark ++ Punycode.encode label
  match form with
  | .error fault => .error fault
  | .ok form => if 63 < form.length then .error .longLabel else .ok form

/-- The stops that separate labels. -/
def isStop (c : Char) : Bool :=
  c == '.' || c == '\u3002' || c == '\uFF0E' || c == '\uFF61'

/-- The labels between the stops of a host name. -/
def labelsOf (host : List Char) : List (List Char) :=
  Text.splitOn '.' (host.map fun c => if isStop c then '.' else c)

/-- Applies a form to every label of a host name; one stop may end it. -/
def formOf (form : List Char → Except Fault (List Char)) (host : List Char) :
    Except Fault (List Char) :=
  if 254 < host.length then .error .longDomain
  else
    let labels := labelsOf host
    if labels == [[]] then .error .emptyDomain
    else
      let stopped := labels.getLast? == some []
      match (if stopped then labels.dropLast else labels).mapM form with
      | .error fault => .error fault
      | .ok forms => .ok (Text.joinWith ['.'] (if stopped then forms ++ [[]] else forms))

/-- A host name in ASCII, at most 253 characters long without a last stop. -/
def encode (host : List Char) : Except Fault (List Char) :=
  match formOf plainForm host with
  | .error fault => .error fault
  | .ok form =>
      let limit := if form.getLast? == some '.' then 254 else 253
      if limit < form.length then .error .longDomain else .ok form

/-- A host name of ASCII in readable form. -/
def decode (host : List Char) : Except Fault (List Char) :=
  formOf readable host

end BucketRegion.Idna

import BucketRegion.Text.Quoted
import BucketRegion.Text.Split

/-!
# Faults of TOML documents

What can be wrong with a document, and where.
-/

set_option autoImplicit false

namespace BucketRegion.Toml

/-- A dotted key. -/
abbrev Key := List String

/-- A key as messages show it. -/
def keyText : Key → String
  | [part] => "(" ++ Text.quoted part ++ ",)"
  | parts => "(" ++ ", ".intercalate (parts.map Text.quoted) ++ ")"

/-- What is wrong. -/
inductive Cause where
  | statement
  | lineEnd
  | expected (text : String)
  | strayChar (c : Char)
  | illegalChar (c : Char)
  | declaredTwice (key : Key)
  | redefined (key : Key)
  | immutable (key : Key)
  | overwritten
  | duplicate (part : String)
  | tableEnd
  | arrayEnd
  | equals
  | keyStart
  | openList
  | openTable
  | openText
  | loneBackslash
  | hexDigits
  | notScalar
  | date
  | value
  deriving Repr, DecidableEq

def Cause.message : Cause → String
  | .statement => "Invalid statement"
  | .lineEnd => "Expected newline or end of document after a statement"
  | .expected text => "Expected " ++ Text.quoted text
  | .strayChar c => "Found invalid character " ++ Text.quoted (String.ofList [c])
  | .illegalChar c => "Illegal character " ++ Text.quoted (String.ofList [c])
  | .declaredTwice key => "Cannot declare " ++ keyText key ++ " twice"
  | .redefined key => "Cannot redefine namespace " ++ keyText key
  | .immutable key => "Cannot mutate immutable namespace " ++ keyText key
  | .overwritten => "Cannot overwrite a value"
  | .duplicate part => "Duplicate inline table key " ++ Text.quoted part
  | .tableEnd => "Expected ']' at the end of a table declaration"
  | .arrayEnd => "Expected ']]' at the end of an array declaration"
  | .equals => "Expected '=' after a key in a key/value pair"
  | .keyStart => "Invalid initial character for a key part"
  | .openList => "Unclosed array"
  | .openTable => "Unclosed inline table"
  | .openText => "Unterminated string"
  | .loneBackslash => "Unescaped '\\' in a string"
  | .hexDigits => "Invalid hex value"
  | .notScalar => "Escaped character is not a Unicode scalar value"
  | .date => "Invalid date or datetime"
  | .value => "Invalid value"

/-- A fault and how many characters of the document come after its place. A whole number can also
be too long to be read. -/
inductive Fault where
  | at (cause : Cause) (remaining : Nat)
  | longInteger (count : Nat)
  deriving Repr, DecidableEq

/-- The place of a position in a document: line and column, both from one, or its end. -/
def placeText (document : List Char) (position : Nat) : String :=
  if document.length ≤ position then "end of document"
  else
    let before := document.take position
    let line := 1 + before.count '\n'
    let column := 1 + (before.reverse.takeWhile (· != '\n')).length
    "line " ++ toString line ++ ", column " ++ toString column

/-- What a function that reads a part of a document gives: the part and the rest. -/
abbrev Reading (α : Type) := Except Fault (α × List Char)

/-- Refuses a document in front of `rest`. -/
def refuse {α : Type} (cause : Cause) (rest : List Char) : Except Fault α :=
  .error (.at cause rest.length)

end BucketRegion.Toml

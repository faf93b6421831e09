import BucketRegion.Text.Blank
import BucketRegion.Text.Case
import BucketRegion.Value.Display

/-!
# Signature versions

The two signature protocols, and the names by which settings choose one.
-/

set_option autoImplicit false

namespace BucketRegion

/-- A signature protocol. -/
inductive SignatureVersion where
  | v4
  | v2
  deriving Repr, DecidableEq

namespace SignatureVersion

/-- The name of a protocol. -/
def name : SignatureVersion → String
  | v4 => "v4"
  | v2 => "v2"

/-- The protocol that a name stands for, in any letter case and with white space around it. -/
def ofName? (name : String) : Option SignatureVersion :=
  let plain := Text.lower (Text.trim name)
  if plain == "v4" || plain == "s3v4" then some v4
  else if plain == "v2" || plain == "s3" then some v2
  else none

/-- A value that names no protocol. -/
structure Unsupported where
  value : Value

def Unsupported.message (u : Unsupported) : String :=
  "Unsupported signature version: " ++ u.value.display

/-- The protocol that a value names by its plain text. -/
def ofValue (value : Value) : Except Unsupported SignatureVersion :=
  match ofName? value.plain with
  | some version => .ok version
  | none => .error ⟨value⟩

end SignatureVersion

end BucketRegion

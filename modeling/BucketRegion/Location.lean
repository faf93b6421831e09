import BucketRegion.Text.Blank
import BucketRegion.Text.Quoted
import BucketRegion.Xml.Document

/-!
# Location documents

The location constraint of a bucket, from the document that a service answers.
-/

set_option autoImplicit false

namespace BucketRegion.Location

/-- Why a document has no constraint. -/
inductive Problem where
  /-- The answer for a bucket is no document, for this reason. -/
  | undecodable (bucket reason : String)
  /-- The document is in an encoding that cannot be read. -/
  | encoding (problem : Xml.Problem)

def Problem.message : Problem → String
  | .undecodable bucket reason =>
      "Unable to decode location for bucket " ++ Text.quoted bucket ++ ": " ++ reason
  | .encoding problem => problem.message

/-- The constraint that a document holds: the text of its first element, without blanks around it.
An answer of blanks alone holds the empty constraint. -/
def decode (body : Bytes) (bucket : String) : Except Problem String :=
  if body.all Text.isAsciiBlank then .ok ""
  else
    match Xml.parse body with
    | .ok root => .ok (Text.trim root.text)
    | .error problem =>
        if problem.isMalformed then .error (.undecodable bucket problem.message)
        else .error (.encoding problem)

end BucketRegion.Location

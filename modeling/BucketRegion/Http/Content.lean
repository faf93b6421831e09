import BucketRegion.Compression.Container
import BucketRegion.Http.Headers
import BucketRegion.Text.Blank

/-!
# Codings of content

How the octets of a response were coded for the way, and what they were before.
-/

set_option autoImplicit false

namespace BucketRegion.Http

/-- A coding that can be undone. -/
inductive Coding where
  | identity
  | gzip
  | deflate
  deriving Repr, DecidableEq

namespace Coding

/-- The coding of a name, in letters of any case. -/
def ofName? (name : String) : Option Coding :=
  match Text.lower (Text.trim name) with
  | "identity" => some .identity
  | "gzip" => some .gzip
  | "deflate" => some .deflate
  | _ => none

/-- The codings that headers tell, in the order in which they were applied. Names of other codings
are passed over. -/
def ofHeaders (headers : Headers) : List Coding :=
  ((headers.valuesOf "content-encoding").flatMap (Text.splitText ',')).filterMap ofName?

/-- Undoes a coding. Octets that are not in a container are tried as bare blocks. -/
def undo : Coding → Bytes → Except Compression.Fault Bytes
  | .identity, octets => .ok octets
  | .gzip, octets => Compression.decodeFile octets
  | .deflate, octets =>
      match Compression.decodeZlib octets with
      | .ok content => .ok content
      | .error _ => Compression.decodeRaw octets

/-- Undoes codings, the last one first. -/
def undoAll (codings : List Coding) (octets : Bytes) : Except Compression.Fault Bytes :=
  codings.reverse.foldlM (fun octets coding => coding.undo octets) octets

end Coding

end BucketRegion.Http

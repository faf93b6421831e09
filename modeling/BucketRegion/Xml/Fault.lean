import BucketRegion.Xml.Scan

/-!
# Faults of documents

What can be wrong with a document, and where.
-/

set_option autoImplicit false

namespace BucketRegion.Xml

/-- What is wrong. -/
inductive Cause where
  | statement
  | noElement
  | invalidToken
  | unclosedToken
  | partialChar
  | mismatchedTag
  | duplicateAttribute
  | junkAfterElement
  | parameterReference
  | undefinedEntity
  | recursiveEntity
  | asynchronousEntity
  | badCharacter
  | binaryEntity
  | externalInAttribute
  | misplacedDeclaration
  | unknownEncoding
  | wrongEncoding
  | openLiteral
  | unboundPrefix
  | undeclaredPrefix
  | declaration
  | publicId
  | reservedXml
  | reservedXmlns
  | reservedSpace
  | amplification
  deriving Repr, DecidableEq

def Cause.message : Cause → String
  | .statement => "syntax error"
  | .noElement => "no element found"
  | .invalidToken => "not well-formed (invalid token)"
  | .unclosedToken => "unclosed token"
  | .partialChar => "partial character"
  | .mismatchedTag => "mismatched tag"
  | .duplicateAttribute => "duplicate attribute"
  | .junkAfterElement => "junk after document element"
  | .parameterReference => "illegal parameter entity reference"
  | .undefinedEntity => "undefined entity"
  | .recursiveEntity => "recursive entity reference"
  | .asynchronousEntity => "asynchronous entity"
  | .badCharacter => "reference to invalid character number"
  | .binaryEntity => "reference to binary entity"
  | .externalInAttribute => "reference to external entity in attribute"
  | .misplacedDeclaration => "XML or text declaration not at start of entity"
  | .unknownEncoding => "unknown encoding"
  | .wrongEncoding => "encoding specified in XML declaration is incorrect"
  | .openLiteral => "unclosed CDATA section"
  | .unboundPrefix => "unbound prefix"
  | .undeclaredPrefix => "must not undeclare prefix"
  | .declaration => "XML declaration not well-formed"
  | .publicId => "illegal character(s) in public id"
  | .reservedXml =>
      "reserved prefix (xml) must not be undeclared or bound to another namespace name"
  | .reservedXmlns => "reserved prefix (xmlns) must not be declared or undeclared"
  | .reservedSpace => "prefix must not be bound to one of the reserved namespace names"
  | .amplification => "limit on input amplification factor (from DTD and entities) breached"

/-- A cause and the offset of the octet where it shows. -/
structure Fault where
  cause : Cause
  offset : Nat
  deriving Repr, DecidableEq

/-- Where cells start; `stop` is where they start if there are none. -/
def offsetOf (stop : Nat) : List Cell → Nat
  | [] => stop
  | cell :: _ => cell.offset

/-- The fault of a scan that started at `start` and did not find what it had to. -/
def Fault.ofStop (start : Nat) : Stop → Fault
  | .invalid rest => ⟨.invalidToken, offsetOf start rest⟩
  | .cut => ⟨.partialChar, start⟩
  | .short => ⟨.unclosedToken, start⟩

end BucketRegion.Xml

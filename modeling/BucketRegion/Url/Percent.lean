import BucketRegion.Bytes.Utf8
import BucketRegion.Text.Ranges

/-!
# Percent encoding

Text in which characters that a component of a URL cannot hold stand as their octets, each as a
percent sign and two hexadecimal digits.
-/

set_option autoImplicit false

namespace BucketRegion.Url

/-- An octet as a percent sign and two capital hexadecimal digits. -/
def percentOctet (b : UInt8) : List Char :=
  ['%', Text.hexDigitUpper (b.toNat / 16), Text.hexDigitUpper (b.toNat % 16)]

/-- The octets of a character, percent-encoded. -/
def percentChar (c : Char) : List Char :=
  (Utf8.encodeChar c).flatMap percentOctet

def isHexDigit (c : Char) : Bool := (Text.hexValue? c).isSome

/-- Encodes all characters that are not safe. -/
def encodeUnsafe (safe : Char → Bool) (cs : List Char) : List Char :=
  cs.flatMap fun c => if safe c then [c] else percentChar c

/-- Encodes all characters that are not safe, and leaves encoded octets as they are. -/
def requote (safe : Char → Bool) : List Char → List Char
  | '%' :: a :: b :: rest =>
      if isHexDigit a && isHexDigit b then '%' :: a :: b :: requote safe rest
      else (if safe '%' then ['%'] else percentChar '%') ++ requote safe (a :: b :: rest)
  | c :: rest => (if safe c then [c] else percentChar c) ++ requote safe rest
  | [] => []

/-- Letters, digits and the marks that stand for themselves in every component. -/
def isUnreserved (c : Char) : Bool :=
  c.isAlphanum || c == '-' || c == '.' || c == '_' || c == '~'

/-- Encodes everything but unreserved characters, so that the result is one segment of a path. -/
def encodeSegment (s : String) : String :=
  String.ofList (encodeUnsafe isUnreserved s.toList)

/-- Decodes octets; `run` holds, in reverse, the octets since the last character beyond ASCII. -/
def decodeRun (run : Bytes) : List Char → List Char
  | [] => Utf8.decodeReplacing run.reverse
  | '%' :: a :: b :: rest =>
      match Text.hexValue? a, Text.hexValue? b with
      | some high, some low => decodeRun ((16 * high + low).toUInt8 :: run) rest
      | _, _ => decodeRun (0x25 :: run) (a :: b :: rest)
  | c :: rest =>
      if c.toNat < 0x80 then decodeRun (c.toNat.toUInt8 :: run) rest
      else Utf8.decodeReplacing run.reverse ++ c :: decodeRun [] rest

/-- Decodes percent-encoded octets; those that are no UTF-8 become replacement characters. -/
def decodeChars (cs : List Char) : List Char := decodeRun [] cs

/-- The text that percent-encoded text stands for. -/
def decodeText (s : String) : String := String.ofList (decodeChars s.toList)

end BucketRegion.Url

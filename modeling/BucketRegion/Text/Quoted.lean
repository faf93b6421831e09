import BucketRegion.Text.Hex
import BucketRegion.Text.Printable

/-!
# Quoted text

Text as error messages quote it: between apostrophes, or between double quotes if it holds an
apostrophe and no double quote; what cannot be printed is escaped.
-/

set_option autoImplicit false

namespace BucketRegion.Text

/-- An escape by code point, in the shortest of three widths. -/
def escapeCode (n : Nat) : List Char :=
  if n < 0x100 then '\\' :: 'x' :: hexPadded 2 n
  else if n < 0x10000 then '\\' :: 'u' :: hexPadded 4 n
  else '\\' :: 'U' :: hexPadded 8 n

/-- One character of quoted text. -/
def quoteChar (mark : Char) (c : Char) : List Char :=
  if c == mark || c == '\\' then ['\\', c]
  else if c == '\t' then ['\\', 't']
  else if c == '\n' then ['\\', 'n']
  else if c == '\r' then ['\\', 'r']
  else if isPrintable c then [c]
  else escapeCode c.toNat

/-- The quotation mark that a text is put between. -/
def quoteMark (cs : List Char) : Char :=
  if cs.contains '\'' && !cs.contains '"' then '"' else '\''

def quoted (s : String) : String :=
  let cs := s.toList
  let mark := quoteMark cs
  String.ofList (mark :: cs.flatMap (quoteChar mark) ++ [mark])

end BucketRegion.Text

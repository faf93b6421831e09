import BucketRegion.Value.Display

/-!
# Writing JSON

Values as JSON text, in the style of reports (indented, every character as itself) or of log
lines (on one line, ASCII only).
-/

set_option autoImplicit false

namespace BucketRegion.Json

/-- How JSON is laid out. -/
structure Style where
  indented : Bool
  asciiOnly : Bool
  separator : List Char
  floats : Decimal.FloatLayout

/-- Reports: two spaces a level, characters unescaped. -/
def Style.report : Style := ⟨true, false, [','], .plain⟩

/-- Log lines: one line, characters beyond ASCII escaped. -/
def Style.logLine : Style := ⟨false, true, [',', ' '], .logged⟩

/-- An escape by UTF-16 unit. -/
def escapeUnit (n : Nat) : List Char :=
  '\\' :: 'u' :: Text.hexPadded 4 n

/-- One character inside quotation marks. -/
def writeChar (style : Style) (c : Char) : List Char :=
  if c == '"' then ['\\', '"']
  else if c == '\\' then ['\\', '\\']
  else if c == '\n' then ['\\', 'n']
  else if c == '\r' then ['\\', 'r']
  else if c == '\t' then ['\\', 't']
  else if c == '\x08' then ['\\', 'b']
  else if c == '\x0c' then ['\\', 'f']
  else if c.toNat < 0x20 then escapeUnit c.toNat
  else if style.asciiOnly && 0x7F ≤ c.toNat then
    if c.toNat < 0x10000 then escapeUnit c.toNat
    else
      let n := c.toNat - 0x10000
      escapeUnit (0xD800 + n / 0x400) ++ escapeUnit (0xDC00 + n % 0x400)
  else [c]

def writeText (style : Style) (s : String) : List Char :=
  '"' :: s.toList.flatMap (writeChar style) ++ ['"']

/-- The break before an item at a level of nesting. -/
def lineBreak (style : Style) (level : Nat) : List Char :=
  if style.indented then '\n' :: List.replicate (2 * level) ' ' else []

/-- Items between brackets; nothing stands between the brackets of an empty list. -/
def bracketed (style : Style) (level : Nat) (opening closing : Char) :
    List (List Char) → List Char
  | [] => [opening, closing]
  | item :: items =>
      let more := items.flatMap fun i => style.separator ++ lineBreak style (level + 1) ++ i
      opening :: lineBreak style (level + 1) ++ item ++ more ++ lineBreak style level ++ [closing]

mutual

/-- A value at a level of nesting. -/
def writeAt (style : Style) (level : Nat) : Value → List Char
  | .null => ['n', 'u', 'l', 'l']
  | .bool true => ['t', 'r', 'u', 'e']
  | .bool false => ['f', 'a', 'l', 's', 'e']
  | .int n => Decimal.integerChars n
  | .float x => (Decimal.floatText style.floats x).toList
  | .text s => writeText style s
  | .list items => bracketed style level '[' ']' (writeItems style (level + 1) items)
  | .table fields => bracketed style level '\x7b' '\x7d' (writeFields style (level + 1) fields)
  | .date d => writeText style d.iso
  | .time t => writeText style t.iso
  | .moment d t offset => writeText style (Value.momentIso d t offset)

def writeItems (style : Style) (level : Nat) : List Value → List (List Char)
  | [] => []
  | item :: items => writeAt style level item :: writeItems style level items

def writeFields (style : Style) (level : Nat) : List (String × Value) → List (List Char)
  | [] => []
  | (key, value) :: fields =>
      (writeText style key ++ ':' :: ' ' :: writeAt style level value) ::
        writeFields style level fields

end

def write (style : Style) (value : Value) : String :=
  String.ofList (writeAt style 0 value)

end BucketRegion.Json

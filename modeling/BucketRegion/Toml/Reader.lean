import BucketRegion.Bytes.Utf8
import BucketRegion.Toml.Names
import BucketRegion.Toml.Scalar

/-!
# Reading TOML

The table that a TOML document denotes. A document is a sequence of statements: each declares a
table or an item of a list of tables, or gives a key a value.
-/

set_option autoImplicit false

namespace BucketRegion.Toml

def isBareKeyChar (c : Char) : Bool := c.isAlphanum || c == '-' || c == '_'

/-- One part of a dotted key. -/
def readKeyPart (cs : List Char) : Reading String :=
  match cs with
  | '\'' :: rest => readLiteralLine rest
  | '"' :: rest => readBasicLine rest
  | c :: _ =>
      if isBareKeyChar c then
        .ok (String.ofList (cs.takeWhile isBareKeyChar), cs.dropWhile isBareKeyChar)
      else refuse .keyStart cs
  | [] => refuse .keyStart []

/-- A dotted key and the space after it; `fuel` bounds its parts. -/
def readKeyParts : Nat → List Char → Reading Key
  | 0, cs => refuse .keyStart cs
  | fuel + 1, cs =>
      match readKeyPart cs with
      | .error fault => .error fault
      | .ok (part, rest) =>
          match rest.dropWhile isSpace with
          | '.' :: more =>
              (readKeyParts fuel (more.dropWhile isSpace)).map fun (key, after) =>
                (part :: key, after)
          | other => .ok ([part], other)

/-- A dotted key, all of which stands on one line. -/
def readKey (cs : List Char) : Reading Key := readKeyParts (lineSize cs + 1) cs

/-- What follows a comment, if one starts here. -/
def skipComment (cs : List Char) : Except Fault (List Char) :=
  match cs with
  | '#' :: rest => (readUntil ['\n'] isControl false rest).map (·.2)
  | _ => .ok cs

/-- Skips space, line ends and comments; `fuel` bounds the comments. -/
def skipBlank : Nat → List Char → Except Fault (List Char)
  | 0, cs => .ok cs
  | fuel + 1, cs =>
      match cs.dropWhile isSpaceOrLine with
      | '#' :: rest =>
          match skipComment ('#' :: rest) with
          | .error fault => .error fault
          | .ok after => skipBlank fuel after
      | other => .ok other

def isComposite : Value → Bool
  | .list _ => true
  | .table _ => true
  | _ => false

/-- A value that has no parts. -/
def readScalar (cs : List Char) : Reading Value :=
  match cs with
  | '"' :: '"' :: '"' :: rest => (readLong false rest).map fun (s, after) => (.text s, after)
  | '"' :: rest => (readBasicLine rest).map fun (s, after) => (.text s, after)
  | '\'' :: '\'' :: '\'' :: rest => (readLong true rest).map fun (s, after) => (.text s, after)
  | '\'' :: rest => (readLiteralLine rest).map fun (s, after) => (.text s, after)
  | 't' :: 'r' :: 'u' :: 'e' :: rest => .ok (.bool true, rest)
  | 'f' :: 'a' :: 'l' :: 's' :: 'e' :: rest => .ok (.bool false, rest)
  | _ =>
      match readMoment? cs with
      | some reading => reading
      | none =>
          match readBased? cs with
          | some found => .ok found
          | none =>
              match readDecimal? cs with
              | some reading => reading
              | none =>
                  match readNamedFloat? cs with
                  | some found => .ok found
                  | none => refuse .value cs

/-- A table in braces as far as it is read: its fields and what is known of their names. -/
structure OpenTable where
  fields : List (String × Value)
  names : Names

/-- Adds a field to a table in braces; `rest` is what follows the field. -/
def OpenTable.add (t : OpenTable) (key : Key) (value : Value) (rest : List Char) :
    Except Fault OpenTable :=
  if t.names.isClosed key then refuse (.immutable key) rest
  else
    match changeTable? false some key.dropLast t.fields with
    | none => refuse .overwritten rest
    | some _ =>
        let last := key.getLastD ""
        match changeTable? false (addField? last value) key.dropLast t.fields with
        | none => refuse (.duplicate last) rest
        | some fields =>
            .ok ⟨fields, if isComposite value then t.names.close key else t.names⟩

mutual

/-- A value; `fuel` bounds its parts. Two steps for each character are enough: a list takes one step
for itself and one for its first item. -/
def readValue : Nat → List Char → Reading Value
  | 0, cs => refuse .value cs
  | fuel + 1, cs =>
      match cs with
      | '[' :: rest =>
          match skipBlank fuel rest with
          | .error fault => .error fault
          | .ok (']' :: after) => .ok (.list [], after)
          | .ok other => (readItems fuel other).map fun (items, after) => (.list items, after)
      | '\x7b' :: rest =>
          match rest.dropWhile isSpace with
          | '\x7d' :: after => .ok (.table [], after)
          | other =>
              (readFields fuel ⟨[], .empty⟩ other).map fun (fields, after) =>
                (.table fields, after)
      | _ => readScalar cs

/-- The items of a list up to its closing bracket. -/
def readItems : Nat → List Char → Reading (List Value)
  | 0, cs => refuse .openList cs
  | fuel + 1, cs =>
      match readValue fuel cs with
      | .error fault => .error fault
      | .ok (item, rest) =>
          match skipBlank fuel rest with
          | .error fault => .error fault
          | .ok (']' :: after) => .ok ([item], after)
          | .ok (',' :: more) =>
              match skipBlank fuel more with
              | .error fault => .error fault
              | .ok (']' :: after) => .ok ([item], after)
              | .ok other =>
                  (readItems fuel other).map fun (items, after) => (item :: items, after)
          | .ok other => refuse .openList other

/-- The fields of a table in braces up to its closing brace. -/
def readFields : Nat → OpenTable → List Char → Reading (List (String × Value))
  | 0, _, cs => refuse .openTable cs
  | fuel + 1, table, cs =>
      match readKey cs with
      | .error fault => .error fault
      | .ok (key, '=' :: rest) =>
          match readValue fuel (rest.dropWhile isSpace) with
          | .error fault => .error fault
          | .ok (value, rest) =>
              match table.add key value rest with
              | .error fault => .error fault
              | .ok table =>
                  match rest.dropWhile isSpace with
                  | '\x7d' :: after => .ok (table.fields, after)
                  | ',' :: more => readFields fuel table (more.dropWhile isSpace)
                  | other => refuse .openTable other
      | .ok (_, other) => refuse .equals other

end

/-- A document as far as it is read: its fields, what is known of their names, the names that
count as declared from the next header on, and the table of the present header. -/
structure Document where
  fields : List (String × Value)
  names : Names
  pending : List Key
  header : Key

namespace Document

def empty : Document := ⟨[], .empty, [], []⟩

/-- The names that were waiting for a header are declared. -/
def settle (d : Document) : Document :=
  { d with names := d.pending.foldl (fun names key => names.declare key) d.names, pending := [] }

/-- The header of a table; `rest` follows its opening bracket. -/
def openTable (d : Document) (rest : List Char) : Except Fault (Document × List Char) := do
  let (key, rest) ← readKey (rest.dropWhile isSpace)
  if d.names.isDeclared key || d.names.isClosed key then refuse (.declaredTwice key) rest
  else
    match changeTable? true some key d.fields with
    | none => refuse .overwritten rest
    | some fields =>
        match rest with
        | ']' :: after =>
            return ({ d with fields := fields, names := d.names.declare key, header := key },
              after)
        | _ => refuse .tableEnd rest

/-- The header of an item of a list of tables; `rest` follows its opening brackets. -/
def openItem (d : Document) (rest : List Char) : Except Fault (Document × List Char) := do
  let (key, rest) ← readKey (rest.dropWhile isSpace)
  if d.names.isClosed key then refuse (.immutable key) rest
  else
    match changeTable? true (addItem? (key.getLastD "")) key.dropLast d.fields with
    | none => refuse .overwritten rest
    | some fields =>
        match rest with
        | ']' :: ']' :: after =>
            let names := (d.names.forget key).declare key
            return ({ d with fields := fields, names := names, header := key }, after)
        | _ => refuse .arrayEnd rest

/-- The keys in front of the last part of a dotted key under a header, the shortest first. -/
def ways (header key : Key) : List Key :=
  (List.range (key.length - 1)).map fun i => header ++ key.take (i + 1)

/-- Gives a key under the present header a value; `rest` is what follows the value. -/
def assign (d : Document) (key : Key) (value : Value) (rest : List Char) :
    Except Fault Document :=
  let parent := d.header ++ key.dropLast
  let last := key.getLastD ""
  match (ways d.header key).find? fun way => d.names.isDeclared way with
  | some way => refuse (.redefined way) rest
  | none =>
      if d.names.isClosed parent then refuse (.immutable parent) rest
      else
        match changeTable? true (addField? last value) parent d.fields with
        | none => refuse .overwritten rest
        | some fields =>
            .ok { d with
              fields := fields
              names := if isComposite value then d.names.close (d.header ++ key) else d.names
              pending := d.pending ++ ways d.header key }

/-- A key with its value, whose parts `fuel` bounds. -/
def readPair (fuel : Nat) (d : Document) (cs : List Char) :
    Except Fault (Document × List Char) := do
  match ← readKey cs with
  | (key, '=' :: rest) =>
      let (value, rest) ← readValue fuel (rest.dropWhile isSpace)
      let d ← d.assign key value rest
      return (d, rest)
  | (_, other) => refuse .equals other

/-- The rest of a line after a statement. -/
def finishLine (cs : List Char) : Except Fault (List Char) := do
  match ← skipComment cs with
  | [] => return []
  | '\n' :: rest => return rest
  | other => refuse .lineEnd other

/-- Reads statements, one a line, up to the end; `fuel` bounds the lines and the parts of values. -/
def readLines : Nat → Document → List Char → Except Fault Document
  | 0, d, _ => .ok d
  | fuel + 1, d, cs => do
      match cs.dropWhile isSpace with
      | [] => return d
      | '\n' :: rest => readLines fuel d rest
      | '[' :: '[' :: rest =>
          let (d, rest) ← d.settle.openItem rest
          readLines fuel d (← finishLine (rest.dropWhile isSpace))
      | '[' :: rest =>
          let (d, rest) ← d.settle.openTable rest
          readLines fuel d (← finishLine (rest.dropWhile isSpace))
      | '#' :: rest => readLines fuel d (← finishLine ('#' :: rest))
      | c :: rest =>
          if isBareKeyChar c || c == '"' || c == '\'' then
            let (d, rest) ← d.readPair fuel (c :: rest)
            readLines fuel d (← finishLine (rest.dropWhile isSpace))
          else refuse .statement (c :: rest)

end Document

/-- A carriage return in front of a line end is left out. -/
def plainLines : List Char → List Char
  | '\r' :: '\n' :: rest => '\n' :: plainLines rest
  | c :: rest => c :: plainLines rest
  | [] => []

/-- Why octets are no document. -/
inductive Error where
  | encoding (problem : Utf8.Problem)
  | document (message : String)
  | longInteger (count : Nat)

def Error.message : Error → String
  | .encoding problem => problem.message
  | .document message => message
  | .longInteger count =>
      "Exceeds the limit (" ++ toString Decimal.digitLimit ++
        " digits) for integer string conversion: value has " ++ toString count ++
        " digits; use sys.set_int_max_str_digits() to increase the limit"

/-- The error of a fault in a document. -/
def Error.ofFault (document : List Char) : Fault → Error
  | .longInteger count => .longInteger count
  | .at cause remaining =>
      .document (cause.message ++ " (at " ++
        placeText document (document.length - remaining) ++ ")")

/-- Reads a document. -/
def read (octets : Bytes) : Except Error (List (String × Value)) :=
  match Utf8.decode octets with
  | .error problem => .error (.encoding problem)
  | .ok cs =>
      let document := plainLines cs
      match Document.readLines (2 * document.length + 2) .empty document with
      | .error fault => .error (.ofFault document fault)
      | .ok d => .ok d.fields

end BucketRegion.Toml

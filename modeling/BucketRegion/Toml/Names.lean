import BucketRegion.Toml.Fault
import BucketRegion.Value.Basic

/-!
# Names of a TOML document

Which tables a document has declared and which values it has closed, by dotted key; and the
tables behind dotted keys.
-/

set_option autoImplicit false

namespace BucketRegion.Toml

/-- What is known of a name: whether its table was declared, whether its value is closed together
with all that is in it, and what is known of the names below it. -/
inductive Names where
  | node (declared closed : Bool) (parts : List (String × Names))

namespace Names

def empty : Names := .node false false []

/-- What is known of the names below one. -/
def parts : Names → List (String × Names)
  | .node _ _ parts => parts

def isDeclaredHere : Names → Bool
  | .node declared _ _ => declared

def isClosedHere : Names → Bool
  | .node _ closed _ => closed

/-- What is known of a dotted key. -/
def find? : Key → Names → Option Names
  | [], names => some names
  | part :: key, names => (Fields.get? part names.parts).bind (find? key)

/-- Changes what is known of a dotted key. -/
def update (change : Names → Names) : Key → Names → Names
  | [], names => change names
  | part :: key, .node declared closed below =>
      let inner := (Fields.get? part below).getD empty
      .node declared closed (Fields.put part (update change key inner) below)

/-- Forgets all that is known of a dotted key. -/
def forget : Key → Names → Names
  | [], names => names
  | [part], .node declared closed below => .node declared closed (Fields.erase part below)
  | part :: key, .node declared closed below =>
      match Fields.get? part below with
      | none => .node declared closed below
      | some inner => .node declared closed (Fields.put part (forget key inner) below)

def declare (key : Key) : Names → Names :=
  update (fun | .node _ closed below => .node true closed below) key

def close (key : Key) : Names → Names :=
  update (fun | .node declared _ below => .node declared true below) key

/-- Whether the table of a key was declared. -/
def isDeclared (key : Key) (names : Names) : Bool :=
  !key.isEmpty && (find? key names).any isDeclaredHere

/-- Whether a key or one that it starts with is closed. -/
def isClosed : Key → Names → Bool
  | [], _ => false
  | part :: key, names =>
      match Fields.get? part names.parts with
      | none => false
      | some inner => inner.isClosedHere || isClosed key inner

end Names

/-- Changes the table behind a dotted key, creating tables on the way; none if something else is
in the way. With `intoLists` the last item of a list stands for the list. -/
def changeTable? (intoLists : Bool)
    (change : List (String × Value) → Option (List (String × Value))) :
    Key → List (String × Value) → Option (List (String × Value))
  | [], fields => change fields
  | part :: key, fields =>
      let put (value : Value) : List (String × Value) := Fields.put part value fields
      match Fields.get? part fields with
      | none => (changeTable? intoLists change key []).map fun inner => put (.table inner)
      | some (.table inner) =>
          (changeTable? intoLists change key inner).map fun inner => put (.table inner)
      | some (.list items) =>
          match intoLists, items.getLast? with
          | true, some (.table inner) =>
              (changeTable? intoLists change key inner).map fun inner =>
                put (.list (items.dropLast ++ [.table inner]))
          | _, _ => none
      | some _ => none

/-- Adds a field to a table that does not have it. -/
def addField? (part : String) (value : Value) (fields : List (String × Value)) :
    Option (List (String × Value)) :=
  if (Fields.get? part fields).isSome then none else some (fields ++ [(part, value)])

/-- Adds an empty table to a list of tables, which may be new. -/
def addItem? (part : String) (fields : List (String × Value)) :
    Option (List (String × Value)) :=
  match Fields.get? part fields with
  | none => some (fields ++ [(part, .list [.table []])])
  | some (.list items) => some (Fields.put part (.list (items ++ [.table []])) fields)
  | some _ => none

end BucketRegion.Toml

import BucketRegion.Calendar.Clock

/-!
# Values

The values of configuration files and of structured text: scalars, dates, lists and tables. A
table keeps the order in which its fields were put in.
-/

set_option autoImplicit false

namespace BucketRegion

/-- A value of a data format. A date with a time may carry minutes ahead of universal time. -/
inductive Value where
  | null
  | bool (b : Bool)
  | int (n : Int)
  | float (x : Float)
  | text (s : String)
  | list (items : List Value)
  | table (fields : List (String × Value))
  | date (d : Calendar.Date)
  | time (t : Calendar.TimeOfDay)
  | moment (d : Calendar.Date) (t : Calendar.TimeOfDay) (offset : Option Int)
  deriving Inhabited

namespace Value

/-- The name of a value's kind in messages. -/
def kind : Value → String
  | null => "NoneType"
  | bool _ => "bool"
  | int _ => "int"
  | float _ => "float"
  | text _ => "str"
  | list _ => "list"
  | table _ => "dict"
  | date _ => "datetime.date"
  | time _ => "datetime.time"
  | moment .. => "datetime.datetime"

end Value

/-! Association lists with one entry a key, in order of first insertion. -/
namespace Fields

variable {α : Type}

def get? (key : String) (fields : List (String × α)) : Option α :=
  fields.lookup key

/-- Puts a value under a key: in place if the key is there, otherwise at the end. -/
def put (key : String) (value : α) : List (String × α) → List (String × α)
  | [] => [(key, value)]
  | (k, v) :: rest => if k == key then (k, value) :: rest else (k, v) :: put key value rest

def erase (key : String) (fields : List (String × α)) : List (String × α) :=
  fields.filter fun field => field.1 != key

end Fields

end BucketRegion

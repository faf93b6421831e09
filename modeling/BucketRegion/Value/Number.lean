import BucketRegion.Decimal.Numeral
import BucketRegion.Value.Display

/-!
# Values as numbers

The number that a value stands for where a setting asks for one.
-/

set_option autoImplicit false

namespace BucketRegion

/-- Why a value stands for no number. -/
inductive NumberError where
  | notFloat (value : Value)
  | notInteger (value : Value)
  | badFloat (text : String)
  | badInteger (text : String)
  | longInteger (count : Nat)
  | tooLarge
  | infinite
  | notANumber

/-- How much a message shows of a quoted text that is no whole number. -/
def shownLiteral : Nat := 200

def NumberError.message : NumberError → String
  | notFloat value =>
      "float() argument must be a string or a real number, not '" ++ value.kind ++ "'"
  | notInteger value =>
      "int() argument must be a string, a bytes-like object or a real number, not '" ++
        value.kind ++ "'"
  | badFloat text => "could not convert string to float: " ++ Text.quoted text
  | badInteger text =>
      "invalid literal for int() with base 10: " ++
        String.ofList ((Text.quoted text).toList.take shownLiteral)
  | longInteger count =>
      "Exceeds the limit (" ++ toString Decimal.digitLimit ++
        " digits) for integer string conversion: value has " ++ toString count ++
        " digits; use sys.set_int_max_str_digits() to increase the limit"
  | tooLarge => "int too large to convert to float"
  | infinite => "cannot convert float infinity to integer"
  | notANumber => "cannot convert float NaN to integer"

open Decimal (Binary64)

/-- The whole number next to a floating-point number on the side of zero. -/
def truncateFloat (x : Float) : Except NumberError Int :=
  match Binary64.ofFloat x with
  | .finite negative significand exponent =>
      .ok (Binary64.truncate negative significand exponent)
  | .infinite _ => .error .infinite
  | .notANumber => .error .notANumber

namespace Value

/-- The floating-point number of a value. -/
def toFloat : Value → Except NumberError Float
  | bool b => .ok (if b then 1.0 else 0.0)
  | int n =>
      match Binary64.floatOfInt? n with
      | some x => .ok x
      | none => .error .tooLarge
  | float x => .ok x
  | text s =>
      match Decimal.readFloat? s with
      | some x => .ok x
      | none => .error (.badFloat s)
  | value => .error (.notFloat value)

/-- The whole number of a value. -/
def toInteger : Value → Except NumberError Int
  | bool b => .ok (if b then 1 else 0)
  | int n => .ok n
  | float x => truncateFloat x
  | text s =>
      match Decimal.readInteger s with
      | .ok n => .ok n
      | .error (.malformed shown) => .error (.badInteger shown)
      | .error (.tooLong count) => .error (.longInteger count)
  | value => .error (.notInteger value)

end Value

end BucketRegion

/-!
# Splitting and joining

Cutting lists at separators without losing empty parts, and the inverse join.
-/

set_option autoImplicit false

namespace BucketRegion.Text

section Lists

variable {α : Type} [BEq α]

/-- The parts between the occurrences of a separator, empty ones included: there is always one
part more than there are separators. -/
def splitOn (sep : α) : List α → List (List α)
  | [] => [[]]
  | x :: xs =>
      if x == sep then [] :: splitOn sep xs
      else
        match splitOn sep xs with
        | [] => [[x]]
        | part :: parts => (x :: part) :: parts

/-- The part before the first separator and the part after it, if there is one. -/
def cut? (sep : α) : List α → Option (List α × List α)
  | [] => none
  | x :: xs =>
      if x == sep then some ([], xs)
      else (cut? sep xs).map fun (before, after) => (x :: before, after)

/-- The part before the last separator and the part after it, if there is one. -/
def cutLast? (sep : α) (xs : List α) : Option (List α × List α) :=
  (cut? sep xs.reverse).map fun (after, before) => (before.reverse, after.reverse)

/-- What follows `lead`, if the list starts with it. -/
def dropLead? : List α → List α → Option (List α)
  | [], xs => some xs
  | _ :: _, [] => none
  | l :: lead, x :: xs => if l == x then dropLead? lead xs else none

/-- The parts before and after the first occurrence of a sequence. -/
def cutAt? (sep : List α) : List α → Option (List α × List α)
  | [] => if sep.isEmpty then some ([], []) else none
  | x :: xs =>
      match dropLead? sep (x :: xs) with
      | some rest => some ([], rest)
      | none => (cutAt? sep xs).map fun (before, after) => (x :: before, after)

/-- Parts put together with a separator between them. -/
def joinWith (sep : List α) : List (List α) → List α
  | [] => []
  | [part] => part
  | part :: parts => part ++ sep ++ joinWith sep parts

end Lists

/-- The parts of a text between the occurrences of a character. -/
def splitText (sep : Char) (s : String) : List String :=
  (splitOn sep s.toList).map String.ofList

/-- The texts before and after the first occurrence of a character. -/
def cutText? (sep : Char) (s : String) : Option (String × String) :=
  (cut? sep s.toList).map fun (before, after) => (String.ofList before, String.ofList after)

/-- A text without the characters that fail the test. -/
def keepText (p : Char → Bool) (s : String) : String :=
  String.ofList (s.toList.filter p)

end BucketRegion.Text

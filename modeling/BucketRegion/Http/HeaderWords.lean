import BucketRegion.Text.Blank

/-!
# Header words

Header values as lists of names with their values: a comma ends a list, and semicolons, white space
and stray equals signs may stand between names. A value may be quoted text, in which a backslash
stands before characters that are taken as they are.
-/

set_option autoImplicit false

namespace BucketRegion.Http

/-- A name with its value; a value is none if no equals sign follows the name. -/
abbrev HeaderWord := String × Option String

namespace HeaderWord

def isNameChar (c : Char) : Bool := !Text.isBlank c && c != ';' && c != ',' && c != '='

def isValueChar (c : Char) : Bool := !Text.isBlank c && c != ';' && c != ','

/-- Reads quoted text up to its closing mark; none if there is no mark. -/
def readQuoted? : List Char → Option (List Char × List Char)
  | [] => none
  | '"' :: rest => some ([], rest)
  | '\\' :: [] => none
  | '\\' :: c :: rest =>
      if c == '\n' then none
      else (readQuoted? rest).map fun (text, rest) => (c :: text, rest)
  | c :: rest => (readQuoted? rest).map fun (text, rest) => (c :: text, rest)

/-- The value that stands behind a name, and what follows it. -/
def readValue (cs : List Char) : Option (List Char) × List Char :=
  match cs.dropWhile Text.isBlank with
  | '=' :: rest =>
      let rest := rest.dropWhile Text.isBlank
      let quoted? := match rest with
        | '"' :: text => readQuoted? text
        | _ => none
      match quoted? with
      | some (text, rest) => (some text, rest)
      | none => (some (rest.takeWhile isValueChar), rest.dropWhile isValueChar)
  | _ => (none, cs)

/-- The lists between commas, empty ones left out; `held` is the list that is being read, in
reverse, and `fuel` bounds the characters. -/
def listsFrom : Nat → List HeaderWord → List Char → List (List HeaderWord)
  | 0, held, _ => if held.isEmpty then [] else [held.reverse]
  | fuel + 1, held, cs =>
      match cs.dropWhile Text.isBlank with
      | [] => if held.isEmpty then [] else [held.reverse]
      | ',' :: rest =>
          if held.isEmpty then listsFrom fuel [] rest
          else held.reverse :: listsFrom fuel [] rest
      | c :: rest =>
          if isNameChar c then
            let name := c :: rest.takeWhile isNameChar
            let (value, rest) := readValue (rest.dropWhile isNameChar)
            listsFrom fuel ((String.ofList name, value.map String.ofList) :: held) rest
          else listsFrom fuel held rest

/-- The lists that a header value holds. -/
def lists (value : String) : List (List HeaderWord) :=
  listsFrom value.toList.length [] value.toList

end HeaderWord

example : HeaderWord.lists "foo=\"b\\\"ar\"; port = 80; discard, ; bar=" =
    [[("foo", some "b\"ar"), ("port", some "80"), ("discard", none)], [("bar", some "")]] := by
  decide

end BucketRegion.Http

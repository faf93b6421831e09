import BucketRegion.Text.Quoted

/-!
# Loose text

Text as a list of code points. Beside the characters these are the surrogates, which stand for
nothing by themselves: a variable of the environment has one for each octet that is no character,
and no encoding can write them.
-/

set_option autoImplicit false

namespace BucketRegion.Text

/-- The number that surrogates start at. -/
def surrogateBase : Nat := 0xD800

/-- A code point: a character, or one of the surrogates, which are counted from the first. -/
inductive CodePoint where
  | char (c : Char)
  | surrogate (offset : Fin 0x800)
  deriving Repr, DecidableEq

namespace CodePoint

def toNat : CodePoint → Nat
  | char c => c.toNat
  | surrogate offset => surrogateBase + offset

/-- The code point of a number. -/
def ofNat (n : Nat) : CodePoint :=
  if inside : n - surrogateBase < 0x800 ∧ surrogateBase ≤ n then surrogate ⟨_, inside.1⟩
  else char (Char.ofNat n)

def isSurrogate : CodePoint → Bool
  | char _ => false
  | surrogate _ => true

/-- The character, or the replacement character for a surrogate. -/
def shown : CodePoint → Char
  | char c => c
  | surrogate _ => '\uFFFD'

/-- One code point of quoted text. -/
def quote (mark : Char) : CodePoint → List Char
  | char c => quoteChar mark c
  | surrogate offset => escapeCode (surrogate offset).toNat

end CodePoint

/-- Text that may have surrogates in it. -/
abbrev Loose := List CodePoint

namespace Loose

def ofChars (cs : List Char) : Loose := cs.map .char

def ofString (s : String) : Loose := ofChars s.toList

instance : Coe String Loose := ⟨ofString⟩

/-- The characters, with the replacement character in the place of each surrogate. -/
def shown (text : Loose) : List Char := text.map (·.shown)

def quoted (text : Loose) : String :=
  let mark := quoteMark text.shown
  String.ofList (mark :: text.flatMap (·.quote mark) ++ [mark])

end Loose

/-- Surrogates that follow one another: a single one, or two and some more. -/
inductive SurrogateRun where
  | alone (offset : Fin 0x800)
  | several (more : Nat)
  deriving Repr, DecidableEq

/-- The first surrogates of a text, and where they start. Which ones they are is told only of a
single one. -/
structure Surrogates where
  position : Nat
  run : SurrogateRun
  deriving Repr, DecidableEq

def Surrogates.message (e : Surrogates) : String :=
  let place :=
    match e.run with
    | .alone offset =>
        "character '" ++ String.ofList (escapeCode (CodePoint.surrogate offset).toNat) ++
          "' in position " ++ toString e.position
    | .several more =>
        "characters in position " ++ toString e.position ++ "-" ++
          toString (e.position + more + 1)
  "'utf-8' codec can't encode " ++ place ++ ": surrogates not allowed"

/-- Looks for surrogates from `position` on. -/
def findSurrogates? (position : Nat) : Loose → Option Surrogates
  | [] => none
  | .char _ :: rest => findSurrogates? (position + 1) rest
  | .surrogate offset :: rest =>
      match (rest.takeWhile (·.isSurrogate)).length with
      | 0 => some ⟨position, .alone offset⟩
      | more + 1 => some ⟨position, .several more⟩

/-- What keeps a text from being written in UTF-8. -/
def surrogates? (text : Loose) : Option Surrogates := findSurrogates? 0 text

end BucketRegion.Text

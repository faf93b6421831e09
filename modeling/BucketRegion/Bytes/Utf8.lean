import BucketRegion.Text.Loose

/-!
# UTF-8

Text as octets. Reading reports the first sequence that is no character, or puts the
replacement character in the place of each.
-/

set_option autoImplicit false

namespace BucketRegion

abbrev Bytes := List UInt8

namespace Utf8

/-- The octets of one character. -/
def encodeChar (c : Char) : Bytes :=
  let n := c.toNat
  if n < 0x80 then [n.toUInt8]
  else if n < 0x800 then [(0xC0 + n / 0x40).toUInt8, (0x80 + n % 0x40).toUInt8]
  else if n < 0x10000 then
    [(0xE0 + n / 0x1000).toUInt8, (0x80 + n / 0x40 % 0x40).toUInt8, (0x80 + n % 0x40).toUInt8]
  else
    [(0xF0 + n / 0x40000).toUInt8, (0x80 + n / 0x1000 % 0x40).toUInt8,
      (0x80 + n / 0x40 % 0x40).toUInt8, (0x80 + n % 0x40).toUInt8]

def encodeChars (cs : List Char) : Bytes :=
  cs.flatMap encodeChar

def encode (s : String) : Bytes :=
  encodeChars s.toList

/-- The octets of a text without surrogates. -/
def encode? (text : Text.Loose) : Except Text.Surrogates Bytes :=
  match Text.surrogates? text with
  | some found => .error found
  | none => .ok (encodeChars text.shown)

/-- Why octets are no character. -/
inductive Fault where
  | badStart
  | badContinuation
  | truncated
  deriving Repr, DecidableEq

def Fault.message : Fault → String
  | .badStart => "invalid start byte"
  | .badContinuation => "invalid continuation byte"
  | .truncated => "unexpected end of data"

/-- What octets start with: a character or a broken sequence, and its width. -/
inductive Head where
  | char (c : Char) (width : Nat)
  | broken (fault : Fault) (width : Nat)

/-- An octet that can follow the first one of a character. -/
def isContinuation (b : UInt8) : Bool :=
  0x80 ≤ b && b ≤ 0xBF

/-- The payload of a continuation octet. -/
def payload (b : UInt8) : Nat := b.toNat % 0x40

/-- Whether `b` can come second after `lead`: the ranges leave out overlong forms, surrogates
and numbers that are no code points. -/
def canFollow (lead b : UInt8) : Bool :=
  isContinuation b &&
    (if lead == 0xE0 then 0xA0 ≤ b
    else if lead == 0xED then b < 0xA0
    else if lead == 0xF0 then 0x90 ≤ b
    else if lead == 0xF4 then b < 0x90
    else true)

/-- Classifies what the octets `lead :: rest` start with. -/
def head (lead : UInt8) (rest : Bytes) : Head :=
  if lead < 0x80 then .char (Char.ofNat lead.toNat) 1
  else if lead < 0xC2 then .broken .badStart 1
  else if lead < 0xE0 then
    match rest with
    | [] => .broken .truncated 1
    | b :: _ =>
        if isContinuation b then .char (Char.ofNat (lead.toNat % 0x20 * 0x40 + payload b)) 2
        else .broken .badContinuation 1
  else if lead < 0xF0 then
    match rest with
    | [] => .broken .truncated 1
    | [b] => if canFollow lead b then .broken .truncated 2 else .broken .badContinuation 1
    | b :: c :: _ =>
        if !canFollow lead b then .broken .badContinuation 1
        else if !isContinuation c then .broken .badContinuation 2
        else .char (Char.ofNat (lead.toNat % 0x10 * 0x1000 + payload b * 0x40 + payload c)) 3
  else if lead < 0xF5 then
    match rest with
    | [] => .broken .truncated 1
    | [b] => if canFollow lead b then .broken .truncated 2 else .broken .badContinuation 1
    | [b, c] =>
        if !canFollow lead b then .broken .badContinuation 1
        else if !isContinuation c then .broken .badContinuation 2
        else .broken .truncated 3
    | b :: c :: d :: _ =>
        if !canFollow lead b then .broken .badContinuation 1
        else if !isContinuation c then .broken .badContinuation 2
        else if !isContinuation d then .broken .badContinuation 3
        else .char (Char.ofNat (lead.toNat % 8 * 0x40000 + payload b * 0x1000 +
          payload c * 0x40 + payload d)) 4
  else .broken .badStart 1

/-- A sequence that is no character: where it starts, its first octet, and how long it is. -/
structure Problem where
  position : Nat
  octet : UInt8
  width : Nat
  fault : Fault
  deriving Repr

def Problem.message (p : Problem) : String :=
  let place :=
    if p.width ≤ 1 then
      "byte 0x" ++ String.ofList (Text.hexPadded 2 p.octet.toNat) ++
        " in position " ++ toString p.position
    else
      "bytes in position " ++ toString p.position ++ "-" ++ toString (p.position + p.width - 1)
  "'utf-8' codec can't decode " ++ place ++ ": " ++ p.fault.message

/-- Reads octets from `position` on. -/
def decodeFrom (position : Nat) : Bytes → Except Problem (List Char)
  | [] => .ok []
  | lead :: rest =>
      match head lead rest with
      | .broken fault width => .error ⟨position, lead, width, fault⟩
      | .char c width =>
          match decodeFrom (position + width) (rest.drop (width - 1)) with
          | .ok cs => .ok (c :: cs)
          | .error problem => .error problem
termination_by octets => octets.length
decreasing_by simp only [List.length_drop, List.length_cons]; omega

def decode (octets : Bytes) : Except Problem (List Char) :=
  decodeFrom 0 octets

/-- Reads octets with the replacement character in the place of each broken sequence. -/
def decodeReplacing : Bytes → List Char
  | [] => []
  | lead :: rest =>
      match head lead rest with
      | .broken _ width => '\uFFFD' :: decodeReplacing (rest.drop (width - 1))
      | .char c width => c :: decodeReplacing (rest.drop (width - 1))
termination_by octets => octets.length
decreasing_by all_goals (simp only [List.length_drop, List.length_cons]; omega)

end Utf8

end BucketRegion

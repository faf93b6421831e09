import Mathlib.Data.List.Forall2
import BucketRegion.Json.Reader
import BucketRegion.Proofs.Bytes.Utf8
import BucketRegion.Proofs.Decimal

/-!
# The grammar of JSON

Which texts denote a value: in a text, a character stands for itself unless it is a control
character, a quotation mark or a backslash, and every character can be escaped; a number has no
leading zero; between the parts there may be white space. Of fields with one name the last counts.
Numbers with a fraction or an exponent are left out. The reader finds the value of every text of
the grammar, so a text denotes at most one.
-/

set_option autoImplicit false

namespace BucketRegion.Json

/-- White space between the parts of a JSON text. -/
def IsBlank (cs : List Char) : Prop := ∀ c ∈ cs, isSpace c = true

/-- The characters that have an escape of two characters, after the second of these. -/
def marks : List (Char × Char) :=
  [('"', '"'), ('\\', '\\'), ('/', '/'), ('b', '\x08'), ('f', '\x0c'), ('n', '\n'), ('r', '\r'),
    ('t', '\t')]

/-- Four hexadecimal digits, and the number that they denote. -/
structure IsUnit (cs : List Char) (n : Nat) : Prop where
  length : cs.length = 4
  digits : ∀ c ∈ cs, (Text.hexValue? c).isSome = true
  value : Text.hexNumber cs = n

/-- How a character is spelled between quotation marks. -/
inductive SpellsChar : List Char → Char → Prop
  | plain {c : Char} (visible : 0x20 ≤ c.toNat) (unquoted : c ≠ '"') (unescaped : c ≠ '\\') :
      SpellsChar [c] c
  | marked {mark c : Char} (known : (mark, c) ∈ marks) : SpellsChar ['\\', mark] c
  | unit {unit : List Char} {c : Char} (number : IsUnit unit c.toNat) :
      SpellsChar ('\\' :: 'u' :: unit) c
  | pair {high low : List Char} {c : Char} (beyond : 0x10000 ≤ c.toNat)
      (first : IsUnit high (0xD800 + (c.toNat - 0x10000) / 0x400))
      (second : IsUnit low (0xDC00 + (c.toNat - 0x10000) % 0x400)) :
      SpellsChar ('\\' :: 'u' :: high ++ '\\' :: 'u' :: low) c

/-- How a text is spelled. -/
def SpellsText (cs : List Char) (s : String) : Prop :=
  ∃ pieces, List.Forall₂ SpellsChar pieces s.toList ∧ cs = '"' :: pieces.flatten ++ ['"']

/-- The digits of a number, without leading zeros. -/
structure IsNumeral (ds : List Char) : Prop where
  written : ds ≠ []
  digits : ∀ c ∈ ds, c.isDigit = true
  leading : ds.head? = some '0' → ds = ['0']

/-- How an integer is spelled. -/
inductive SpellsInt : List Char → Int → Prop
  | natural {ds : List Char} (numeral : IsNumeral ds) :
      SpellsInt ds (.ofNat (Decimal.valueOf ds))
  | negative {ds : List Char} (numeral : IsNumeral ds) :
      SpellsInt ('-' :: ds) (-.ofNat (Decimal.valueOf ds))

/-- How the parts of a list are spelled, with commas in between. -/
inductive Listed {α : Type} (Spells : List Char → α → Prop) : List Char → List α → Prop
  | one {before cs after : List Char} {a : α} (front : IsBlank before) (back : IsBlank after)
      (part : Spells cs a) : Listed Spells (before ++ cs ++ after) [a]
  | more {before cs after rest : List Char} {a : α} {others : List α} (front : IsBlank before)
      (back : IsBlank after) (part : Spells cs a) (parts : Listed Spells rest others) :
      Listed Spells (before ++ cs ++ after ++ ',' :: rest) (a :: others)

/-- How a field of a table is spelled. -/
inductive Field (Spells : List Char → Value → Prop) : List Char → String × Value → Prop
  | mk {key before after cs : List Char} {name : String} {value : Value}
      (named : SpellsText key name) (front : IsBlank before) (back : IsBlank after)
      (part : Spells cs value) :
      Field Spells (key ++ before ++ ':' :: after ++ cs) (name, value)

/-- The table with the given fields, each name in the place where it stands first. -/
def tableOf (fields : List (String × Value)) : Value :=
  .table (fields.foldl (fun all (name, value) => Fields.put name value all) [])

/-- The value that a text denotes. -/
inductive Denotes : List Char → Value → Prop
  | null : Denotes ['n', 'u', 'l', 'l'] .null
  | yes : Denotes ['t', 'r', 'u', 'e'] (.bool true)
  | no : Denotes ['f', 'a', 'l', 's', 'e'] (.bool false)
  | int {cs : List Char} {n : Int} (spelled : SpellsInt cs n) : Denotes cs (.int n)
  | text {cs : List Char} {s : String} (spelled : SpellsText cs s) : Denotes cs (.text s)
  | noItems {blank : List Char} (isBlank : IsBlank blank) :
      Denotes ('[' :: blank ++ [']']) (.list [])
  | list {cs : List Char} {items : List Value} (listed : Listed Denotes cs items) :
      Denotes ('[' :: cs ++ [']']) (.list items)
  | noFields {blank : List Char} (isBlank : IsBlank blank) :
      Denotes ('\x7b' :: blank ++ ['\x7d']) (.table [])
  | table {cs : List Char} {fields : List (String × Value)}
      (listed : Listed (Field Denotes) cs fields) :
      Denotes ('\x7b' :: cs ++ ['\x7d']) (tableOf fields)

/-- A whole JSON text: a value, perhaps with white space around it. -/
inductive IsTextOf : List Char → Value → Prop
  | mk {before cs after : List Char} {v : Value} (front : IsBlank before) (back : IsBlank after)
      (value : Denotes cs v) : IsTextOf (before ++ cs ++ after) v

/-! ## Reading a text -/

theorem skipSpace_append {blank : List Char} (isBlank : IsBlank blank) (rest : List Char) :
    skipSpace (blank ++ rest) = skipSpace rest :=
  List.dropWhile_append_of_pos isBlank

theorem skipSpace_cons {c : Char} (solid : isSpace c = false) (rest : List Char) :
    skipSpace (c :: rest) = c :: rest :=
  List.dropWhile_cons_of_neg (by simp [solid])

theorem readUnit?_append {unit : List Char} {n : Nat} (number : IsUnit unit n)
    (rest : List Char) : readUnit? (unit ++ rest) = some (n, rest) := by
  obtain ⟨length, digits, rfl⟩ := number
  match unit, length with
  | [a, b, c, d], _ =>
      have all : ([a, b, c, d].all fun x => (Text.hexValue? x).isSome) = true :=
        List.all_eq_true.mpr digits
      simp only [List.cons_append, List.nil_append, readUnit?, all, if_true]

theorem readEscapedUnit?_unit {unit : List Char} {c : Char} (number : IsUnit unit c.toNat)
    (rest : List Char) : readEscapedUnit? (unit ++ rest) = some (c, rest) := by
  have high : (decide (0xD800 ≤ c.toNat) && decide (c.toNat < 0xDC00)) = false := by
    have valid := Utf8.valid_toNat c
    simp only [Bool.and_eq_false_iff, decide_eq_false_iff_not]
    omega
  have low : (decide (0xDC00 ≤ c.toNat) && decide (c.toNat < 0xE000)) = false := by
    have valid := Utf8.valid_toNat c
    simp only [Bool.and_eq_false_iff, decide_eq_false_iff_not]
    omega
  rw [readEscapedUnit?, readUnit?_append number, Option.map_some]
  simp only [high, low, Bool.false_eq_true, if_false, Char.ofNat_toNat]

theorem readEscapedUnit?_pair {high low : List Char} {c : Char} (beyond : 0x10000 ≤ c.toNat)
    (first : IsUnit high (0xD800 + (c.toNat - 0x10000) / 0x400))
    (second : IsUnit low (0xDC00 + (c.toNat - 0x10000) % 0x400)) (rest : List Char) :
    readEscapedUnit? (high ++ '\\' :: 'u' :: low ++ rest) = some (c, rest) := by
  have valid := Utf8.valid_toNat c
  have isHigh : (decide (0xD800 ≤ 0xD800 + (c.toNat - 0x10000) / 0x400) &&
      decide (0xD800 + (c.toNat - 0x10000) / 0x400 < 0xDC00)) = true := by
    simp only [Bool.and_eq_true, decide_eq_true_eq]
    omega
  have isLow : (decide (0xDC00 ≤ 0xDC00 + (c.toNat - 0x10000) % 0x400) &&
      decide (0xDC00 + (c.toNat - 0x10000) % 0x400 < 0xE000)) = true := by
    simp only [Bool.and_eq_true, decide_eq_true_eq]
    omega
  have whole : 0x10000 + (0xD800 + (c.toNat - 0x10000) / 0x400 - 0xD800) * 0x400 +
      (0xDC00 + (c.toNat - 0x10000) % 0x400 - 0xDC00) = c.toNat := by
    omega
  rw [readEscapedUnit?, List.append_assoc, readUnit?_append first, Option.map_some]
  simp only [isHigh, if_true, List.cons_append, readUnit?_append second, isLow, whole,
    Char.ofNat_toNat]

theorem SpellsChar.length_pos {piece : List Char} {c : Char} (spelled : SpellsChar piece c) :
    0 < piece.length := by
  cases spelled <;> simp

theorem readChars?_spelled {piece : List Char} {c : Char} (spelled : SpellsChar piece c)
    (fuel : Nat) (rest : List Char) :
    readChars? (fuel + 1) (piece ++ rest) =
      (readChars? fuel rest).map fun (more, after) => (c :: more, after) := by
  cases spelled with
  | plain visible unquoted unescaped =>
      rw [List.singleton_append, readChars?]
      · exact fun same => absurd same unquoted
      · intro _ same
        exact absurd same unescaped
      · intro _ _ same
        exact absurd same unescaped
  | marked known =>
      simp only [marks, List.mem_cons, Prod.mk.injEq, List.not_mem_nil, or_false] at known
      rcases known with ⟨rfl, rfl⟩ | ⟨rfl, rfl⟩ | ⟨rfl, rfl⟩ | ⟨rfl, rfl⟩ | ⟨rfl, rfl⟩ | ⟨rfl, rfl⟩ |
        ⟨rfl, rfl⟩ | ⟨rfl, rfl⟩ <;> rfl
  | unit number =>
      rw [List.cons_append, List.cons_append, readChars?, readEscapedUnit?_unit number]
      rfl
  | pair beyond first second =>
      simp only [List.cons_append]
      rw [readChars?, readEscapedUnit?_pair beyond first second]
      rfl

theorem readChars?_flatten {pieces : List (List Char)} {cs : List Char}
    (spelled : List.Forall₂ SpellsChar pieces cs) {fuel : Nat}
    (enough : pieces.flatten.length < fuel) (rest : List Char) :
    readChars? fuel (pieces.flatten ++ '"' :: rest) = some (cs, rest) := by
  induction spelled generalizing fuel with
  | nil =>
      obtain ⟨fuel, rfl⟩ := Nat.exists_eq_succ_of_ne_zero (Nat.ne_of_gt enough)
      rfl
  | @cons piece c pieces cs first _ ih =>
      rw [List.flatten_cons, List.length_append] at enough
      obtain ⟨fuel, rfl⟩ : ∃ less, fuel = less + 1 := ⟨fuel - 1, by omega⟩
      have fewer := first.length_pos
      rw [List.flatten_cons, List.append_assoc, readChars?_spelled first, ih (by omega)]
      rfl

theorem readText?_spelled {cs : List Char} {s : String} (spelled : SpellsText cs s)
    (rest : List Char) :
    ∃ more, cs = '"' :: more ∧ readText? (more ++ rest) = some (s, rest) := by
  obtain ⟨pieces, parts, rfl⟩ := spelled
  refine ⟨pieces.flatten ++ ['"'], rfl, ?_⟩
  have enough : pieces.flatten.length < (pieces.flatten ++ '"' :: rest).length + 1 := by
    rw [List.length_append]
    omega
  rw [List.append_assoc, List.singleton_append, readText?, readChars?_flatten parts enough]
  simp

/-! ## Reading a number -/

/-- What follows a number does not go on with it. -/
def EndsNumber (rest : List Char) : Prop := ∀ c, rest.head? = some c → isNumberChar c = false

theorem isNumberChar_of_isDigit {c : Char} (decimal : c.isDigit = true) :
    isNumberChar c = true := by
  simp [isNumberChar, decimal]

theorem takeWhile_append_of_ends {cs rest : List Char}
    (belongs : ∀ c ∈ cs, isNumberChar c = true) (ends : EndsNumber rest) :
    (cs ++ rest).takeWhile isNumberChar = cs ∧ (cs ++ rest).dropWhile isNumberChar = rest := by
  rw [List.takeWhile_append_of_pos belongs, List.dropWhile_append_of_pos belongs]
  cases rest with
  | nil => simp
  | cons c rest => simp [ends c rfl]

namespace SpellsInt

variable {cs : List Char} {n : Int}

theorem belongs (spelled : SpellsInt cs n) : ∀ c ∈ cs, isNumberChar c = true := by
  cases spelled with
  | natural numeral => exact fun c member => isNumberChar_of_isDigit (numeral.digits c member)
  | negative numeral =>
      rintro c (_ | ⟨_, member⟩)
      · rfl
      · exact isNumberChar_of_isDigit (numeral.digits c member)

/-- The first character is a digit or a minus sign. -/
theorem starts (spelled : SpellsInt cs n) :
    ∃ c more, cs = c :: more ∧ (c.isDigit = true ∨ c = '-') := by
  cases spelled with
  | natural numeral =>
      obtain ⟨c, more, rfl⟩ := List.exists_cons_of_ne_nil numeral.written
      exact ⟨c, more, rfl, .inl (numeral.digits c List.mem_cons_self)⟩
  | negative numeral => exact ⟨'-', _, rfl, .inr rfl⟩

end SpellsInt

theorem splitSign_of_isDigit {c : Char} (decimal : c.isDigit = true) (more : List Char) :
    Decimal.splitSign (c :: more) = (false, c :: more) := by
  rw [Decimal.splitSign]
  · rintro _ ⟨rfl, -⟩
    exact absurd decimal (by decide)
  · rintro _ ⟨rfl, -⟩
    exact absurd decimal (by decide)

theorem readNumber?_spelled {cs : List Char} {n : Int} (spelled : SpellsInt cs n)
    {rest : List Char} (ends : EndsNumber rest) :
    readNumber? (cs ++ rest) = some (.int n, rest) := by
  obtain ⟨taken, left⟩ := takeWhile_append_of_ends spelled.belongs ends
  rw [readNumber?, taken, left]
  cases spelled with
  | natural numeral =>
      obtain ⟨c, more, rfl⟩ := List.exists_cons_of_ne_nil numeral.written
      have digits : (c :: more).all Char.isDigit = true := List.all_eq_true.mpr numeral.digits
      rw [splitSign_of_isDigit (numeral.digits c List.mem_cons_self)]
      simp only [List.isEmpty_cons, Bool.false_eq_true, if_false, digits, if_true]
      rfl
  | @negative ds numeral =>
      obtain ⟨c, more, rfl⟩ := List.exists_cons_of_ne_nil numeral.written
      have digits : (c :: more).all Char.isDigit = true := List.all_eq_true.mpr numeral.digits
      simp only [Decimal.splitSign, List.isEmpty_cons, Bool.false_eq_true, if_false, digits,
        if_true]
      rfl

/-! ## Reading a value -/

/-- What can follow a value: nothing, white space or a mark that ends it. -/
theorem endsNumber_append {blank rest : List Char} (isBlank : IsBlank blank)
    (ends : EndsNumber rest) : EndsNumber (blank ++ rest) := by
  cases blank with
  | nil => exact ends
  | cons c blank =>
      rintro _ ⟨rfl⟩
      have space := isBlank c List.mem_cons_self
      simp only [isSpace, Bool.or_eq_true, beq_iff_eq] at space
      rcases space with ((rfl | rfl) | rfl) | rfl <;> rfl

theorem endsNumber_cons {c : Char} (ends : isNumberChar c = false) (rest : List Char) :
    EndsNumber (c :: rest) := by
  rintro _ ⟨rfl⟩
  exact ends

theorem SpellsText.starts {cs : List Char} {s : String} (spelled : SpellsText cs s) :
    ∃ more, cs = '"' :: more := by
  obtain ⟨pieces, _, rfl⟩ := spelled
  exact ⟨_, rfl⟩

/-- The first character of a value ends no list, and no white space comes before it. -/
theorem Denotes.starts {cs : List Char} {v : Value} (denotes : Denotes cs v) :
    ∃ c more, cs = c :: more ∧ isSpace c = false ∧ c ≠ ']' := by
  cases denotes with
  | int spelled =>
      obtain ⟨c, more, rfl, decimal | rfl⟩ := spelled.starts
      · refine ⟨c, more, rfl, ?_, ?_⟩
        · rw [← Bool.not_eq_true]
          intro space
          simp only [isSpace, Bool.or_eq_true, beq_iff_eq] at space
          rcases space with ((rfl | rfl) | rfl) | rfl <;> exact absurd decimal (by decide)
        · rintro rfl
          exact absurd decimal (by decide)
      · exact ⟨'-', more, rfl, by decide, by decide⟩
  | text spelled =>
      obtain ⟨more, rfl⟩ := spelled.starts
      exact ⟨_, _, rfl, by decide, by decide⟩
  | _ => exact ⟨_, _, rfl, by decide, by decide⟩

theorem readValue?_int {cs : List Char} {n : Int} (spelled : SpellsInt cs n) (fuel : Nat)
    {rest : List Char} (ends : EndsNumber rest) :
    readValue? (fuel + 1) (cs ++ rest) = some (.int n, rest) := by
  rw [← readNumber?_spelled spelled ends]
  obtain ⟨c, more, rfl, first⟩ := spelled.starts
  have solid : skipSpace (c :: more ++ rest) = c :: more ++ rest := by
    obtain ⟨_, _, ⟨rfl, rfl⟩, solid, _⟩ := (Denotes.int spelled).starts
    exact skipSpace_cons solid _
  have other : ∀ mark : Char, mark.isDigit = false → mark ≠ '-' → c ≠ mark := by
    rintro mark letter apart rfl
    rcases first with decimal | minus
    · rw [letter] at decimal
      cases decimal
    · exact apart minus
  rw [readValue?, solid]
  split
  · next same => exact absurd (List.cons.inj same).1 (other 'n' (by decide) (by decide))
  · next same => exact absurd (List.cons.inj same).1 (other 't' (by decide) (by decide))
  · next same => exact absurd (List.cons.inj same).1 (other 'f' (by decide) (by decide))
  · next same => exact absurd (List.cons.inj same).1 (other '"' (by decide) (by decide))
  · next same => exact absurd (List.cons.inj same).1 (other '[' (by decide) (by decide))
  · next same => exact absurd (List.cons.inj same).1 (other '\x7b' (by decide) (by decide))
  · rfl

theorem readValue?_append {blank : List Char} (isBlank : IsBlank blank) (fuel : Nat)
    (cs : List Char) : readValue? fuel (blank ++ cs) = readValue? fuel cs := by
  cases fuel with
  | zero => rfl
  | succ fuel => rw [readValue?, readValue?, skipSpace_append isBlank]

/-- Parts that begin with neither white space nor a mark are not taken for that mark. -/
theorem Listed.starts {α : Type} {Spells : List Char → α → Prop} {mark : Char}
    (starts : ∀ {cs a}, Spells cs a → ∃ c more, cs = c :: more ∧ isSpace c = false ∧ c ≠ mark)
    {cs : List Char} {parts : List α} (listed : Listed Spells cs parts) (rest : List Char) :
    ∃ c more, skipSpace (cs ++ rest) = c :: more ∧ c ≠ mark := by
  cases listed with
  | @one before _ after a front back part =>
      obtain ⟨c, more, rfl, solid, apart⟩ := starts part
      refine ⟨c, more ++ (after ++ rest), ?_, apart⟩
      rw [List.append_assoc, List.append_assoc, skipSpace_append front, List.cons_append,
        skipSpace_cons solid]
  | @more before _ after others a _ front back part parts =>
      obtain ⟨c, more, rfl, solid, apart⟩ := starts part
      refine ⟨c, more ++ (after ++ (',' :: others ++ rest)), ?_, apart⟩
      rw [List.append_assoc, List.append_assoc, List.append_assoc, skipSpace_append front,
        List.cons_append, skipSpace_cons solid]

theorem Field.starts {Spells : List Char → Value → Prop} {cs : List Char}
    {field : String × Value} (spelled : Field Spells cs field) :
    ∃ c more, cs = c :: more ∧ isSpace c = false ∧ c ≠ '\x7d' := by
  cases spelled with
  | mk named front back part =>
      obtain ⟨more, rfl⟩ := named.starts
      exact ⟨_, _, rfl, by decide, by decide⟩

/-- What is read with some fuel: every value, list of items and list of fields that is short
enough. -/
structure Reads (fuel : Nat) : Prop where
  value : ∀ {cs v}, Denotes cs v → cs.length ≤ fuel → ∀ {rest}, EndsNumber rest →
    readValue? fuel (cs ++ rest) = some (v, rest)
  items : ∀ {cs items}, Listed Denotes cs items → cs.length < fuel → ∀ rest,
    readItems? fuel (cs ++ ']' :: rest) = some (items, rest)
  fields : ∀ {cs fields}, Listed (Field Denotes) cs fields → cs.length < fuel → ∀ rest,
    readFields? fuel (cs ++ '\x7d' :: rest) = some (fields, rest)

namespace Reads

variable {fuel : Nat} {cs rest : List Char}

theorem value_succ (reads : Reads fuel) {v : Value} (denotes : Denotes cs v)
    (enough : cs.length ≤ fuel + 1) (ends : EndsNumber rest) :
    readValue? (fuel + 1) (cs ++ rest) = some (v, rest) := by
  cases denotes with
  | null => rfl
  | yes => rfl
  | no => rfl
  | int spelled => exact readValue?_int spelled fuel ends
  | text spelled =>
      obtain ⟨more, rfl, read⟩ := readText?_spelled spelled rest
      rw [List.cons_append, readValue?, skipSpace_cons (by decide)]
      simp only [read, Option.map_some]
  | @noItems blank isBlank =>
      have closed : skipSpace (blank ++ ']' :: rest) = ']' :: rest := by
        rw [skipSpace_append isBlank, skipSpace_cons (by decide)]
      rw [List.cons_append, List.cons_append, List.append_assoc, List.singleton_append,
        readValue?, skipSpace_cons (by decide)]
      simp only [closed]
  | @list inner items listed =>
      simp only [List.cons_append, List.length_cons, List.length_append] at enough
      obtain ⟨c, more, open_, apart⟩ := listed.starts Denotes.starts (']' :: rest)
      rw [List.cons_append, List.cons_append, List.append_assoc, List.singleton_append,
        readValue?, skipSpace_cons (by decide)]
      simp only [open_]
      split
      · next same => exact absurd (List.cons.inj same).1 apart
      · rw [reads.items listed (by omega), Option.map_some]
  | @noFields blank isBlank =>
      have closed : skipSpace (blank ++ '\x7d' :: rest) = '\x7d' :: rest := by
        rw [skipSpace_append isBlank, skipSpace_cons (by decide)]
      rw [List.cons_append, List.cons_append, List.append_assoc, List.singleton_append,
        readValue?, skipSpace_cons (by decide)]
      simp only [closed]
  | @table inner fields listed =>
      simp only [List.cons_append, List.length_cons, List.length_append] at enough
      obtain ⟨c, more, open_, apart⟩ := listed.starts Field.starts ('\x7d' :: rest)
      rw [List.cons_append, List.cons_append, List.append_assoc, List.singleton_append,
        readValue?, skipSpace_cons (by decide)]
      simp only [open_]
      split
      · next same => exact absurd (List.cons.inj same).1 apart
      · rw [reads.fields listed (by omega), Option.map_some]
        rfl

theorem items_succ (reads : Reads fuel) {items : List Value} (listed : Listed Denotes cs items)
    (enough : cs.length < fuel + 1) (rest : List Char) :
    readItems? (fuel + 1) (cs ++ ']' :: rest) = some (items, rest) := by
  cases listed with
  | @one before cs after item front back part =>
      simp only [List.length_append] at enough
      have read := reads.value part (by omega)
        (endsNumber_append back (endsNumber_cons (c := ']') (by decide) rest))
      have closed : skipSpace (after ++ ']' :: rest) = ']' :: rest := by
        rw [skipSpace_append back, skipSpace_cons (by decide)]
      rw [List.append_assoc, List.append_assoc, readItems?, readValue?_append front, read,
        Option.bind_some]
      simp only [closed]
  | @more before cs after others item items front back part parts =>
      simp only [List.length_append, List.length_cons] at enough
      have read := reads.value part (by omega)
        (endsNumber_append back (endsNumber_cons (c := ',') (by decide) (others ++ ']' :: rest)))
      have next : skipSpace (after ++ ',' :: (others ++ ']' :: rest)) =
          ',' :: (others ++ ']' :: rest) := by
        rw [skipSpace_append back, skipSpace_cons (by decide)]
      rw [List.append_assoc, List.append_assoc, List.append_assoc, List.cons_append, readItems?,
        readValue?_append front, read, Option.bind_some]
      simp only [next, reads.items parts (by omega), Option.map_some]

/-- The stations at which a field is read: its name, the colon and its value. -/
theorem field (reads : Reads fuel) {name : String} {v : Value}
    (spelled : Field Denotes cs (name, v)) (enough : cs.length ≤ fuel) (ends : EndsNumber rest) :
    ∃ afterMark afterName afterColon, cs ++ rest = '"' :: afterMark ∧
      readText? afterMark = some (name, afterName) ∧
      skipSpace afterName = ':' :: afterColon ∧
      readValue? fuel afterColon = some (v, rest) := by
  cases spelled with
  | @mk key before after cs _ _ named front back part =>
      simp only [List.length_append, List.length_cons] at enough
      obtain ⟨more, rfl, read⟩ := readText?_spelled named (before ++ (':' :: (after ++ (cs ++ rest))))
      refine ⟨_, _, after ++ (cs ++ rest), ?_, read, ?_, ?_⟩
      · simp only [List.append_assoc, List.cons_append]
      · rw [skipSpace_append front, skipSpace_cons (by decide)]
      · rw [readValue?_append back, reads.value part (by omega) ends]

theorem fields_succ (reads : Reads fuel) {fields : List (String × Value)}
    (listed : Listed (Field Denotes) cs fields) (enough : cs.length < fuel + 1)
    (rest : List Char) :
    readFields? (fuel + 1) (cs ++ '\x7d' :: rest) = some (fields, rest) := by
  cases listed with
  | @one before cs after field front back part =>
      simp only [List.length_append] at enough
      obtain ⟨_, _, _, marked, named, colon, read⟩ := reads.field part (by omega)
        (endsNumber_append back (endsNumber_cons (c := '\x7d') (by decide) rest))
      have closed : skipSpace (after ++ '\x7d' :: rest) = '\x7d' :: rest := by
        rw [skipSpace_append back, skipSpace_cons (by decide)]
      rw [List.append_assoc, List.append_assoc, readFields?, skipSpace_append front, marked,
        skipSpace_cons (by decide)]
      simp only [named, Option.bind_some, colon, read, closed]
  | @more before cs after others field fields front back part parts =>
      simp only [List.length_append, List.length_cons] at enough
      obtain ⟨_, _, _, marked, named, colon, read⟩ := reads.field part (by omega)
        (endsNumber_append back
          (endsNumber_cons (c := ',') (by decide) (others ++ '\x7d' :: rest)))
      have next : skipSpace (after ++ ',' :: (others ++ '\x7d' :: rest)) =
          ',' :: (others ++ '\x7d' :: rest) := by
        rw [skipSpace_append back, skipSpace_cons (by decide)]
      rw [List.append_assoc, List.append_assoc, List.append_assoc, List.cons_append, readFields?,
        skipSpace_append front, marked, skipSpace_cons (by decide)]
      simp only [named, Option.bind_some, colon, read, next, reads.fields parts (by omega),
        Option.map_some]

/-- The three readers go on together: each takes one step and leaves the rest to less fuel. -/
theorem all (fuel : Nat) : Reads fuel := by
  induction fuel with
  | zero =>
      refine ⟨fun denotes enough => ?_, fun _ enough => ?_, fun _ enough => ?_⟩
      · obtain ⟨_, _, rfl, _⟩ := denotes.starts
        cases enough
      · cases enough
      · cases enough
  | succ fuel reads =>
      exact ⟨fun denotes enough _ ends => reads.value_succ denotes enough ends, reads.items_succ,
        reads.fields_succ⟩

end Reads

/-- The reader finds the value that a text denotes. -/
theorem IsTextOf.read {cs : List Char} {v : Value} (isText : IsTextOf cs v) :
    read? cs = some v := by
  cases isText with
  | @mk before cs after v front back value =>
      have nothing : EndsNumber [] := by rintro _ ⟨⟩
      have ends : EndsNumber after := by simpa using endsNumber_append back nothing
      have enough : cs.length ≤ (before ++ cs ++ after).length + 1 := by
        simp only [List.length_append]
        omega
      have blank : skipSpace after = [] := by
        simpa [skipSpace] using skipSpace_append back []
      rw [read?, List.append_assoc, readValue?_append front, ← List.append_assoc,
        (Reads.all _).value value enough ends]
      simp [blank]

/-- No text denotes two values. -/
theorem IsTextOf.unique {cs : List Char} {v w : Value} (one : IsTextOf cs v)
    (other : IsTextOf cs w) : v = w :=
  Option.some_inj.mp (one.read.symm.trans other.read)

end BucketRegion.Json

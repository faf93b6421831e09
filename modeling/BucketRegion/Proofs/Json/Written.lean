import Mathlib.Algebra.Ring.Nat
import BucketRegion.Json.Writer
import BucketRegion.Proofs.Json.Grammar
import BucketRegion.Proofs.LocationCache

/-!
# Written values

A value without dates, fractions and repeated names is written as text of the grammar that denotes
it, as a report and as a log line, so it is read back as it was.
-/

set_option autoImplicit false

namespace BucketRegion

namespace Text

theorem hexValue?_hexDigit {n : Nat} (small : n < 16) : hexValue? (hexDigit n) = some n := by
  have table : ∀ n < 16, hexValue? (hexDigit n) = some n := by decide
  exact table n small

theorem length_hexPadded (width n : Nat) : (hexPadded width n).length = width := by
  induction width generalizing n with
  | zero => rfl
  | succ width ih => rw [hexPadded, List.length_append, ih, List.length_singleton]

theorem isSome_hexValue?_of_mem {c : Char} {width n : Nat} (member : c ∈ hexPadded width n) :
    (hexValue? c).isSome = true := by
  induction width generalizing n with
  | zero => cases member
  | succ width ih =>
      rw [hexPadded, List.mem_append, List.mem_singleton] at member
      rcases member with before | rfl
      · exact ih before
      · rw [hexValue?_hexDigit (Nat.mod_lt _ (by decide))]
        rfl

theorem hexNumber_hexPadded {width n : Nat} (small : n < 16 ^ width) :
    hexNumber (hexPadded width n) = n := by
  induction width generalizing n with
  | zero => exact (Nat.lt_one_iff.mp small).symm
  | succ width ih =>
      rw [Nat.pow_succ] at small
      have before : hexNumber (hexPadded width (n / 16)) = n / 16 := ih (by omega)
      rw [hexNumber] at before
      rw [hexNumber, hexPadded, List.foldl_append, before, List.foldl_cons, List.foldl_nil,
        hexValue?_hexDigit (Nat.mod_lt _ (by decide))]
      exact Nat.div_add_mod n 16

end Text

namespace Fields

variable {α : Type}

theorem put_of_not_mem {key : String} {fields : List (String × α)} (new : key ∉ keys fields)
    (value : α) : put key value fields = fields ++ [(key, value)] := by
  induction fields with
  | nil => rfl
  | cons field fields ih =>
      obtain ⟨apart, later⟩ := List.ne_and_not_mem_of_not_mem_cons new
      have different : (field.1 == key) = false := by simpa using Ne.symm apart
      rw [put, different, if_neg (by decide), ih later, List.cons_append]

/-- Fields with different names are put together in their order. -/
theorem foldl_put {fields before : List (String × α)} (unique : (keys (before ++ fields)).Nodup) :
    fields.foldl (fun all (name, value) => put name value all) before = before ++ fields := by
  induction fields generalizing before with
  | nil => rw [List.foldl_nil, List.append_nil]
  | cons field fields ih =>
      obtain ⟨name, value⟩ := field
      have shifted : before ++ (name, value) :: fields = before ++ [(name, value)] ++ fields := by
        rw [List.append_assoc, List.singleton_append]
      have new : name ∉ keys before := by
        intro member
        rw [keys, List.map_append, List.map_cons] at unique
        exact (List.nodup_append.mp unique).2.2 _ member _ List.mem_cons_self rfl
      rw [List.foldl_cons]
      dsimp only
      rw [put_of_not_mem new, ih (shifted ▸ unique), ← shifted]

end Fields

namespace Decimal

/-- No number but zero is written with a leading zero. -/
theorem isNumeral_digits (n : Nat) : Json.IsNumeral (digits n) := by
  refine ⟨digits_ne_nil n, fun c => isDigit_of_mem_digits, ?_⟩
  induction n using Nat.strong_induction_on with
  | _ n ih =>
    intro zero
    unfold digits at zero ⊢
    split at zero
    · next small =>
        rw [if_pos small, Option.some_inj.mp zero]
    · next large =>
        rw [List.head?_append_of_ne_nil _ (digits_ne_nil _)] at zero
        have before := congrArg valueOf (ih (n / 10) (by omega) zero)
        rw [valueOf_digits, show valueOf ['0'] = 0 from rfl] at before
        omega

end Decimal

namespace Json

/-! ## Texts and numbers -/

theorem isUnit_hexPadded {n : Nat} (small : n < 0x10000) : IsUnit (Text.hexPadded 4 n) n :=
  ⟨Text.length_hexPadded 4 n, fun _ => Text.isSome_hexValue?_of_mem, Text.hexNumber_hexPadded small⟩

theorem spellsChar_writeChar (style : Style) (c : Char) : SpellsChar (writeChar style c) c := by
  have valid := Utf8.valid_toNat c
  unfold writeChar
  split
  · next same =>
      obtain rfl := beq_iff_eq.mp same
      exact .marked (by decide)
  split
  · next same =>
      obtain rfl := beq_iff_eq.mp same
      exact .marked (by decide)
  split
  · next same =>
      obtain rfl := beq_iff_eq.mp same
      exact .marked (by decide)
  split
  · next same =>
      obtain rfl := beq_iff_eq.mp same
      exact .marked (by decide)
  split
  · next same =>
      obtain rfl := beq_iff_eq.mp same
      exact .marked (by decide)
  split
  · next same =>
      obtain rfl := beq_iff_eq.mp same
      exact .marked (by decide)
  split
  · next same =>
      obtain rfl := beq_iff_eq.mp same
      exact .marked (by decide)
  split
  · next control => exact .unit (isUnit_hexPadded (by omega))
  split
  · split
    · next small => exact .unit (isUnit_hexPadded small)
    · next large =>
        exact .pair (Nat.le_of_not_lt large) (isUnit_hexPadded (by omega))
          (isUnit_hexPadded (by omega))
  · next unquoted unescaped _ _ _ _ _ visible _ =>
      exact .plain (Nat.le_of_not_lt visible) (by simpa using unquoted) (by simpa using unescaped)

theorem spellsText_writeText (style : Style) (s : String) : SpellsText (writeText style s) s := by
  refine ⟨s.toList.map (writeChar style), ?_, by rw [writeText, List.flatMap_def]⟩
  rw [List.forall₂_map_left_iff, List.forall₂_same]
  exact fun c _ => spellsChar_writeChar style c

theorem spellsInt_integerChars (n : Int) : SpellsInt (Decimal.integerChars n) n := by
  cases n with
  | ofNat n =>
      have spelled := SpellsInt.natural (Decimal.isNumeral_digits n)
      rwa [Decimal.valueOf_digits] at spelled
  | negSucc n =>
      have spelled := SpellsInt.negative (Decimal.isNumeral_digits (n + 1))
      rwa [Decimal.valueOf_digits] at spelled

/-! ## Lists and tables -/

theorem isBlank_nil : IsBlank [] := by
  rintro c ⟨⟩

theorem isBlank_space : IsBlank [' '] := by
  rintro c (_ | ⟨_, ⟨⟩⟩)
  rfl

theorem isBlank_lineBreak (style : Style) (level : Nat) : IsBlank (lineBreak style level) := by
  unfold lineBreak
  split
  · rintro c (_ | ⟨_, member⟩)
    · rfl
    · rw [List.eq_of_mem_replicate member]
      rfl
  · exact isBlank_nil

/-- A style whose items are separated by a comma, perhaps with white space after it. -/
def Style.Separates (style : Style) : Prop :=
  ∃ blank, IsBlank blank ∧ style.separator = ',' :: blank

theorem separates_report : Style.report.Separates :=
  ⟨[], isBlank_nil, rfl⟩

variable {style : Style}

/-- Items between brackets are listed. -/
theorem listed_bracketed (separates : style.Separates) {α : Type}
    {Spells : List Char → α → Prop} {texts : List (List Char)} {parts : List α} {text : List Char}
    {part : α} (first : Spells text part) (others : List.Forall₂ Spells texts parts) (level : Nat)
    (opening closing : Char) :
    ∃ inner, bracketed style level opening closing (text :: texts) =
        opening :: inner ++ [closing] ∧ Listed Spells inner (part :: parts) := by
  obtain ⟨blank, isBlank, separator⟩ := separates
  let more (texts : List (List Char)) : List Char :=
    texts.flatMap fun i => style.separator ++ lineBreak style (level + 1) ++ i
  refine ⟨lineBreak style (level + 1) ++ text ++ more texts ++ lineBreak style level, ?_, ?_⟩
  · simp only [bracketed, more, List.cons_append, List.append_assoc]
  -- The blanks in front of a part are those after the comma before it.
  suffices listed : ∀ before, IsBlank before →
      Listed Spells (before ++ text ++ more texts ++ lineBreak style level) (part :: parts) from
    listed _ (isBlank_lineBreak style (level + 1))
  induction others generalizing text part with
  | nil =>
      intro before front
      have empty : more [] = [] := rfl
      rw [empty, List.append_nil]
      exact .one front (isBlank_lineBreak style level) first
  | @cons next nextPart texts parts second _ ih =>
      intro before front
      have gap : IsBlank (blank ++ lineBreak style (level + 1)) := by
        intro c member
        rcases List.mem_append.mp member with early | late
        · exact isBlank c early
        · exact isBlank_lineBreak style (level + 1) c late
      have split : before ++ text ++ more (next :: texts) ++ lineBreak style level =
          before ++ text ++ [] ++ ',' :: (blank ++ lineBreak style (level + 1) ++ next ++
            more texts ++ lineBreak style level) := by
        simp only [more, List.flatMap_cons, separator, List.append_nil, List.cons_append,
          List.append_assoc]
      rw [split]
      exact .more front isBlank_nil first (ih second _ gap)

mutual

/-- A value without dates and fractions in whose tables every name stands once. -/
def IsPlain : Value → Prop
  | .null => True
  | .bool _ => True
  | .int _ => True
  | .text _ => True
  | .list items => ArePlain items
  | .table fields => (Fields.keys fields).Nodup ∧ ArePlainFields fields
  | _ => False

def ArePlain : List Value → Prop
  | [] => True
  | item :: items => IsPlain item ∧ ArePlain items

def ArePlainFields : List (String × Value) → Prop
  | [] => True
  | (_, value) :: fields => IsPlain value ∧ ArePlainFields fields

end

theorem Field.spaced {Spells : List Char → Value → Prop} {key cs : List Char} {name : String}
    {value : Value} (named : SpellsText key name) (part : Spells cs value) :
    Field Spells (key ++ ':' :: ' ' :: cs) (name, value) := by
  simpa using Field.mk named isBlank_nil isBlank_space part

theorem tableOf_of_nodup {fields : List (String × Value)} (unique : (Fields.keys fields).Nodup) :
    tableOf fields = .table fields := by
  exact congrArg Value.table (Fields.foldl_put unique)

mutual

theorem denotes_writeAt (separates : style.Separates) (level : Nat) :
    ∀ {v : Value}, IsPlain v → Denotes (writeAt style level v) v
  | .null, _ => .null
  | .bool true, _ => .yes
  | .bool false, _ => .no
  | .int n, _ => .int (spellsInt_integerChars n)
  | .text s, _ => .text (spellsText_writeText style s)
  | .list [], _ => .noItems isBlank_nil
  | .list (item :: items), plain => by
      cases forall₂_writeItems separates (level + 1) plain with
      | cons first others =>
          obtain ⟨inner, shown, listed⟩ := listed_bracketed separates first others level '[' ']'
          rw [writeAt, writeItems, shown]
          exact .list listed
  | .table [], _ => .noFields isBlank_nil
  | .table ((name, value) :: fields), ⟨unique, plain⟩ => by
      cases forall₂_writeFields separates (level + 1) plain with
      | cons first others =>
          obtain ⟨inner, shown, listed⟩ :=
            listed_bracketed separates first others level '\x7b' '\x7d'
          rw [writeAt, writeFields, shown, ← tableOf_of_nodup unique]
          exact .table listed

theorem forall₂_writeItems (separates : style.Separates) (level : Nat) :
    ∀ {items : List Value}, ArePlain items →
      List.Forall₂ Denotes (writeItems style level items) items
  | [], _ => .nil
  | _ :: _, ⟨first, others⟩ =>
      .cons (denotes_writeAt separates level first) (forall₂_writeItems separates level others)

theorem forall₂_writeFields (separates : style.Separates) (level : Nat) :
    ∀ {fields : List (String × Value)}, ArePlainFields fields →
      List.Forall₂ (Field Denotes) (writeFields style level fields) fields
  | [], _ => .nil
  | (name, _) :: _, ⟨first, others⟩ =>
      .cons (.spaced (spellsText_writeText style name) (denotes_writeAt separates level first))
        (forall₂_writeFields separates level others)

end

end Json

end BucketRegion

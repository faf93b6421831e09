import BucketRegion.Proofs.Bytes.Utf8
import BucketRegion.Xml.Document

/-!
# Text as cells

The octets of a text of characters that documents can hold are read as one cell for each character,
if no line end is written with a return.
-/

set_option autoImplicit false

namespace BucketRegion.Xml

/-- A character as a cell. -/
def cellOf (offset : Nat) (c : Char) : Cell :=
  ⟨offset, (Utf8.encodeChar c).length, .char c (NameRole.ofChar c)⟩

/-- Text as cells, one for each character; the first one starts at `offset`. -/
def spell (offset : Nat) : List Char → List Cell
  | [] => []
  | c :: cs => cellOf offset c :: spell (offset + (Utf8.encodeChar c).length) cs

/-- How many octets a text has. -/
def octetCount (cs : List Char) : Nat := (Utf8.encodeChars cs).length

section

variable {offset : Nat} {c : Char} {cs ds : List Char}

theorem octetCount_cons (c : Char) (cs : List Char) :
    octetCount (c :: cs) = (Utf8.encodeChar c).length + octetCount cs := by
  rw [octetCount, Utf8.encodeChars, List.flatMap_cons, List.length_append]
  rfl

theorem octetCount_of_single (single : (Utf8.encodeChar c).length = 1) (cs : List Char) :
    octetCount (c :: cs) = 1 + octetCount cs := by
  rw [octetCount_cons, single]

theorem octetCount_append (cs ds : List Char) :
    octetCount (cs ++ ds) = octetCount cs + octetCount ds := by
  rw [octetCount, Utf8.encodeChars, List.flatMap_append, List.length_append]
  rfl

/-- A character of a single octet is followed by the next place. -/
theorem spell_of_single (single : (Utf8.encodeChar c).length = 1) (offset : Nat) (cs : List Char) :
    spell offset (c :: cs) = cellOf offset c :: spell (offset + 1) cs := by
  rw [spell, single]

@[simp] theorem length_spell (offset : Nat) (cs : List Char) :
    (spell offset cs).length = cs.length := by
  induction cs generalizing offset with
  | nil => rfl
  | cons c cs ih => rw [spell, List.length_cons, ih, List.length_cons]

@[simp] theorem charsOf_spell (offset : Nat) (cs : List Char) : charsOf (spell offset cs) = cs := by
  induction cs generalizing offset with
  | nil => rfl
  | cons c cs ih => exact congrArg (c :: ·) (ih _)

theorem length_le_octetCount (cs : List Char) : cs.length ≤ octetCount cs := by
  induction cs with
  | nil => exact Nat.le_refl 0
  | cons c cs ih =>
      obtain ⟨lead, more, octets, _⟩ := Utf8.exists_encodeChar c
      rw [octetCount_cons, octets, List.length_cons, List.length_cons]
      omega

/-- A test of cells that looks at their characters only goes as far in the cells as in the text. -/
theorem while_spell {p : Cell → Bool} {q : Char → Bool} (same : ∀ o c, p (cellOf o c) = q c)
    (offset : Nat) (cs : List Char) :
    (spell offset cs).takeWhile p = spell offset (cs.takeWhile q) ∧
      (spell offset cs).dropWhile p =
        spell (offset + octetCount (cs.takeWhile q)) (cs.dropWhile q) := by
  induction cs generalizing offset with
  | nil => exact ⟨rfl, rfl⟩
  | cons c cs ih =>
      rw [spell, List.takeWhile_cons, List.dropWhile_cons, List.takeWhile_cons,
        List.dropWhile_cons, same]
      cases q c with
      | true =>
          obtain ⟨front, back⟩ := ih (offset + (Utf8.encodeChar c).length)
          simp only [if_true, front, back, spell, octetCount_cons, Nat.add_assoc, true_and]
      | false => exact ⟨rfl, rfl⟩

/-- The run of characters up to one that ends it. -/
theorem while_append {q : Char → Bool} {run rest : List Char} (all : ∀ c ∈ run, q c = true)
    (ends : ∀ c ∈ rest.head?, q c = false) :
    (run ++ rest).takeWhile q = run ∧ (run ++ rest).dropWhile q = rest := by
  have none : rest.takeWhile q = [] ∧ rest.dropWhile q = rest := by
    cases rest with
    | nil => exact ⟨rfl, rfl⟩
    | cons c rest =>
        have stop := ends c rfl
        exact ⟨List.takeWhile_cons_of_neg (by simp [stop]),
          List.dropWhile_cons_of_neg (by simp [stop])⟩
  rw [List.takeWhile_append_of_pos all, List.dropWhile_append_of_pos all, none.1, none.2,
    List.append_nil]
  exact ⟨rfl, rfl⟩

theorem while_spell_append {p : Cell → Bool} {q : Char → Bool}
    (same : ∀ o c, p (cellOf o c) = q c) {run rest : List Char} (all : ∀ c ∈ run, q c = true)
    (ends : ∀ c ∈ rest.head?, q c = false) (offset : Nat) :
    (spell offset (run ++ rest)).takeWhile p = spell offset run ∧
      (spell offset (run ++ rest)).dropWhile p = spell (offset + octetCount run) rest := by
  obtain ⟨front, back⟩ := while_spell same offset (run ++ rest)
  obtain ⟨chars, later⟩ := while_append all ends
  rw [front, back, chars, later]
  exact ⟨rfl, rfl⟩

/-! ## Octets of a text -/

theorem announced?_of_head {lead : UInt8} {rest : Bytes} {width : Nat}
    (starts : Utf8.head lead rest = .char c width) : Encoding.announced? lead = some width := by
  have leading : lead < 0xC0 → lead < 0xC2 := fun less => UInt8.lt_trans less (by decide)
  unfold Utf8.head at starts
  unfold Encoding.announced?
  grind

theorem headUtf8_encodeChar {lead : UInt8} {more rest : Bytes}
    (starts : Utf8.head lead (more ++ rest) = .char c (more.length + 1))
    (allowed : isAllowed c.toNat = true) :
    Encoding.headUtf8 lead (more ++ rest) =
      (.char c (NameRole.ofChar c), more.length + 1) := by
  have held : ¬ ((more ++ rest).take (more.length + 1 - 1)).length + 1 < more.length + 1 := by
    rw [Nat.add_sub_cancel, List.take_left]
    exact Nat.lt_irrefl _
  unfold Encoding.headUtf8
  rw [announced?_of_head starts, starts]
  dsimp only
  rw [if_neg held, if_pos allowed]

theorem cellsUtf8_encodeChars (allowed : ∀ c ∈ cs, isAllowed c.toNat = true) (offset : Nat) :
    Encoding.cellsUtf8 offset (Utf8.encodeChars cs) = spell offset cs := by
  induction cs generalizing offset with
  | nil =>
      rw [Utf8.encodeChars, List.flatMap_nil, Encoding.cellsUtf8]
      rfl
  | cons c cs ih =>
      obtain ⟨lead, more, octets, starts⟩ := Utf8.exists_encodeChar c
      have head := headUtf8_encodeChar (starts (Utf8.encodeChars cs))
        (allowed c List.mem_cons_self)
      have rest : (more ++ Utf8.encodeChars cs).drop (more.length + 1 - 1) =
          Utf8.encodeChars cs := by
        rw [Nat.add_sub_cancel, List.drop_left]
      rw [Utf8.encodeChars, List.flatMap_cons, octets, List.cons_append, ← Utf8.encodeChars,
        Encoding.cellsUtf8, head]
      dsimp only
      rw [rest, ih fun d member => allowed d (List.mem_cons_of_mem c member), spell, cellOf, octets,
        List.length_cons]

theorem joinLines_spell (unreturned : '\r' ∉ cs) (offset : Nat) :
    Encoding.joinLines (spell offset cs) = spell offset cs := by
  induction cs generalizing offset with
  | nil => rfl
  | cons c cs ih =>
      obtain ⟨other, later⟩ := not_or.mp fun among => unreturned (List.mem_cons.mpr among)
      rw [spell, Encoding.joinLines, ih later]
      intro offset width role next rest same
      cases same
      exact absurd rfl other

/-- The cells of a text's octets. -/
theorem cells_encodeChars (allowed : ∀ c ∈ cs, isAllowed c.toNat = true) (unreturned : '\r' ∉ cs)
    (offset : Nat) : Encoding.utf8.cells offset (Utf8.encodeChars cs) = spell offset cs := by
  rw [Encoding.cells, cellsUtf8_encodeChars allowed, joinLines_spell unreturned]

end

end BucketRegion.Xml

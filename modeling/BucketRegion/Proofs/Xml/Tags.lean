import BucketRegion.Proofs.Text.Split
import BucketRegion.Proofs.Xml.Spelling
import Mathlib.Data.List.Forall2

/-!
# Names and tags

Names, attributes, tags and comments are scanned from their text: what is found is what was written.
-/

set_option autoImplicit false

namespace BucketRegion.Xml

variable {offset : Nat} {c : Char} {rest : List Char}

/-! ## Names -/

def startsName (c : Char) : Bool :=
  match NameRole.ofChar c with
  | .letter => true
  | .start => true
  | _ => false

def continuesName (c : Char) : Bool :=
  match NameRole.ofChar c with
  | .none => false
  | _ => true

theorem isNameStart_cellOf (offset : Nat) (c : Char) :
    (cellOf offset c).isNameStart = startsName c := by
  simp only [Cell.isNameStart, cellOf, startsName]
  cases NameRole.ofChar c <;> rfl

theorem isNameChar_cellOf (offset : Nat) (c : Char) :
    (cellOf offset c).isNameChar = continuesName c := by
  simp only [Cell.isNameChar, cellOf, continuesName]
  cases NameRole.ofChar c <;> rfl

theorem isBlank_cellOf (offset : Nat) (c : Char) : (cellOf offset c).isBlank = isBlank c := rfl

theorem is_cellOf (offset : Nat) (c d : Char) : (cellOf offset c).is d = (c == d) := rfl

theorem continuesName_of_startsName (starts : startsName c = true) : continuesName c = true := by
  unfold startsName at starts
  unfold continuesName
  cases role : NameRole.ofChar c <;> simp_all

/-- A name without a colon. -/
def isName : List Char → Bool
  | [] => false
  | c :: cs => startsName c && cs.all continuesName

/-- A name, or two names joined by a colon. -/
def isQualified (name : List Char) : Bool :=
  match Text.cut? ':' name with
  | some (label, part) => isName label && isName part
  | none => isName name

theorem exists_of_isName {name : List Char} (named : isName name = true) :
    ∃ c cs, name = c :: cs ∧ startsName c = true ∧ ∀ d ∈ cs, continuesName d = true := by
  cases name with
  | nil => cases named
  | cons c cs =>
      rw [isName, Bool.and_eq_true, List.all_eq_true] at named
      exact ⟨c, cs, rfl, named⟩

theorem continuesName_of_isName {name : List Char} (named : isName name = true) :
    ∀ c ∈ name, continuesName c = true := by
  obtain ⟨first, cs, rfl, starts, continues⟩ := exists_of_isName named
  exact List.forall_mem_cons.mpr ⟨continuesName_of_startsName starts, continues⟩

theorem scanName_spell {name : List Char} (named : isName name = true)
    (ends : ∀ c ∈ rest.head?, continuesName c = false) :
    scanName (spell offset (name ++ rest)) =
      .ok (name, spell (offset + octetCount name) rest) := by
  obtain ⟨first, cs, rfl, starts, continues⟩ := exists_of_isName named
  obtain ⟨front, back⟩ := while_spell_append isNameChar_cellOf continues ends
    (offset + (Utf8.encodeChar first).length)
  rw [List.cons_append, spell, scanName, if_pos (by rw [isNameStart_cellOf, starts]), front, back,
    octetCount_cons, Nat.add_assoc]
  have chars := charsOf_spell offset (first :: cs)
  rw [spell] at chars
  rw [chars]

theorem scanQualified_spell {name : List Char} (qualified : isQualified name = true)
    (ends : ∀ c ∈ rest.head?, continuesName c = false ∧ c ≠ ':') :
    scanQualified (spell offset (name ++ rest)) =
      .ok (name, spell (offset + octetCount name) rest) := by
  have ended : ∀ c ∈ rest.head?, continuesName c = false := fun c first => (ends c first).1
  unfold isQualified at qualified
  split at qualified
  · next label part cut =>
      rw [Bool.and_eq_true] at qualified
      obtain ⟨rfl, _⟩ := Text.cut?_eq_some cut
      have colon : ∀ c ∈ (':' :: (part ++ rest)).head?, continuesName c = false := by
        intro c first
        cases first
        decide
      have mark : (cellOf (offset + octetCount label) ':').is ':' = true := is_cellOf _ _ _
      rw [List.append_assoc, List.cons_append, scanQualified, scanName_spell qualified.1 colon]
      simp only [spell, mark, if_true, scanName_spell qualified.2 ended, Except.map,
        octetCount_append, octetCount_cons, Nat.add_assoc]
  · next uncut =>
      rw [scanQualified, scanName_spell qualified ended]
      cases rest with
      | nil => rfl
      | cons c rest =>
          have other : (c == ':') = false := by simpa using (ends c rfl).2
          simp only [spell, is_cellOf, other, Bool.false_eq_true, if_false]

/-- A character that starts a name is no mark of markup. -/
theorem of_startsName (starts : startsName c = true) :
    isBlank c = false ∧ c ≠ '>' ∧ c ≠ '/' ∧ c ≠ '!' ∧ c ≠ '?' := by
  have unlike (d : Char) (other : startsName d = false) : c ≠ d := by
    rintro rfl
    rw [starts] at other
    cases other
  refine ⟨?_, unlike '>' (by decide), unlike '/' (by decide), unlike '!' (by decide),
    unlike '?' (by decide)⟩
  simp only [isBlank, Bool.or_eq_false_iff, beq_eq_false_iff_ne]
  exact ⟨⟨⟨unlike ' ' (by decide), unlike '\t' (by decide)⟩, unlike '\n' (by decide)⟩,
    unlike '\r' (by decide)⟩

theorem exists_of_isQualified {name : List Char} (qualified : isQualified name = true) :
    ∃ c cs, name = c :: cs ∧ startsName c = true := by
  unfold isQualified at qualified
  split at qualified
  · next label part cut =>
      rw [Bool.and_eq_true] at qualified
      obtain ⟨rfl, _⟩ := Text.cut?_eq_some cut
      obtain ⟨c, cs, rfl, starts, _⟩ := exists_of_isName qualified.1
      exact ⟨c, cs ++ ':' :: part, rfl, starts⟩
  · obtain ⟨c, cs, rfl, starts, _⟩ := exists_of_isName qualified
    exact ⟨c, cs, rfl, starts⟩

/-! ## Attributes -/

/-- An attribute as a tag shows it: a name and a value in double quotes. -/
def writeAttribute (name value : List Char) : List Char :=
  ' ' :: name ++ '=' :: '"' :: value ++ ['"']

/-- A value that can stand in double quotes as it is. -/
def isPlainValue (value : List Char) : Bool :=
  value.all fun c => c != '"' && c != '<' && c != '&'

theorem countBefore_spell {run : List Char} (absent : c ∉ run) (offset : Nat) :
    countBefore c (spell offset (run ++ c :: rest)) = run.length := by
  have all : ∀ d ∈ run, (!(d == c)) = true := by
    intro d member
    simpa using fun same : d = c => absent (same ▸ member)
  have ends : ∀ d ∈ (c :: rest).head?, (!(d == c)) = false := by
    intro d first
    cases first
    simp
  rw [countBefore, (while_spell_append (fun o d => by rw [is_cellOf]) all ends offset).1,
    length_spell]

theorem scanAttributeValue_spell {value : List Char} (plain : isPlainValue value = true)
    {fuel : Nat} (enough : value.length < fuel) (offset : Nat) :
    scanAttributeValue '"' fuel (spell offset (value ++ '"' :: rest)) =
      .ok (spell offset value, spell (offset + octetCount (value ++ ['"'])) rest) := by
  induction value generalizing fuel offset with
  | nil =>
      cases fuel with
      | zero => cases enough
      | succ fuel => rfl
  | cons c value ih =>
      rw [isPlainValue, List.all_cons, Bool.and_eq_true, ← isPlainValue] at plain
      obtain ⟨here, later⟩ := plain
      simp only [Bool.and_eq_true, bne_iff_ne, ne_eq] at here
      obtain ⟨⟨quote, opening⟩, reference⟩ := here
      cases fuel with
      | zero => cases enough
      | succ fuel =>
          have step := ih later (Nat.lt_of_succ_lt_succ enough)
            (offset + (Utf8.encodeChar c).length)
          simp only [List.cons_append, spell, scanAttributeValue, cellOf, beq_iff_eq, quote,
            opening, reference, if_false, step, Except.map, octetCount_cons, Nat.add_assoc]

theorem quote_not_mem_of_isPlainValue {value : List Char} (plain : isPlainValue value = true) :
    '"' ∉ value := by
  intro member
  exact absurd (List.all_eq_true.mp plain '"' member) (by decide)

/-- An attribute that is found: its name is the written one, and its value is spelled somewhere. -/
def Holds (pair : List Char × List Char) (found : Attribute) : Prop :=
  found.name = pair.1 ∧ ∃ start, found.value = spell start pair.2

theorem scanAttribute_spell {name value : List Char} (named : isQualified name = true)
    (plain : isPlainValue value = true) (offset : Nat) (rest : List Char) :
    ∃ found, Holds (name, value) found ∧
      scanAttribute (spell offset (name ++ '=' :: '"' :: value ++ '"' :: rest)) =
        .ok (found,
          spell (offset + octetCount (name ++ '=' :: '"' :: value ++ ['"'])) rest) := by
  have ends : ∀ c ∈ ('=' :: '"' :: (value ++ '"' :: rest)).head?,
      continuesName c = false ∧ c ≠ ':' := by
    intro c first
    cases first
    decide
  have inside (o : Nat) : scanAttributeValue '"'
      (countBefore '"' (spell o (value ++ '"' :: rest)) + 1) (spell o (value ++ '"' :: rest)) =
        .ok (spell o value, spell (o + octetCount (value ++ ['"'])) rest) := by
    rw [countBefore_spell (quote_not_mem_of_isPlainValue plain)]
    exact scanAttributeValue_spell plain (Nat.lt_succ_self value.length) o
  have consumed : offset + octetCount (name ++ '=' :: '"' :: value ++ ['"']) =
      offset + octetCount name + 1 + 1 + octetCount (value ++ ['"']) := by
    rw [List.append_assoc, octetCount_append, List.cons_append, List.cons_append,
      octetCount_of_single (by decide), octetCount_of_single (by decide)]
    omega
  unfold scanAttribute
  rw [List.append_assoc, List.cons_append, List.cons_append, scanQualified_spell named ends,
    consumed]
  refine ⟨?found, ?holds, ?scan⟩
  case scan =>
    exact congrArg (Except.map _) (inside _)
  case holds => exact ⟨rfl, _, rfl⟩

/-- The attributes of a tag, as it shows them. -/
def writeAttributes (pairs : List (List Char × List Char)) : List Char :=
  pairs.flatMap fun pair => writeAttribute pair.1 pair.2

def isWritable (pair : List Char × List Char) : Bool := isQualified pair.1 && isPlainValue pair.2

theorem writeAttributes_cons (name value : List Char) (pairs : List (List Char × List Char)) :
    writeAttributes ((name, value) :: pairs) =
      ' ' :: (name ++ '=' :: '"' :: value ++ '"' :: writeAttributes pairs) := by
  simp [writeAttributes, writeAttribute]

/-- A name goes on neither with blanks nor with the end of a tag. -/
theorem exists_spell_of_isQualified {name : List Char} (named : isQualified name = true)
    (offset : Nat) (rest : List Char) :
    ∃ cell cells, spell offset (name ++ rest) = cell :: cells ∧
      skipBlanks (cell :: cells) = cell :: cells ∧ cell.is '>' = false ∧ cell.is '/' = false := by
  obtain ⟨c, cs, rfl, starts⟩ := exists_of_isQualified named
  obtain ⟨blank, close, slash, _⟩ := of_startsName starts
  refine ⟨_, _, rfl, List.dropWhile_cons_of_neg ?_, ?_, ?_⟩
  · simp [isBlank_cellOf, blank]
  · simpa [is_cellOf] using close
  · simpa [is_cellOf] using slash

theorem octetCount_writeAttributes_cons (name value rest : List Char)
    (pairs : List (List Char × List Char)) :
    octetCount (writeAttributes ((name, value) :: pairs) ++ rest) =
      1 + octetCount (name ++ '=' :: '"' :: value ++ ['"']) +
        octetCount (writeAttributes pairs ++ rest) := by
  have parts : writeAttributes ((name, value) :: pairs) ++ rest =
      ' ' :: ((name ++ '=' :: '"' :: value ++ ['"']) ++ (writeAttributes pairs ++ rest)) := by
    simp [writeAttributes_cons]
  rw [parts, octetCount_of_single (by decide), octetCount_append, Nat.add_assoc]

theorem scanAttributes_spell {pairs : List (List Char × List Char)}
    (writable : ∀ pair ∈ pairs, isWritable pair = true) {fuel : Nat} (enough : pairs.length < fuel)
    (offset : Nat) (rest : List Char) :
    ∃ found, List.Forall₂ Holds pairs found ∧
      scanAttributes fuel (spell offset (writeAttributes pairs ++ '>' :: rest)) =
        .ok ((found, false),
          spell (offset + octetCount (writeAttributes pairs ++ ['>'])) rest) := by
  induction pairs generalizing fuel offset with
  | nil =>
      cases fuel with
      | zero => cases enough
      | succ fuel => exact ⟨[], .nil, rfl⟩
  | cons pair pairs ih =>
      obtain ⟨name, value⟩ := pair
      obtain ⟨here, later⟩ := List.forall_mem_cons.mp writable
      rw [isWritable, Bool.and_eq_true] at here
      obtain ⟨named, plain⟩ := here
      cases fuel with
      | zero => cases enough
      | succ fuel =>
          obtain ⟨found, holds, scanned⟩ := scanAttribute_spell named plain (offset + 1)
            (writeAttributes pairs ++ '>' :: rest)
          obtain ⟨others, hold, scannedLater⟩ := ih later (Nat.lt_of_succ_lt_succ enough)
            (offset + 1 + octetCount (name ++ '=' :: '"' :: value ++ ['"']))
          refine ⟨found :: others, .cons holds hold, ?_⟩
          obtain ⟨cell, cells, spelled, skipped, close, slash⟩ :=
            exists_spell_of_isQualified named (offset + 1)
              ('=' :: '"' :: value ++ '"' :: (writeAttributes pairs ++ '>' :: rest))
          rw [← List.append_assoc] at spelled
          have text : writeAttributes ((name, value) :: pairs) ++ '>' :: rest =
              ' ' :: (name ++ '=' :: '"' :: value ++
                '"' :: (writeAttributes pairs ++ '>' :: rest)) := by
            simp [writeAttributes_cons]
          rw [spelled] at scanned
          rw [text, octetCount_writeAttributes_cons, ← Nat.add_assoc, ← Nat.add_assoc,
            spell_of_single (by decide), spelled, scanAttributes, is_cellOf, is_cellOf,
            isBlank_cellOf]
          simp only [skipped, close, slash, scanned, scannedLater]
          rfl

/-! ## Tags -/

/-- The tag that opens an element, with its attributes. -/
def writeStart (tag : List Char) (pairs : List (List Char × List Char)) : List Char :=
  '<' :: tag ++ writeAttributes pairs ++ ['>']

def writeEnd (tag : List Char) : List Char := '<' :: '/' :: tag ++ ['>']

theorem writeStart_append (tag : List Char) (pairs : List (List Char × List Char))
    (rest : List Char) :
    writeStart tag pairs ++ rest = '<' :: (tag ++ writeAttributes pairs ++ '>' :: rest) := by
  simp [writeStart]

theorem writeEnd_append (tag rest : List Char) :
    writeEnd tag ++ rest = '<' :: ('/' :: tag ++ '>' :: rest) := by
  simp [writeEnd]

theorem partOfName_of_isQualified {name : List Char} (qualified : isQualified name = true) :
    ∀ c ∈ name, (continuesName c || c == ':') = true := by
  intro c member
  unfold isQualified at qualified
  split at qualified
  · next label part cut =>
      rw [Bool.and_eq_true] at qualified
      obtain ⟨rfl, _⟩ := Text.cut?_eq_some cut
      rcases List.mem_append.mp member with front | back
      · rw [continuesName_of_isName qualified.1 c front, Bool.true_or]
      · rcases List.mem_cons.mp back with rfl | later
        · rfl
        · rw [continuesName_of_isName qualified.2 c later, Bool.true_or]
  · rw [continuesName_of_isName qualified c member, Bool.true_or]

theorem opening_not_mem_writeAttributes {pairs : List (List Char × List Char)}
    (writable : ∀ pair ∈ pairs, isWritable pair = true) : '<' ∉ writeAttributes pairs := by
  induction pairs with
  | nil => exact List.not_mem_nil
  | cons pair pairs ih =>
      obtain ⟨name, value⟩ := pair
      obtain ⟨here, later⟩ := List.forall_mem_cons.mp writable
      rw [isWritable, Bool.and_eq_true] at here
      have named : '<' ∉ name := fun member =>
        absurd (partOfName_of_isQualified here.1 '<' member) (by decide)
      have plain : '<' ∉ value := fun member =>
        absurd (List.all_eq_true.mp here.2 '<' member) (by decide)
      rw [writeAttributes_cons]
      simp [named, plain, ih later]

theorem length_le_writeAttributes (pairs : List (List Char × List Char)) :
    pairs.length ≤ (writeAttributes pairs).length := by
  induction pairs with
  | nil => exact Nat.le_refl 0
  | cons pair pairs ih =>
      obtain ⟨name, value⟩ := pair
      rw [writeAttributes_cons]
      simp only [List.length_cons, List.length_append]
      omega

theorem length_value_le {pairs : List (List Char × List Char)} {pair : List Char × List Char}
    (member : pair ∈ pairs) : pair.2.length ≤ (writeAttributes pairs).length := by
  obtain ⟨front, back, rfl⟩ := List.append_of_mem member
  simp only [writeAttributes, writeAttribute, List.flatMap_append, List.flatMap_cons,
    List.length_append, List.length_cons]
  omega

theorem le_countBefore_spell {run : List Char} (absent : c ∉ run) (offset : Nat) :
    run.length ≤ countBefore c (spell offset (run ++ rest)) := by
  have all : ∀ d ∈ run, (!(d == c)) = true := by
    intro d member
    simpa using fun same : d = c => absent (same ▸ member)
  rw [countBefore, (while_spell (fun o d => by rw [is_cellOf]) offset (run ++ rest)).1,
    length_spell, List.takeWhile_append_of_pos all, List.length_append]
  exact Nat.le_add_right _ _

theorem scanStartTag_spell {tag : List Char} {pairs : List (List Char × List Char)}
    (named : isQualified tag = true) (writable : ∀ pair ∈ pairs, isWritable pair = true)
    (offset : Nat) (rest : List Char) :
    ∃ found, List.Forall₂ Holds pairs found ∧
      scanStartTag (spell offset (tag ++ writeAttributes pairs ++ '>' :: rest)) =
        .ok (⟨tag, found, false⟩,
          spell (offset + octetCount (tag ++ writeAttributes pairs ++ ['>'])) rest) := by
  have enough : pairs.length < countBefore '<' (spell (offset + octetCount tag)
      (writeAttributes pairs ++ '>' :: rest)) + 1 :=
    Nat.lt_succ_of_le (Nat.le_trans (length_le_writeAttributes pairs)
      (le_countBefore_spell (opening_not_mem_writeAttributes writable) _))
  obtain ⟨found, holds, scanned⟩ := scanAttributes_spell writable enough
    (offset + octetCount tag) rest
  have next : ∃ c cs, writeAttributes pairs ++ '>' :: rest = c :: cs ∧
      (continuesName c = false ∧ c ≠ ':') ∧ (isBlank c || c == '>' || c == '/') = true := by
    cases pairs with
    | nil => exact ⟨'>', rest, rfl, by decide, by decide⟩
    | cons pair pairs =>
        rw [writeAttributes_cons]
        exact ⟨' ', _, rfl, by decide, by decide⟩
  obtain ⟨c, cs, shown, ends, isEnd⟩ := next
  refine ⟨found, holds, ?_⟩
  unfold scanStartTag
  rw [List.append_assoc, scanQualified_spell named (by rw [shown]; simpa using ends)]
  dsimp only
  rw [scanned, List.append_assoc, octetCount_append tag, ← Nat.add_assoc, shown]
  simp only [spell, isBlank_cellOf, is_cellOf, isEnd]
  rfl

theorem scanEndTag_spell {tag : List Char} (named : isQualified tag = true) (offset : Nat)
    (rest : List Char) :
    ∃ start, scanEndTag (spell offset (tag ++ '>' :: rest)) =
      .ok ((tag, start), spell (offset + octetCount (tag ++ ['>'])) rest) := by
  have ends : ∀ c ∈ ('>' :: rest).head?, (continuesName c || c == ':') = false := by
    intro c first
    cases first
    decide
  obtain ⟨front, back⟩ := while_spell_append (p := fun cell => cell.isNameChar || cell.is ':')
    (fun o c => by rw [isNameChar_cellOf, is_cellOf]) (partOfName_of_isQualified named) ends offset
  obtain ⟨c, cs, rfl, starts⟩ := exists_of_isQualified named
  have first : (cellOf offset c).isNameStart = true := by rw [isNameStart_cellOf, starts]
  refine ⟨offset, ?_⟩
  rw [List.cons_append, spell] at front back ⊢
  unfold scanEndTag
  dsimp only
  rw [front, back, first, charsOf_spell, octetCount_append,
    octetCount_of_single (show (Utf8.encodeChar '>').length = 1 by decide)]
  rfl

/-! ## Comments -/

/-- The text of a comment, which holds no two hyphens and does not end with one. -/
def IsCommentText (cs : List Char) : Prop := ¬ ['-', '-'] <:+: cs ++ ['-']

theorem scanCommentBody_spell {cs : List Char} (plain : IsCommentText cs) (offset : Nat)
    (rest : List Char) :
    scanCommentBody (spell offset (cs ++ '-' :: '-' :: '>' :: rest)) =
      .ok (spell (offset + octetCount (cs ++ ['-', '-', '>'])) rest) := by
  induction cs generalizing offset with
  | nil => rfl
  | cons c cs ih =>
      have later : IsCommentText cs := fun within =>
        plain (within.trans (List.suffix_cons c (cs ++ ['-'])).isInfix)
      have step := ih later (offset + (Utf8.encodeChar c).length)
      rw [List.cons_append, List.cons_append, octetCount_cons, ← Nat.add_assoc, ← step, spell]
      by_cases hyphen : c = '-'
      · subst hyphen
        have second : ∃ d ds, cs ++ '-' :: '-' :: '>' :: rest = d :: ds ∧ (d == '-') = false := by
          cases cs with
          | nil => exact absurd (List.prefix_refl _).isInfix plain
          | cons d ds =>
              refine ⟨d, _, rfl, beq_eq_false_iff_ne.mpr ?_⟩
              rintro rfl
              exact plain (List.prefix_append ['-', '-'] (ds ++ ['-'])).isInfix
        obtain ⟨d, ds, shown, other⟩ := second
        rw [shown, spell, scanCommentBody.eq_def]
        dsimp only [cellOf]
        rw [← cellOf.eq_def, is_cellOf, other]
        rfl
      · simp only [scanCommentBody, cellOf]

def writeComment (cs : List Char) : List Char := "<!--".toList ++ cs ++ "-->".toList

theorem writeComment_append (cs rest : List Char) :
    writeComment cs ++ rest = '<' :: ('!' :: '-' :: '-' :: cs ++ '-' :: '-' :: '>' :: rest) := by
  simp [writeComment]

/-! ## Pieces of content -/

/-- Text of an element that can stand as it is. -/
structure IsPlainText (cs : List Char) : Prop where
  opening : '<' ∉ cs
  reference : '&' ∉ cs
  literalEnd : ¬ [']', ']', '>'] <:+: cs

theorem isPlainText_nil : IsPlainText [] := ⟨by simp, by simp, by simp⟩

theorem IsPlainText.of_cons {cs : List Char} (plain : IsPlainText (c :: cs)) : IsPlainText cs where
  opening member := plain.opening (List.mem_cons_of_mem c member)
  reference member := plain.reference (List.mem_cons_of_mem c member)
  literalEnd within := plain.literalEnd (within.trans (List.suffix_cons c cs).isInfix)

theorem literalEnd?_spell {text : List Char} (other : ¬ [']', '>'] <+: text) (start : Nat) :
    literalEnd? (spell start text) = none := by
  match text with
  | [] => rfl
  | [c] => rfl
  | c :: d :: text =>
      have unlike : ¬ (c = ']' ∧ d = '>') := by
        rintro ⟨rfl, rfl⟩
        exact other (List.prefix_append [']', '>'] text)
      rw [spell, spell, literalEnd?, is_cellOf, is_cellOf]
      exact if_neg (by simpa using unlike)

theorem scanPiece_text {cs : List Char} (plain : IsPlainText (c :: cs))
    (ends : ∀ d ∈ rest.head?, d = '<') (offset start : Nat) :
    scanPiece (cellOf offset c) (spell start (cs ++ rest)) =
      .ok (.text c, spell start (cs ++ rest)) := by
  have opening : c ≠ '<' := fun same => plain.opening (same ▸ List.mem_cons_self)
  have reference : c ≠ '&' := fun same => plain.reference (same ▸ List.mem_cons_self)
  have unended (bracket : c = ']') : literalEnd? (spell start (cs ++ rest)) = none := by
    subst bracket
    refine literalEnd?_spell (fun within => ?_) start
    have front : [']', '>'] <+: cs := by
      match cs with
      | [] =>
          obtain ⟨more, shown⟩ := within
          have whole : ']' :: '>' :: more = rest := shown
          have first := ends ']' (by rw [← whole]; rfl)
          cases first
      | [d] =>
          obtain ⟨more, shown⟩ := within
          have tail : '>' :: more = rest := (List.cons.inj shown).2
          have second := ends '>' (by rw [← tail]; rfl)
          cases second
      | d :: e :: cs =>
          obtain ⟨more, shown⟩ := within
          obtain ⟨rfl, tail⟩ := List.cons.inj shown
          obtain ⟨rfl, _⟩ := List.cons.inj tail
          exact List.prefix_append [']', '>'] cs
    exact plain.literalEnd ((List.prefix_cons_inj ']').mpr front).isInfix
  unfold scanPiece
  simp only [cellOf]
  split
  · next same => exact absurd (Sign.char.inj same).1 opening
  · next same => exact absurd (Sign.char.inj same).1 reference
  · next same =>
      cases (Sign.char.inj same).1
      rw [unended rfl]
  · next same =>
      cases (Sign.char.inj same).1
      rfl
  · next none => exact absurd rfl (none _ _)

/-- What follows the mark and the first hyphen of a comment. -/
theorem scanComment_spell {cs : List Char} (plain : IsCommentText cs) (offset : Nat)
    (rest : List Char) :
    scanComment (spell (offset + 3) ('-' :: cs ++ '-' :: '-' :: '>' :: rest)) =
      .ok (spell (offset + octetCount (writeComment cs)) rest) := by
  have body := scanCommentBody_spell plain (offset + 4) rest
  have consumed : offset + octetCount (writeComment cs) =
      offset + 4 + octetCount (cs ++ ['-', '-', '>']) := by
    have parts : writeComment cs = "<!--".toList ++ (cs ++ ['-', '-', '>']) :=
      List.append_assoc _ _ _
    have four : octetCount "<!--".toList = 4 := by decide
    rw [parts, octetCount_append, four, Nat.add_assoc]
  rw [consumed]
  exact body

theorem scanPiece_comment {cs : List Char} (plain : IsCommentText cs) (offset : Nat)
    (rest : List Char) :
    scanPiece (cellOf offset '<')
        (spell (offset + 1) ('!' :: '-' :: '-' :: cs ++ '-' :: '-' :: '>' :: rest)) =
      .ok (.comment, spell (offset + octetCount (writeComment cs)) rest) :=
  congrArg (Except.map _) (scanComment_spell plain offset rest)

theorem scanPiece_startTag {tag : List Char} {pairs : List (List Char × List Char)}
    (named : isQualified tag = true) (writable : ∀ pair ∈ pairs, isWritable pair = true)
    (offset : Nat) (rest : List Char) :
    ∃ found, List.Forall₂ Holds pairs found ∧
      scanPiece (cellOf offset '<')
          (spell (offset + 1) (tag ++ writeAttributes pairs ++ '>' :: rest)) =
        .ok (.startTag ⟨tag, found, false⟩,
          spell (offset + octetCount (writeStart tag pairs)) rest) := by
  obtain ⟨found, holds, scanned⟩ := scanStartTag_spell named writable (offset + 1) rest
  have consumed : offset + octetCount (writeStart tag pairs) =
      offset + 1 + octetCount (tag ++ writeAttributes pairs ++ ['>']) := by
    rw [writeStart, List.cons_append, List.cons_append, octetCount_of_single (by decide),
      Nat.add_assoc]
  refine ⟨found, holds, ?_⟩
  rw [consumed]
  obtain ⟨c, cs, rfl, starts⟩ := exists_of_isQualified named
  obtain ⟨_, _, slash, bang, mark⟩ := of_startsName starts
  have others : (c == '!') = false ∧ (c == '?') = false ∧ (c == '/') = false :=
    ⟨beq_eq_false_iff_ne.mpr bang, beq_eq_false_iff_ne.mpr mark, beq_eq_false_iff_ne.mpr slash⟩
  have markup : scanMarkup (spell (offset + 1) (c :: cs ++ writeAttributes pairs ++ '>' :: rest)) =
      .ok (.startTag ⟨c :: cs, found, false⟩,
        spell (offset + 1 + octetCount (c :: cs ++ writeAttributes pairs ++ ['>'])) rest) := by
    simp only [List.cons_append, spell] at scanned ⊢
    simp only [scanMarkup, is_cellOf, others, Bool.false_eq_true, if_false, scanned, Except.map]
  exact markup

theorem scanPiece_endTag {tag : List Char} (named : isQualified tag = true) (offset : Nat)
    (rest : List Char) :
    ∃ start, scanPiece (cellOf offset '<') (spell (offset + 1) ('/' :: tag ++ '>' :: rest)) =
      .ok (.endTag tag start, spell (offset + octetCount (writeEnd tag)) rest) := by
  obtain ⟨start, scanned⟩ := scanEndTag_spell named (offset + 1 + 1) rest
  have consumed : offset + octetCount (writeEnd tag) =
      offset + 1 + 1 + octetCount (tag ++ ['>']) := by
    rw [writeEnd, List.cons_append, List.cons_append, octetCount_of_single (by decide),
      octetCount_of_single (by decide)]
    omega
  rw [consumed]
  exact ⟨start, congrArg (Except.map _) scanned⟩

end BucketRegion.Xml

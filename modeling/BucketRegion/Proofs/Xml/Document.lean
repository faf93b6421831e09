import BucketRegion.Proofs.Xml.Written

/-!
# Documents that are read back

A document in UTF-8 that holds one element, with or without the usual declaration in front of it, is
read as the element that it denotes.
-/

set_option autoImplicit false

namespace BucketRegion.Xml

/-- Text of characters that documents can hold, no line end of which is written with a return. -/
structure IsPortable (cs : List Char) : Prop where
  allowed : ∀ c ∈ cs, isAllowed c.toNat = true
  unreturned : '\r' ∉ cs

theorem isPortable_of_all {cs : List Char}
    (all : (cs.all fun c => isAllowed c.toNat && c != '\r') = true) : IsPortable cs where
  allowed c member := (Bool.and_eq_true_iff.mp (List.all_eq_true.mp all c member)).1
  unreturned member := by
    have other := (Bool.and_eq_true_iff.mp (List.all_eq_true.mp all '\r' member)).2
    cases other

theorem IsPortable.append {cs ds : List Char} (front : IsPortable cs) (back : IsPortable ds) :
    IsPortable (cs ++ ds) where
  allowed c member := (List.mem_append.mp member).elim (front.allowed c) (back.allowed c)
  unreturned member := (List.mem_append.mp member).elim front.unreturned back.unreturned

/-- A written document: an element, with comments before and after it. -/
structure Document where
  front : List (List Char)
  root : Written
  back : List (List Char)

def writeComments (comments : List (List Char)) : List Char := comments.flatMap writeComment

def Document.write (w : Document) : List Char :=
  writeComments w.front ++ (w.root.write ++ writeComments w.back)

/-- What makes a text a document, and the element that it denotes. -/
structure Document.Denotes (w : Document) (root : Element) : Prop where
  portable : IsPortable w.write
  front : ∀ cs ∈ w.front, IsCommentText cs
  back : ∀ cs ∈ w.back, IsCommentText cs
  single : ∃ tag pairs text inside, w.root = .element tag pairs text inside [] .done
  element : w.root.Denotes Scope.initial [] [root]

section

variable {root : Element} {w : Document} {rest : List Char}

/-! ## The first element -/

theorem readContent_root (document : w.Denotes root) {d : Declarations}
    (rules : ∀ tag, d.rules tag = []) {extent : Extent}
    (enough : w.root.write.length < extent.steps) (offset : Nat) (rest : List Char) :
    ∃ c, readContent d extent extent.steps ⟨0, extent.stop, [], none⟩ Content.empty
        (spell offset (w.root.write ++ rest)) =
          .ok (c, spell (offset + octetCount w.root.write) rest) ∧
      c.root? = some root ∧ c.skipped? = none := by
  obtain ⟨tag, pairs, text, inside, shown⟩ := document.single
  have element := document.element
  have text_eq : w.root.write =
      (writeStart tag pairs ++ text) ++ inside.write ++ writeEnd tag := by
    rw [shown]
    simp [Written.write]
  rw [text_eq, List.length_append, List.length_append, List.length_append] at enough
  rw [shown] at element
  cases element with
  | @element _ inner _ _ _ lead _ name _ _ _ children _ named writable distinct opened plain within
      plainTail later =>
      cases later
      let frame : Frame := ⟨0, extent.stop, [], none⟩
      have isOpen : (Content.empty.push tag name inner).opened = [⟨tag, name, inner, [], []⟩] := rfl
      have content : Leads d extent frame _ inside.write _ :=
        within.leads rfl rfl rules (by omega) (Content.opened_extend isOpen text []) rfl
      have begun : Leads d extent frame Content.empty _ _ :=
        Written.leads_opened rfl rules named writable distinct opened plain (by omega) content
      obtain ⟨n, shorter, goesOn⟩ := begun.goesOn offset ('/' :: tag ++ '>' :: rest)
      have fuel : ∃ fuel, extent.steps = n + (fuel + 1) := by
        refine ⟨extent.steps - n - 1, ?_⟩
        simp only [length_spell, List.length_append, List.length_cons, writeEnd] at shorter enough
        omega
      obtain ⟨fuel, steps⟩ := fuel
      have popped := Content.pop_extend_push_of_closed (c := Content.empty) rfl tag name inner
        (text ++ lead) children
      refine ⟨_, ?_, congrArg Content.root? popped, congrArg Content.skipped? popped⟩
      have consumed : offset + octetCount w.root.write =
          offset + octetCount (writeStart tag pairs ++ text ++ inside.write) +
            octetCount (writeEnd tag) := by
        rw [text_eq, octetCount_append, Nat.add_assoc]
      rw [← writeEnd_append] at goesOn
      rw [consumed, text_eq, List.append_assoc, steps, goesOn,
        readContent_endTag rfl named (Nat.zero_le _)
          (Content.opened_extend isOpen (text ++ lead) children) rfl, popped]
      rfl

theorem exists_write (document : w.Denotes root) :
    ∃ c cs, w.root.write = '<' :: c :: cs ∧ startsName c = true := by
  obtain ⟨tag, pairs, text, inside, shown⟩ := document.single
  have element := document.element
  rw [shown] at element ⊢
  cases element with
  | element named =>
      obtain ⟨c, cs, rfl, starts⟩ := exists_of_isQualified named
      exact ⟨c, _, rfl, starts⟩

theorem scanSymbol_element {c : Char} (starts : startsName c = true) (cs : List Char)
    (offset : Nat) :
    scanSymbol (cellOf offset '<') (spell (offset + 1) (c :: cs)) =
      .ok (.element, cellOf offset '<' :: spell (offset + 1) (c :: cs)) := by
  obtain ⟨_, _, _, bang, mark⟩ := of_startsName starts
  have others : (c == '!') = false ∧ (c == '?') = false :=
    ⟨beq_eq_false_iff_ne.mpr bang, beq_eq_false_iff_ne.mpr mark⟩
  have named : (cellOf (offset + 1) c).isNameStart = true := by rw [isNameStart_cellOf, starts]
  have sign : (cellOf (offset + 1) c).sign = .char c (NameRole.ofChar c) := rfl
  have opening (cells : List Cell) :
      scanOpening cells (spell (offset + 1) (c :: cs)) = .ok (.element, cells) := by
    rw [spell, scanOpening, is_cellOf, is_cellOf, others.1, others.2]
    simp only [sign, named, Bool.true_or, Bool.false_eq_true, if_false, if_true]
  exact opening _

/-! ## Comments around it -/

theorem scanSymbol_comment {cs : List Char} (plain : IsCommentText cs) (offset : Nat)
    (rest : List Char) :
    scanSymbol (cellOf offset '<')
        (spell (offset + 1) ('!' :: '-' :: '-' :: cs ++ '-' :: '-' :: '>' :: rest)) =
      .ok (.comment, spell (offset + octetCount (writeComment cs)) rest) :=
  congrArg (Except.map _) (scanComment_spell plain offset rest)

theorem writeComments_cons (cs : List Char) (comments : List (List Char)) (rest : List Char) :
    writeComments (cs :: comments) ++ rest =
      '<' :: ('!' :: '-' :: '-' :: cs ++ '-' :: '-' :: '>' :: (writeComments comments ++ rest)) := by
  rw [writeComments, List.flatMap_cons, List.append_assoc, writeComment_append, ← writeComments]

theorem length_le_writeComments (comments : List (List Char)) :
    comments.length ≤ (writeComments comments).length := by
  induction comments with
  | nil => exact Nat.le_refl 0
  | cons cs comments ih =>
      have text := congrArg List.length (writeComments_cons cs comments [])
      simp only [List.append_nil, List.length_cons, List.length_append] at text ⊢
      omega

theorem readProlog_comments (extent : Extent) (d : Declarations) {comments : List (List Char)}
    (plain : ∀ cs ∈ comments, IsCommentText cs) {fuel : Nat} (enough : comments.length < fuel)
    {c : Char} (starts : startsName c = true) (cs : List Char) (offset : Nat) :
    readProlog extent fuel d .start (spell offset (writeComments comments ++ '<' :: c :: cs)) =
      .ok (d, spell (offset + octetCount (writeComments comments)) ('<' :: c :: cs)) := by
  induction comments generalizing fuel offset with
  | nil =>
      cases fuel with
      | zero => cases enough
      | succ fuel =>
          have symbol := scanSymbol_element starts cs offset
          rw [writeComments, List.flatMap_nil, List.nil_append, spell_of_single (by decide),
            readProlog, symbol]
          rfl
  | cons first comments ih =>
      obtain ⟨here, later⟩ := List.forall_mem_cons.mp plain
      cases fuel with
      | zero => cases enough
      | succ fuel =>
          have symbol := scanSymbol_comment here offset (writeComments comments ++ '<' :: c :: cs)
          have consumed : offset + octetCount (writeComments (first :: comments)) =
              offset + octetCount (writeComment first) + octetCount (writeComments comments) := by
            rw [writeComments, List.flatMap_cons, octetCount_append, Nat.add_assoc]
            rfl
          rw [writeComments_cons, spell_of_single (by decide), readProlog, symbol, consumed]
          exact ih later (Nat.lt_of_succ_lt_succ enough) _

theorem readEpilogue_comments {extent : Extent} (whole : extent.hasHalf = false)
    {comments : List (List Char)} (plain : ∀ cs ∈ comments, IsCommentText cs) (fuel offset : Nat) :
    readEpilogue extent fuel (spell offset (writeComments comments)) = .ok () := by
  induction comments generalizing fuel offset with
  | nil =>
      cases fuel with
      | zero => rfl
      | succ fuel =>
          rw [writeComments, List.flatMap_nil, spell, readEpilogue, whole]
          rfl
  | cons first comments ih =>
      obtain ⟨here, later⟩ := List.forall_mem_cons.mp plain
      cases fuel with
      | zero => rw [readEpilogue]
      | succ fuel =>
          have symbol := scanSymbol_comment here offset (writeComments comments)
          have text := writeComments_cons first comments []
          rw [List.append_nil, List.append_nil] at text
          rw [text, spell_of_single (by decide), readEpilogue, symbol]
          exact ih later fuel _

/-- A document is read as what it denotes, wherever it starts. -/
theorem readFrom_document (document : w.Denotes root) {octets : Bytes} {start : Nat}
    (rest : octets.drop start = Utf8.encodeChars w.write) (isStandalone : Bool) :
    readFrom .utf8 octets start isStandalone = .ok root := by
  have cells : Encoding.utf8.cells start (octets.drop start) = spell start w.write := by
    rw [rest, cells_encodeChars document.portable.allowed document.portable.unreturned]
  have short : w.write.length ≤ octets.length := by
    have count : octetCount w.write = octets.length - start := by
      rw [octetCount, ← rest, List.length_drop]
    have length := length_le_octetCount w.write
    omega
  have parts : w.front.length ≤ w.write.length ∧ w.root.write.length ≤ w.write.length := by
    have comments := length_le_writeComments w.front
    rw [Document.write, List.length_append, List.length_append]
    omega
  have enough : w.root.write.length < (octets.length + 2) * (octets.length + 2) :=
    Nat.lt_of_lt_of_le (by omega) (Nat.le_mul_of_pos_left _ (Nat.succ_pos _))
  obtain ⟨c, cs, shown, starts⟩ := exists_write document
  let extent : Extent := ⟨octets.length, false, (octets.length + 2) * (octets.length + 2)⟩
  let d := Declarations.initial isStandalone
  let body := start + octetCount (writeComments w.front)
  obtain ⟨content, read, first, unskipped⟩ := readContent_root document (d := d) (fun _ => rfl)
    (show w.root.write.length < extent.steps from enough) body (writeComments w.back)
  have prolog : readProlog extent ((spell start w.write).length + 1) d .start (spell start w.write) =
      .ok (d, spell body (w.root.write ++ writeComments w.back)) := by
    have text : w.write =
        writeComments w.front ++ '<' :: c :: (cs ++ writeComments w.back) := by
      rw [Document.write, shown]
      rfl
    have ahead := readProlog_comments extent d document.front
      (show w.front.length < w.write.length + 1 by omega) starts (cs ++ writeComments w.back) start
    rw [← text] at ahead
    rw [length_spell, shown]
    exact ahead
  have epilogue := readEpilogue_comments (show extent.hasHalf = false from rfl) document.back
  have unhalved : (Encoding.utf8.unitSize == 2 && (octets.length - start) % 2 == 1) = false := rfl
  have read_body : readBody extent d (spell start w.write) = .ok root := by
    unfold readBody
    dsimp only
    rw [prolog]
    dsimp only
    rw [read]
    dsimp only
    rw [epilogue, first, unskipped]
  unfold readFrom
  dsimp only
  rw [cells, unhalved, read_body]

/-! ## Whole documents -/

theorem detect?_encodeChars {c : Char} (visible : c ≠ '\x00') (cs : List Char) :
    Encoding.detect? (Utf8.encodeChars ('<' :: c :: cs)) = some (.utf8, 0) := by
  obtain ⟨lead, more, octets, starts⟩ := Utf8.exists_encodeChar c
  have nonzero : lead ≠ 0x00 := by
    rintro rfl
    have zero : Utf8.head 0x00 (more ++ []) = .char '\x00' 1 := rfl
    rw [starts []] at zero
    injection zero with same
    exact visible same
  have mark : Utf8.encodeChar '<' = [0x3C] := by decide
  have second : (lead == 0x00) = false := beq_eq_false_iff_ne.mpr nonzero
  rw [Utf8.encodeChars, List.flatMap_cons, List.flatMap_cons, mark, octets]
  simp [Encoding.detect?, second]

/-- A document starts with an element or a comment. -/
theorem exists_symbol (document : w.Denotes root) :
    ∃ c cs, w.write = '<' :: c :: cs ∧ c ≠ '\x00' ∧
      ∃ found after, scanSymbol (cellOf 0 '<') (spell 1 (c :: cs)) = .ok (found, after) ∧
        (found = .element ∨ found = .comment) := by
  rw [Document.write]
  cases front : w.front with
  | nil =>
      obtain ⟨c, cs, shown, starts⟩ := exists_write document
      have visible : c ≠ '\x00' := by
        rintro rfl
        cases starts
      rw [shown]
      exact ⟨c, _, rfl, visible, _, _, scanSymbol_element starts _ 0, .inl rfl⟩
  | cons cs comments =>
      have plain := document.front cs (front ▸ List.mem_cons_self)
      rw [writeComments_cons]
      exact ⟨'!', _, rfl, by decide, _, _, scanSymbol_comment plain 0 _, .inr rfl⟩

/-- A document without a declaration is read as what it denotes. -/
theorem parse_document (document : w.Denotes root) :
    parse (Utf8.encodeChars w.write) = .ok root := by
  obtain ⟨c, cs, shown, visible, found, after, symbol, kind⟩ := exists_symbol document
  have cells := cells_encodeChars document.portable.allowed document.portable.unreturned 0
  have detected : Encoding.detect? (Utf8.encodeChars w.write) = some (.utf8, 0) := by
    rw [shown]
    exact detect?_encodeChars visible cs
  have read := readFrom_document document (List.drop_zero (l := Utf8.encodeChars w.write)) false
  unfold parse
  rw [detected]
  dsimp only
  rw [List.drop_zero, cells]
  rw [shown] at read ⊢
  rw [spell_of_single (by decide)]
  dsimp only
  rw [symbol]
  rcases kind with rfl | rfl
  · exact read
  · exact read

/-- The declaration of version and encoding with which services start their documents. -/
def declaration : List Char := "<?xml version=\"1.0\" encoding=\"UTF-8\"?>".toList

/-- What stands in that declaration after its target. -/
def declaredItems : List Char := " version=\"1.0\" encoding=\"UTF-8\"".toList

theorem scanInstructionBody_spell {body : List Char} (plain : '?' ∉ body) (offset : Nat)
    (rest : List Char) :
    scanInstructionBody (spell offset (body ++ '?' :: '>' :: rest)) =
      .ok (spell offset body, spell (offset + octetCount (body ++ ['?', '>'])) rest) := by
  induction body generalizing offset with
  | nil => rfl
  | cons c body ih =>
      obtain ⟨other, later⟩ := not_or.mp fun among => plain (List.mem_cons.mpr among)
      have step := ih later (offset + (Utf8.encodeChar c).length)
      have unlike : c ≠ '?' := fun same => other same.symm
      simp only [List.cons_append, spell, scanInstructionBody, cellOf, step, Except.map,
        octetCount_cons, Nat.add_assoc]

theorem scanInstruction_declaration (rest : List Char) :
    ∃ after, scanInstruction
        (spell 2 ("xml".toList ++ (declaredItems ++ '?' :: '>' :: rest))) =
      .ok (.declaration (spell 5 declaredItems), after) := by
  have ends : ∀ c ∈ (declaredItems ++ '?' :: '>' :: rest).head?, continuesName c = false := by
    intro c first
    cases first
    decide
  have target : scanName (spell 2 ("xml".toList ++ (declaredItems ++ '?' :: '>' :: rest))) = _ :=
    scanName_spell (by decide) ends
  have body := scanInstructionBody_spell (show '?' ∉ declaredItems.tail by decide) 6 rest
  refine ⟨spell (6 + octetCount (declaredItems.tail ++ ['?', '>'])) rest, ?_⟩
  have found := congrArg (Except.map fun scanned : List Cell × List Cell =>
    (Instruction.declaration (cellOf 5 ' ' :: scanned.1), scanned.2)) body
  unfold scanInstruction
  rw [target]
  exact found

theorem scanSymbol_declaration (rest : List Char) :
    ∃ after, scanSymbol (cellOf 0 '<')
        (spell 1 ('?' :: ("xml".toList ++ (declaredItems ++ '?' :: '>' :: rest)))) =
      .ok (.declaration (spell 5 declaredItems), after) := by
  obtain ⟨after, scanned⟩ := scanInstruction_declaration rest
  refine ⟨after, ?_⟩
  have found := congrArg (Except.map fun scanned : Instruction × List Cell =>
    ((scanned.1.casesOn .instruction .declaration : Symbol), scanned.2)) scanned
  exact found

theorem read_declaredItems :
    ∃ place, Declaration.read (spell 5 declaredItems) = .ok ⟨some ("UTF-8".toList, place), false⟩ :=
  ⟨_, rfl⟩

theorem readDeclared_declaredItems (document : w.Denotes root) :
    readDeclared .utf8 (Utf8.encodeChars (declaration ++ w.write)) 0 (spell 5 declaredItems) =
      .ok root := by
  obtain ⟨place, read⟩ := read_declaredItems
  have rest : (Utf8.encodeChars (declaration ++ w.write)).drop 38 = Utf8.encodeChars w.write := by
    have length : (Utf8.encodeChars declaration).length = 38 := by decide
    rw [Utf8.encodeChars, List.flatMap_append, ← length, ← Utf8.encodeChars, List.drop_left]
    rfl
  unfold readDeclared
  dsimp only
  rw [read]
  exact readFrom_document document rest false

/-- A document with its declaration in front of it is read as what it denotes. -/
theorem parse_declared (document : w.Denotes root) :
    parse (Utf8.encodeChars (declaration ++ w.write)) = .ok root := by
  have portable : IsPortable (declaration ++ w.write) :=
    IsPortable.append (isPortable_of_all (by decide)) document.portable
  have cells := cells_encodeChars portable.allowed portable.unreturned 0
  have detected : Encoding.detect? (Utf8.encodeChars (declaration ++ w.write)) = some (.utf8, 0) :=
    detect?_encodeChars (by decide) _
  have read := readDeclared_declaredItems document
  obtain ⟨after, scanned⟩ := scanSymbol_declaration w.write
  have shown : declaration ++ w.write =
      '<' :: '?' :: ("xml".toList ++ (declaredItems ++ '?' :: '>' :: w.write)) := rfl
  unfold parse
  rw [detected]
  dsimp only
  rw [List.drop_zero, cells]
  rw [shown] at read ⊢
  rw [spell_of_single (by decide)]
  dsimp only
  rw [scanned]
  exact read

/-- The octets of a document, with its declaration in front of it or without one. -/
def Document.octets (w : Document) (isDeclared : Bool) : Bytes :=
  Utf8.encodeChars (if isDeclared then declaration ++ w.write else w.write)

theorem parse_octets (document : w.Denotes root) (isDeclared : Bool) :
    parse (w.octets isDeclared) = .ok root := by
  cases isDeclared with
  | true => exact parse_declared document
  | false => exact parse_document document

end

end BucketRegion.Xml

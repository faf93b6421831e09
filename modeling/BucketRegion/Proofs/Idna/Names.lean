import BucketRegion.Idna.Label
import BucketRegion.Proofs.Except
import BucketRegion.Proofs.Text.Case
import BucketRegion.Proofs.Text.Split

/-!
# Names that are encoded

A host name that has been put into ASCII holds letters, digits and hyphens, and the stops between
its labels. This is so of labels that are ASCII already, because the readable form of a label has
been checked, and of all others, because Punycode adds letters, digits and a hyphen only.
-/

set_option autoImplicit false

namespace BucketRegion.Idna

/-- Letters and digits of ASCII, and the hyphen. -/
def isLabelChar (c : Char) : Bool := c.isAlphanum || c == '-'

theorem isLabelChar_of_mem_mark {c : Char} (member : c ∈ mark) : isLabelChar c = true := by
  simp only [mark, List.mem_cons, List.not_mem_nil, or_false] at member
  rcases member with rfl | rfl | rfl | rfl <;> rfl

/-! ## Punycode -/

namespace Punycode

theorem isLabelChar_digitChar {d : Nat} (small : d < 36) : isLabelChar (digitChar d) = true := by
  have table : ∀ d < 36, isLabelChar (digitChar d) = true := by decide
  exact table d small

theorem threshold_bounds (place bias : Nat) : 1 ≤ threshold place bias ∧ threshold place bias ≤ 26 := by
  unfold threshold
  split
  · omega
  · split <;> omega

theorem isLabelChar_digitsFrom (fuel bias place n : Nat) :
    ∀ c ∈ digitsFrom fuel bias place n, isLabelChar c = true := by
  induction fuel generalizing place n with
  | zero => intro c member; cases member
  | succ fuel ih =>
      have bounds := threshold_bounds place bias
      intro c member
      unfold digitsFrom at member
      dsimp only at member
      split at member
      · rw [List.mem_singleton.mp member]
        exact isLabelChar_digitChar (by omega)
      · have digit := Nat.mod_lt (n - threshold place bias)
          (show 0 < 36 - threshold place bias by omega)
        rcases List.mem_cons.mp member with rfl | later
        · exact isLabelChar_digitChar (by omega)
        · exact ih _ _ c later

/-- What has been written so far is letters, digits and hyphens. -/
def Encoder.IsPlain (e : Encoder) : Prop := ∀ c ∈ e.written, isLabelChar c = true

theorem isPlain_pass {e : Encoder} (plain : e.IsPlain) (base next n : Nat) :
    (pass base next e n).IsPlain := by
  unfold pass
  split
  · exact plain
  · split
    · intro c member
      rcases List.mem_append.mp member with before | digit
      · exact plain c before
      · exact isLabelChar_digitsFrom _ _ _ _ c digit
    · exact plain

theorem isPlain_foldl_pass {e : Encoder} (plain : e.IsPlain) (base next : Nat) (codes : List Nat) :
    (codes.foldl (pass base next) e).IsPlain := by
  induction codes generalizing e with
  | nil => exact plain
  | cons n codes ih => exact ih (isPlain_pass plain base next n)

theorem isPlain_placeAll {e : Encoder} (plain : e.IsPlain) (codes : List Nat) (base current : Nat)
    (others : List Nat) : (placeAll codes base current others e).IsPlain := by
  induction others generalizing current e with
  | nil => exact plain
  | cons next others ih =>
      have moved : Encoder.IsPlain
          { e with delta := e.delta + (next - current) * (e.handled + 1) } := plain
      have passed := isPlain_foldl_pass moved base next codes
      have counted (delta : Nat) : Encoder.IsPlain
          { codes.foldl (pass base next)
              { e with delta := e.delta + (next - current) * (e.handled + 1) } with
            delta := delta } := passed
      exact ih (counted _) (next + 1)

/-- Punycode holds what the label has of ASCII, and letters, digits and hyphens. -/
theorem isLabelChar_encode {cs : List Char}
    (plain : ∀ c ∈ cs, c.toNat < 0x80 → isLabelChar c = true) :
    ∀ c ∈ encode cs, isLabelChar c = true := by
  have written := isPlain_placeAll (e := ⟨[], 0, 72, (cs.filter fun c => c.toNat < 0x80).length⟩)
    (fun c member => nomatch member) (cs.map Char.toNat)
    (cs.filter fun c => c.toNat < 0x80).length 0x80
    ((cs.map Char.toNat).filter (0x80 ≤ ·)).mergeSort.eraseDups
  intro c member
  unfold encode at member
  dsimp only at member
  split at member
  · exact written c member
  · rcases List.mem_append.mp member with own | added
    · obtain ⟨among, ascii⟩ := List.mem_filter.mp own
      exact plain c among (by simpa using ascii)
    · rcases List.mem_cons.mp added with rfl | digit
      · rfl
      · exact written c digit

theorem isLabelChar_of_digitValue? {c : Char} {d : Nat} (value : digitValue? c = some d) :
    isLabelChar c = true := by
  have small : c.toNat < 128 := by
    unfold digitValue? at value
    simp only [Bool.and_eq_true, decide_eq_true_eq] at value
    split at value
    · omega
    · split at value
      · omega
      · split at value
        · omega
        · cases value
  have table : ∀ n < 128, (digitValue? (Char.ofNat n)).isSome = true →
      isLabelChar (Char.ofNat n) = true := by decide
  exact Text.forall_ascii (p := fun c => (digitValue? c).isSome = true → isLabelChar c = true) table small
    (by simp [value])

/-- The digits of a number are letters and digits, and at least one is read. -/
theorem of_readNumber? {bias place weight value delta : Nat} {cs rest : List Char}
    (read : readNumber? bias place weight value cs = some (delta, rest)) :
    rest.length < cs.length ∧ ∀ c ∈ cs, isLabelChar c = true ∨ c ∈ rest := by
  induction cs generalizing place weight value with
  | nil => cases read
  | cons c cs ih =>
      unfold readNumber? at read
      obtain ⟨digit, shown, read⟩ := Option.bind_eq_some_iff.mp read
      have first := isLabelChar_of_digitValue? shown
      dsimp only at read
      split at read
      · cases read
        refine ⟨Nat.lt_succ_self _, fun d member => ?_⟩
        rcases List.mem_cons.mp member with rfl | later
        · exact .inl first
        · exact .inr later
      · obtain ⟨shorter, others⟩ := ih read
        refine ⟨Nat.lt_succ_of_lt shorter, fun d member => ?_⟩
        rcases List.mem_cons.mp member with rfl | later
        · exact .inl first
        · exact others d later

/-- The text that numbers are read into stays, and all of the input are digits. -/
theorem of_insertAll {fuel code position bias : Nat} {first : Bool} {text decoded : Text.Loose}
    {input : List Char} (enough : input.length < fuel)
    (inserted : insertAll fuel text code position bias first input = some decoded) :
    (∀ held ∈ text, held ∈ decoded) ∧ ∀ c ∈ input, isLabelChar c = true := by
  induction fuel generalizing text code position bias first input with
  | zero => cases enough
  | succ fuel ih =>
      unfold insertAll at inserted
      split at inserted
      · next none =>
          cases inserted
          rw [List.isEmpty_iff.mp none]
          exact ⟨fun _ member => member, fun _ member => nomatch member⟩
      · obtain ⟨⟨delta, rest⟩, read, inserted⟩ := Option.bind_eq_some_iff.mp inserted
        obtain ⟨shorter, digits⟩ := of_readNumber? read
        dsimp only at inserted
        split at inserted
        · cases inserted
        · obtain ⟨kept, others⟩ := ih (by omega) inserted
          refine ⟨fun held member => kept held ?_, fun c member => ?_⟩
          · rw [← List.take_append_drop ((position + delta) % (text.length + 1)) text] at member
            rcases List.mem_append.mp member with before | after
            · exact List.mem_append_left _ before
            · exact List.mem_append_right _ (List.mem_cons_of_mem _ after)
          · rcases digits c member with digit | later
            · exact digit
            · exact others c later

/-- The characters of Punycode are digits and hyphens, and those that stand in what it says. -/
theorem of_decode? {cs : List Char} {decoded : Text.Loose} (read : decode? cs = some decoded) :
    ∀ c ∈ cs, isLabelChar c = true ∨ .char c ∈ decoded := by
  let after := (cs.reverse.takeWhile (· != '-')).reverse
  let front := (cs.reverse.dropWhile (· != '-')).reverse
  have whole : front ++ after = cs := by
    rw [← List.reverse_append, List.takeWhile_append_dropWhile, List.reverse_reverse]
  have taken : cs.take (cs.length - after.length) = front := by
    rw [← whole]
    simp
  have inserted : insertAll (after.length + 1)
      (.ofChars (cs.take (cs.length - after.length)).dropLast) 0x80 0 72 true after =
        some decoded := read
  rw [taken] at inserted
  obtain ⟨kept, digits⟩ := of_insertAll (Nat.lt_succ_self _) inserted
  intro c member
  rw [← whole] at member
  rcases List.mem_append.mp member with early | late
  · rcases List.eq_nil_or_concat front with none | ⟨inner, mark, ends⟩
    · rw [none] at early
      cases early
    · -- The part in front of the digits ends with the last hyphen.
      have hyphen : mark = '-' := by
        have last : front.getLast? = some mark := by simp [ends]
        rw [List.getLast?_reverse] at last
        have boundary := List.head?_dropWhile_not (· != '-') cs.reverse
        simpa [last] using boundary
      rw [ends, List.concat_eq_append] at early kept
      rcases List.mem_append.mp early with within | ending
      · refine .inr (kept (.char c) (List.mem_map_of_mem ?_))
        rwa [List.dropLast_concat]
      · rw [List.mem_singleton.mp ending, hyphen]
        exact .inl rfl
  · exact .inl (digits c late)

end Punycode

/-! ## Labels -/

section

variable {label host form : List Char}

theorem not_ascii_of_isJoiner {c : Char} (joiner : isJoiner c = true) : ¬ c.toNat < 0x80 := by
  simp only [isJoiner, Bool.or_eq_true, beq_iff_eq] at joiner
  rcases joiner with rfl | rfl <;> decide

theorem not_ascii_of_isContextual {c : Char} (contextual : isContextual c = true) :
    ¬ c.toNat < 0x80 := by
  simp only [isContextual, Bool.or_eq_true, Bool.and_eq_true, beq_iff_eq,
    decide_eq_true_eq] at contextual
  omega

theorem isLabelChar_of_isPermitted {c : Char} (permitted : isPermitted c = true)
    (ascii : c.toNat < 0x80) : isLabelChar c = true := by
  rw [isPermitted, if_pos ascii] at permitted
  have table : ∀ n < 128, ((Char.ofNat n).isLower || (Char.ofNat n).isDigit ||
      Char.ofNat n == '-') = true → isLabelChar (Char.ofNat n) = true := by decide
  exact Text.forall_ascii (p := fun c => (c.isLower || c.isDigit || c == '-') = true →
    isLabelChar c = true) table ascii permitted

theorem isLabelChar_of_checkChars {text codes : Text.Loose} {position : Nat} {before : List Char}
    (checked : checkChars text position before codes = .ok ()) :
    ∀ c, .char c ∈ codes → c.toNat < 0x80 → isLabelChar c = true := by
  induction codes generalizing position before with
  | nil => intro c member; cases member
  | cons code rest ih =>
      cases code with
      | surrogate offset => cases checked
      | char d =>
          unfold checkChars at checked
          dsimp only at checked
          have here : (d.toNat < 0x80 → isLabelChar d = true) ∧
              checkChars text (position + 1) (d :: before) rest = .ok () := by
            split at checked
            · next permitted => exact ⟨isLabelChar_of_isPermitted permitted, checked⟩
            · split at checked
              · next joiner =>
                  split at checked
                  · exact ⟨fun ascii => absurd ascii (not_ascii_of_isJoiner joiner), checked⟩
                  · cases checked
              · split at checked
                · next contextual =>
                    split at checked
                    · exact ⟨fun ascii => absurd ascii (not_ascii_of_isContextual contextual),
                        checked⟩
                    · cases checked
                · cases checked
          intro c member
          rcases List.mem_cons.mp member with same | later
          · cases same
            exact here.1
          · exact ih here.2 c later

theorem isLabelChar_of_checkLabel {text : Text.Loose} (checked : checkLabel text = .ok ()) :
    ∀ c, .char c ∈ text → c.toNat < 0x80 → isLabelChar c = true := by
  cases text with
  | nil => intro c member; cases member
  | cons first rest =>
      have chars : checkChars (first :: rest) 1 [] (first :: rest) = .ok () := by
        rw [checkLabel] at checked
        have composed := (ite_error_eq_ok.mp checked).2
        have hyphens := (ite_error_eq_ok.mp composed).2
        have outer := (ite_error_eq_ok.mp hyphens).2
        have mark := (ite_error_eq_ok.mp outer).2
        have rules := (ite_error_eq_ok.mp mark).2
        clear checked composed hyphens outer mark
        cases checks : checkChars (first :: rest) 1 [] (first :: rest) with
        | error fault =>
            rw [checks] at rules
            cases rules
        | ok done => rfl
      exact isLabelChar_of_checkChars chars

/-- A label of characters that has been checked holds letters, digits and hyphens of ASCII only. -/
theorem isLabelChar_of_checked (checked : checkLabel (.ofChars label) = .ok ()) :
    ∀ c ∈ label, c.toNat < 0x80 → isLabelChar c = true :=
  fun c member => isLabelChar_of_checkLabel checked c (List.mem_map_of_mem member)

/-- Checked labels of ASCII are letters, digits and hyphens in any letter case. -/
theorem isLabelChar_of_toLower {c : Char} (ascii : c.toNat < 0x80)
    (small : isLabelChar c.toLower = true) : isLabelChar c = true := by
  have table : ∀ n < 128, isLabelChar (Char.ofNat n).toLower = true →
      isLabelChar (Char.ofNat n) = true := by decide
  exact Text.forall_ascii (p := fun c => isLabelChar c.toLower = true → isLabelChar c = true) table
    ascii small

theorem isLabelChar_of_readable {shown : List Char} (ascii : isAscii label = true)
    (read : readable label = .ok shown) : ∀ c ∈ label, isLabelChar c = true := by
  have narrow : ∀ c ∈ label, c.toNat < 0x80 := by simpa [isAscii] using ascii
  have small : ∀ c ∈ label.map Char.toLower, isLabelChar c = true := by
    have lowered : ∀ c ∈ label.map Char.toLower, c.toNat < 0x80 := by
      intro c member
      obtain ⟨d, among, rfl⟩ := List.mem_map.mp member
      exact Text.toLower_ascii (narrow d among)
    rw [readable] at read
    dsimp only at read
    split at read
    · next marked =>
        have rest := (ite_error_eq_ok.mp read).2
        have decoded := (ite_error_eq_ok.mp rest).2
        clear read rest
        cases decodes : Punycode.decode? ((label.map Char.toLower).drop 4) with
        | none =>
            rw [decodes] at decoded
            cases decoded
        | some letters =>
            rw [decodes] at decoded
            dsimp only at decoded
            cases checked : checkLabel letters with
            | error fault =>
                rw [checked] at decoded
                cases decoded
            | ok done =>
                intro c member
                rw [← List.take_append_drop 4 (label.map Char.toLower)] at member
                rcases List.mem_append.mp member with front | later
                · rw [beq_iff_eq.mp marked] at front
                  exact isLabelChar_of_mem_mark front
                · rcases Punycode.of_decode? decodes c later with digit | among
                  · exact digit
                  · exact isLabelChar_of_checkLabel checked c among
                      (lowered c (List.mem_of_mem_drop later))
    · cases checked : checkLabel (.ofChars (label.map Char.toLower)) with
      | error fault =>
          rw [checked] at read
          cases read
      | ok done => exact fun c member => isLabelChar_of_checked checked c member (lowered c member)
  exact fun c member => isLabelChar_of_toLower (narrow c member)
    (small _ (List.mem_map_of_mem member))

theorem isLabelChar_of_plainForm (formed : plainForm label = .ok form) :
    ∀ c ∈ form, isLabelChar c = true := by
  rw [plainForm] at formed
  cases ascii : isAscii label with
  | true =>
      rw [ascii, if_pos rfl] at formed
      cases read : readable label with
      | error fault =>
          rw [read] at formed
          cases formed
      | ok shown =>
          rw [read] at formed
          have same := (ite_error_eq_ok.mp formed).2
          rw [← Except.ok.inj same]
          exact isLabelChar_of_readable ascii read
  | false =>
      rw [ascii, if_neg (by simp)] at formed
      cases checked : checkLabel (.ofChars label) with
      | error fault =>
          rw [checked] at formed
          cases formed
      | ok done =>
          rw [checked] at formed
          have same := (ite_error_eq_ok.mp formed).2
          rw [← Except.ok.inj same]
          intro c member
          rcases List.mem_append.mp member with front | later
          · exact isLabelChar_of_mem_mark front
          · exact Punycode.isLabelChar_encode (isLabelChar_of_checked checked) c later

/-! ## Host names -/

theorem mapM_eq_ok {α β ε : Type} {f : α → Except ε β} {xs : List α} {ys : List β}
    (mapped : xs.mapM f = .ok ys) : ∀ y ∈ ys, ∃ x ∈ xs, f x = .ok y := by
  induction xs generalizing ys with
  | nil =>
      cases mapped
      intro y member
      cases member
  | cons x xs ih =>
      rw [List.mapM_cons] at mapped
      obtain ⟨first, found, mapped⟩ := bind_eq_ok.mp mapped
      obtain ⟨rest, later, mapped⟩ := bind_eq_ok.mp mapped
      cases mapped
      intro y member
      rcases List.mem_cons.mp member with rfl | among
      · exact ⟨x, List.mem_cons_self, found⟩
      · obtain ⟨source, there, made⟩ := ih later y among
        exact ⟨source, List.mem_cons_of_mem _ there, made⟩

/-- Letters, digits, hyphens and stops are all that a name in ASCII holds. -/
theorem of_encode (encoded : encode host = .ok form) :
    ∀ c ∈ form, isLabelChar c = true ∨ c = '.' := by
  rw [encode] at encoded
  cases formed : formOf plainForm host with
  | error fault =>
      rw [formed] at encoded
      cases encoded
  | ok name =>
      rw [formed] at encoded
      have same := Except.ok.inj (ite_error_eq_ok.mp encoded).2
      subst same
      rw [formOf] at formed
      have some := (ite_error_eq_ok.mp formed).2
      have labels := (ite_error_eq_ok.mp some).2
      dsimp only at labels
      split at labels
      · cases labels
      · next forms mapped =>
          rw [← Except.ok.inj labels]
          intro c member
          have plain : ∀ form ∈ forms, ∀ c ∈ form, isLabelChar c = true := by
            intro form among
            obtain ⟨label, _, made⟩ := mapM_eq_ok mapped form among
            exact isLabelChar_of_plainForm made
          rcases Text.mem_joinWith member with stop | ⟨part, among, within⟩
          · exact .inr stop
          · split at among
            · rcases List.mem_append.mp among with own | ending
              · exact .inl (plain part own c within)
              · rw [List.mem_singleton.mp ending] at within
                cases within
            · exact .inl (plain part among c within)

end

end BucketRegion.Idna

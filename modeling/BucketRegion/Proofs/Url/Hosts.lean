import BucketRegion.Proofs.Idna.Names
import BucketRegion.Proofs.Url.Authority

/-!
# Hosts

A host in canonical form is a name of characters that stand for themselves, or an address of the
newer kind, which the authority shows in brackets. Reading it again gives the same host in small
letters, unless it looks like an address of the older kind and is none: quoting can bring digits
into a name.
-/

set_option autoImplicit false

namespace BucketRegion.Url

/-! ## Characters of hosts -/

theorem ascii_of_isHostChar {c : Char} (plain : isHostChar c = true) : c.toNat < 128 := by
  simp only [isHostChar, isUnreserved, Bool.or_eq_true, beq_iff_eq] at plain
  rcases plain with ((((letter | rfl) | rfl) | rfl) | rfl) | mark
  · exact Text.ascii_of_isAlphanum letter
  · decide
  · decide
  · decide
  · decide
  · rw [List.contains_iff_mem] at mark
    simp only [List.mem_cons, List.not_mem_nil, or_false] at mark
    rcases mark with rfl | rfl | rfl | rfl | rfl | rfl | rfl | rfl | rfl | rfl | rfl | rfl | rfl |
      rfl | rfl | rfl | rfl | rfl <;> decide

/-- Characters that an authority can be cut at, and controls. -/
def isCut (c : Char) : Bool :=
  c == '@' || c == '/' || c == '?' || c == '#' || Text.isAsciiControl c

theorem of_isHostChar {c : Char} (plain : isHostChar c = true) :
    c ≠ ':' ∧ c ≠ '[' ∧ isCut c = false ∧ isHostChar c.toLower = true := by
  have table : ∀ n < 128, isHostChar (Char.ofNat n) = true → Char.ofNat n ≠ ':' ∧
      Char.ofNat n ≠ '[' ∧ isCut (Char.ofNat n) = false ∧
      isHostChar (Char.ofNat n).toLower = true := by decide
  exact Text.forall_ascii (p := fun c => isHostChar c = true → c ≠ ':' ∧ c ≠ '[' ∧
    isCut c = false ∧ isHostChar c.toLower = true) table (ascii_of_isHostChar plain) plain

theorem isHostChar_of_isHexDigit (c : Char) (hex : isHexDigit c = true) :
    isHostChar c = true := by
  have table : ∀ n < 128, isHexDigit (Char.ofNat n) = true →
      isHostChar (Char.ofNat n) = true := by decide
  exact Text.forall_ascii (p := fun c => isHexDigit c = true → isHostChar c = true) table
    (ascii_of_isHexDigit hex) hex

theorem isHostChar_of_isLabelChar {c : Char} (plain : Idna.isLabelChar c = true) :
    isHostChar c = true := by
  simp only [Idna.isLabelChar, Bool.or_eq_true, beq_iff_eq] at plain
  rcases plain with letter | rfl
  · simp [isHostChar, isUnreserved, letter]
  · decide

/-! ## Addresses -/

namespace Address

theorem foldl_stepRuns_nil (cs : List Char) : cs.foldl stepRuns [] = [] := by
  induction cs with
  | nil => rfl
  | cons c cs ih => simpa [stepRuns] using ih

/-- A host in brackets is no address of the older kind. -/
theorem not_looksLikeVersion4_bracket (cs : List Char) : looksLikeVersion4 ('[' :: cs) = false := by
  have first : stepRuns [(0, false)] '[' = [] := by decide
  rw [looksLikeVersion4, List.foldl_cons, first, foldl_stepRuns_nil]
  rfl

theorem isHostChar_of_isVersion4 {cs : List Char} (four : isVersion4 cs = true) :
    ∀ c ∈ cs, isHostChar c = true ∧ c.toLower = c := by
  intro c member
  rw [← Text.joinWith_splitOn '.' cs] at member
  rcases Text.mem_joinWith member with rfl | ⟨part, among, within⟩
  · decide
  · have octet : isOctet part = true := by
      simp only [isVersion4, Bool.and_eq_true, List.all_eq_true] at four
      exact four.2 part among
    have digit : c.isDigit = true := by
      simp only [isOctet, Bool.and_eq_true, List.all_eq_true] at octet
      exact octet.1.1.1.2 c within
    have letter : c.isAlphanum = true := by simp [Char.isAlphanum, digit]
    have table : ∀ n < 128, (Char.ofNat n).isDigit = true →
        isHostChar (Char.ofNat n) = true ∧ (Char.ofNat n).toLower = Char.ofNat n := by decide
    exact Text.forall_ascii (p := fun c => c.isDigit = true →
      isHostChar c = true ∧ c.toLower = c) table (Text.ascii_of_isAlphanum letter) digit

theorem colon_mem_of_groups? {cs : List Char} (grouped : (groups? cs).isSome = true) :
    ':' ∈ cs := by
  by_contra absent
  rw [groups?, Text.splitOn_of_not_mem absent] at grouped
  cases grouped

theorem colon_mem_of_isVersion6 {cs : List Char} (six : isVersion6 cs = true) : ':' ∈ cs := by
  unfold isVersion6 at six
  split at six
  · cases six
  · have grouped : ∀ {address : List Char} {ok : Bool} {p : List (List Char) → Bool},
        (ok && (groups? address).any p) = true → ':' ∈ address := by
      intro address ok p both
      refine colon_mem_of_groups? ?_
      cases shown : groups? address with
      | none => simp [shown] at both
      | some parts => rfl
    cases cut : Text.cut? '%' cs with
    | none =>
        rw [cut] at six
        exact grouped six
    | some pair =>
        obtain ⟨address, zone⟩ := pair
        rw [cut] at six
        rw [(Text.cut?_eq_some cut).1]
        exact List.mem_append_left _ (grouped six)

end Address

/-! ## Canonical hosts -/

/-- The forms of a host: a name of characters that stand for themselves, or an address. -/
inductive HostForm (host : List Char) : Prop where
  | name (plain : ∀ c ∈ host, isHostChar c = true)
  | address (six : Address.isVersion6 host = true) (uncut : ∀ c ∈ host, isCut c = false)

/-- What becomes of a host: a name, or the address within brackets. -/
theorem of_canonicalHost {host form : List Char} (read : canonicalHost host = .ok form) :
    (∀ c ∈ form, isHostChar c = true) ∨
      host = '[' :: form ++ [']'] ∧ Address.isVersion6 form = true := by
  unfold canonicalHost at read
  dsimp only at read
  split at read
  · cases read
    exact .inl fun c member => nomatch member
  · split at read
    · split at read
      · next four =>
          cases read
          exact .inl fun c member => (Address.isHostChar_of_isVersion4 four c member).1
      · cases read
    · split at read
      · next bracketed =>
          split at read
          · next six =>
              cases read
              simp only [Bool.and_eq_true, beq_iff_eq, decide_eq_true_eq] at bracketed
              obtain ⟨⟨first, last⟩, long⟩ := bracketed
              refine .inr ⟨?_, six⟩
              obtain ⟨rest, rfl⟩ : ∃ rest, host = '[' :: rest := by
                cases host with
                | nil => cases first
                | cons c rest => exact ⟨rest, by rw [Option.some.inj first]⟩
              have ending : rest.getLast? = some ']' := by
                cases rest with
                | nil => simp at long
                | cons c rest => simpa using last
              obtain ⟨inner, shown⟩ := List.getLast?_eq_some_iff.mp ending
              simp [shown]
          · cases read
      · split at read
        · cases read
          exact .inl (safe_requote (by decide) isHostChar_of_isHexDigit _)
        · split at read
          · next encoded =>
              cases read
              refine .inl fun c member => ?_
              rcases Idna.of_encode encoded c member with letter | rfl
              · exact isHostChar_of_isLabelChar letter
              · decide
          · cases read

/-- Reading a name again puts it in small letters. -/
theorem canonicalHost_of_name {host : List Char} (plain : ∀ c ∈ host, isHostChar c = true)
    (legible : Address.looksLikeVersion4 host = true → Address.isVersion4 host = true) :
    canonicalHost host = .ok (host.map Char.toLower) := by
  unfold canonicalHost
  dsimp only
  split
  · next none => rw [List.isEmpty_iff.mp none]; rfl
  · next some =>
      split
      · next looks =>
          have four := legible looks
          rw [if_pos four, List.map_congr_left (g := id)
            fun c member => (Address.isHostChar_of_isVersion4 four c member).2, List.map_id]
      · have unbracketed : host.head? ≠ Option.some '[' := by
          intro first
          obtain ⟨c, rest, rfl⟩ := List.exists_cons_of_ne_nil
            (show host ≠ [] from fun none => some (List.isEmpty_iff.mpr none))
          exact (of_isHostChar (plain c List.mem_cons_self)).2.1 (Option.some.inj first)
        have ascii : Idna.isAscii host = true := by
          simpa [Idna.isAscii] using fun c member => ascii_of_isHostChar (plain c member)
        have small : ∀ c ∈ host.map Char.toLower, isHostChar c = true := by
          intro c member
          obtain ⟨d, among, rfl⟩ := List.mem_map.mp member
          exact (of_isHostChar (plain d among)).2.2.2
        rw [if_neg (by simp [unbracketed]), if_pos ascii, requote_of_safe (by decide) small]

theorem canonicalHost_of_illegible {host : List Char}
    (looks : Address.looksLikeVersion4 host = true) (none : Address.isVersion4 host = false) :
    canonicalHost host = .error (.badAddress4 (String.ofList host)) := by
  have some : host.isEmpty = false := by
    cases host with
    | nil => cases looks
    | cons => rfl
  unfold canonicalHost
  dsimp only
  rw [some, if_neg (by simp), if_pos looks, none, if_neg (by simp)]

theorem canonicalHost_of_address {host : List Char} (six : Address.isVersion6 host = true) :
    canonicalHost ('[' :: host ++ [']']) = .ok host := by
  unfold canonicalHost
  dsimp only
  have last : ('[' :: (host ++ [']'])).getLast? = some ']' := by
    rw [← List.cons_append, List.getLast?_concat]
  rw [List.cons_append, List.isEmpty_cons, if_neg (by simp),
    Address.not_looksLikeVersion4_bracket, if_neg (by simp), if_pos (by simp [last])]
  simp [six]

/-! ## Authorities that are read again -/

/-- The host as the authority shows it. -/
def shownHost (url : Url) : List Char :=
  if url.host.toList.contains ':' then '[' :: url.host.toList ++ [']'] else url.host.toList

/-- The port as the authority shows it. -/
def shownPort (url : Url) : List Char :=
  url.port.elim [] Decimal.integerChars

/-- Whether the host is taken for what it is when it is read again. -/
def IsLegible (url : Url) : Prop :=
  ':' ∈ url.host.toList ∨
    (Address.looksLikeVersion4 url.host.toList = true → Address.isVersion4 url.host.toList = true)

variable {url : Url}

/-- The port as the authority holds it, with the colon in front. -/
def portPart (url : Url) : List Char :=
  url.port.elim [] fun port => ':' :: Decimal.integerChars port

theorem toList_netloc (url : Url) : url.netloc.toList = url.shownHost ++ url.portPart := by
  rw [netloc, String.toList_append, shownHost, portPart]
  congr 1
  · split
    · simp [String.toList_append]
    · rfl
  · cases url.port with
    | none => rfl
    | some port => simp [Decimal.integerText, String.toList_append]

theorem bracket_not_mem_portPart (url : Url) : ']' ∉ url.portPart := by
  rw [portPart]
  cases url.port with
  | none => simp
  | some port =>
      intro member
      rcases List.mem_cons.mp member with colon | later
      · exact absurd colon (by decide)
      · cases port with
        | ofNat n => exact absurd (Decimal.isDigit_of_mem_digits later) (by decide)
        | negSucc n =>
            rcases List.mem_cons.mp later with sign | digit
            · exact absurd sign (by decide)
            · exact absurd (Decimal.isDigit_of_mem_digits digit) (by decide)

theorem shownPort_of_portPart (url : Url) :
    (match url.portPart with
      | ':' :: port => port
      | _ => url.portPart) = url.shownPort := by
  rw [portPart, shownPort]
  cases url.port <;> rfl

/-- A name does not hold the marks of an address, and an address does. -/
theorem HostForm.name_of_not_contains {host : List Char} (form : HostForm host)
    (colonless : host.contains ':' = false) : ∀ c ∈ host, isHostChar c = true := by
  cases form with
  | name plain => exact plain
  | address six uncut =>
      have colon := List.contains_iff_mem.mpr (Address.colon_mem_of_isVersion6 six)
      rw [colonless] at colon
      cases colon

theorem HostForm.address_of_contains {host : List Char} (form : HostForm host)
    (colon : host.contains ':' = true) :
    Address.isVersion6 host = true ∧ ∀ c ∈ host, isCut c = false := by
  cases form with
  | address six uncut => exact ⟨six, uncut⟩
  | name plain =>
      have member := List.contains_iff_mem.mp colon
      exact absurd rfl (of_isHostChar (plain _ member)).1

theorem HostForm.uncut {host : List Char} (form : HostForm host) :
    ∀ c ∈ host, isCut c = false := by
  cases form with
  | address six uncut => exact uncut
  | name plain => exact fun c member => (of_isHostChar (plain c member)).2.2.1

theorem HostForm.at_not_mem {host : List Char} (form : HostForm host) : '@' ∉ host := by
  intro member
  exact absurd (form.uncut _ member) (by decide)

theorem cutLast?_authority (form : HostForm url.host.toList) :
    (Text.cutLast? '@' url.authority.toList).getD ([], url.authority.toList) =
      (url.userinfo.toList, url.netloc.toList) := by
  have absent := at_not_mem_netloc form.at_not_mem
  by_cases empty : url.userinfo = ""
  · have shown : url.authority.toList = url.netloc.toList := by simp [Url.authority, empty]
    rw [shown, Text.cutLast?_of_not_mem absent, empty]
    rfl
  · have shown : url.authority.toList = url.userinfo.toList ++ '@' :: url.netloc.toList := by
      simp [Url.authority, empty, String.toList_append]
    rw [shown, Text.cutLast?_append _ absent]
    rfl

/-- The host ends at a bracket if it starts with one, and at a colon otherwise. -/
theorem splitHost_netloc (form : HostForm url.host.toList) :
    ((if url.netloc.toList.head? == some '[' then
        (Text.cutLast? ']' url.netloc.toList).map fun cut => (cut.1 ++ [']'], cut.2)
      else none).getD (url.netloc.toList.takeWhile (· != ':'),
        url.netloc.toList.dropWhile (· != ':'))) = (url.shownHost, url.portPart) := by
  rw [toList_netloc]
  cases colon : url.host.toList.contains ':' with
  | true =>
      have bracketed : url.shownHost = '[' :: url.host.toList ++ [']'] := if_pos colon
      have whole : url.shownHost ++ url.portPart =
          ('[' :: url.host.toList) ++ ']' :: url.portPart := by simp [bracketed]
      rw [whole, if_pos (by simp), Text.cutLast?_append _ (bracket_not_mem_portPart url),
        bracketed]
      rfl
  | false =>
      have plain := form.name_of_not_contains colon
      have named : url.shownHost = url.host.toList :=
        if_neg (by rw [colon]; exact Bool.false_ne_true)
      have unmarked : ∀ c ∈ url.host.toList, (c != ':') = true := by
        intro c member
        simpa using (of_isHostChar (plain c member)).1
      have first : (url.host.toList ++ url.portPart).head? ≠ some '[' := by
        cases host : url.host.toList with
        | nil =>
            rw [List.nil_append, portPart]
            cases url.port <;> simp
        | cons c rest =>
            have apart := (of_isHostChar (plain c (by simp [host]))).2.1
            simpa using apart
      have stops : url.portPart.takeWhile (· != ':') = [] ∧
          url.portPart.dropWhile (· != ':') = url.portPart := by
        rw [portPart]
        cases url.port <;> simp
      rw [named, if_neg (by simpa using first), Option.getD_none,
        List.takeWhile_append_of_pos unmarked, List.dropWhile_append_of_pos unmarked, stops.1,
        stops.2, List.append_nil]

/-- What is read from the authority of a URL is what it was put together from. -/
theorem authority_ofChars (form : HostForm url.host.toList) :
    Authority.ofChars url.authority.toList =
      ⟨url.userinfo.toList, url.shownHost, url.shownPort⟩ := by
  unfold Authority.ofChars
  rw [cutLast?_authority form]
  dsimp only
  rw [splitHost_netloc form]
  exact congrArg _ (shownPort_of_portPart url)

theorem canonicalHost_shownHost (form : HostForm url.host.toList) (legible : url.IsLegible) :
    canonicalHost url.shownHost =
      .ok (if url.host.toList.contains ':' then url.host.toList
        else url.host.toList.map Char.toLower) := by
  cases colon : url.host.toList.contains ':' with
  | true =>
      rw [shownHost, if_pos colon, if_pos rfl]
      exact canonicalHost_of_address (form.address_of_contains colon).1
  | false =>
      rw [shownHost, if_neg (by rw [colon]; exact Bool.false_ne_true), if_neg Bool.false_ne_true]
      refine canonicalHost_of_name (form.name_of_not_contains colon) ?_
      rcases legible with member | looks
      · rw [List.contains_iff_mem.mpr member] at colon
        cases colon
      · exact looks

/-- A host that is not legible is refused. -/
theorem canonicalHost_of_not_isLegible (illegible : ¬ url.IsLegible) :
    canonicalHost url.shownHost = .error (.badAddress4 url.host) := by
  rw [IsLegible, not_or, Classical.not_imp] at illegible
  obtain ⟨colonless, looks, none⟩ := illegible
  rw [shownHost, if_neg (by simpa using colonless),
    canonicalHost_of_illegible looks (by simpa using none), String.ofList_toList]

end BucketRegion.Url

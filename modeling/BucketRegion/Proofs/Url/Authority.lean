import BucketRegion.Endpoint
import BucketRegion.Proofs.Decimal
import BucketRegion.Proofs.Except
import BucketRegion.Proofs.Text.Split

/-!
# Authorities

The user information of a URL in canonical form is in the text of its authority as it stands, and
is read from there as it stands. So it is the same after another component of the URL has been
changed, and a location query carries the user information of its endpoint.
-/

set_option autoImplicit false

namespace BucketRegion.Url

/-! ## Quoting -/

section Quoting

variable {safe : Char → Bool}

/-- Quoting leaves text alone that holds safe characters only, if a percent sign is one. -/
theorem requote_of_safe (percent : safe '%' = true) {cs : List Char}
    (quoted : ∀ c ∈ cs, safe c = true) : requote safe cs = cs := by
  fun_induction requote safe cs with
  | case1 a b rest hex ih =>
      rw [ih fun c member => quoted c (by simp [member])]
  | case2 a b rest plain ih =>
      rw [ih fun c member => quoted c (List.mem_cons_of_mem _ member), percent]
      rfl
  | case3 c rest apart ih =>
      rw [ih fun c' member => quoted c' (List.mem_cons_of_mem _ member),
        quoted c List.mem_cons_self]
      rfl
  | case4 => rfl

theorem isHexDigit_hexDigitUpper (n : Nat) (small : n < 16) :
    isHexDigit (Text.hexDigitUpper n) = true := by
  have table : ∀ n < 16, isHexDigit (Text.hexDigitUpper n) = true := by decide
  exact table n small

theorem safe_percentChar (percent : safe '%' = true)
    (hex : ∀ c, isHexDigit c = true → safe c = true) (c : Char) :
    ∀ d ∈ percentChar c, safe d = true := by
  intro d member
  obtain ⟨octet, _, among⟩ := List.mem_flatMap.mp member
  have small : octet.toNat < 256 := octet.toNat_lt
  simp only [percentOctet, List.mem_cons, List.not_mem_nil, or_false] at among
  rcases among with rfl | rfl | rfl
  · exact percent
  · exact hex _ (isHexDigit_hexDigitUpper _ (by omega))
  · exact hex _ (isHexDigit_hexDigitUpper _ (Nat.mod_lt _ (by decide)))

/-- What quoting gives holds safe characters only. -/
theorem safe_requote (percent : safe '%' = true)
    (hex : ∀ c, isHexDigit c = true → safe c = true) (cs : List Char) :
    ∀ d ∈ requote safe cs, safe d = true := by
  have quoted : ∀ c, ∀ d ∈ (if safe c then [c] else percentChar c), safe d = true := by
    intro c d member
    cases safely : safe c with
    | true =>
        rw [safely, if_pos rfl, List.mem_singleton] at member
        rw [member, safely]
    | false =>
        rw [safely, if_neg (by simp)] at member
        exact safe_percentChar percent hex c d member
  fun_induction requote safe cs with
  | case1 a b rest digits ih =>
      obtain ⟨first, second⟩ := Bool.and_eq_true_iff.mp digits
      intro d member
      simp only [List.mem_cons] at member
      rcases member with rfl | rfl | rfl | later
      · exact percent
      · exact hex _ first
      · exact hex _ second
      · exact ih d later
  | case2 a b rest plain ih =>
      intro d member
      rcases List.mem_append.mp member with here | later
      · exact quoted '%' d here
      · exact ih d later
  | case3 c rest apart ih =>
      intro d member
      rcases List.mem_append.mp member with here | later
      · exact quoted c d here
      · exact ih d later
  | case4 => intro d member; cases member

end Quoting

theorem ascii_of_isHexDigit {c : Char} (hex : isHexDigit c = true) : c.toNat < 128 := by
  unfold isHexDigit Text.hexValue? at hex
  simp only [Bool.and_eq_true, decide_eq_true_eq, Char.le_def] at hex
  split at hex
  · next bounds => exact Nat.lt_of_le_of_lt bounds.2 (by decide)
  · split at hex
    · next bounds => exact Nat.lt_of_le_of_lt bounds.2 (by decide)
    · split at hex
      · next bounds => exact Nat.lt_of_le_of_lt bounds.2 (by decide)
      · cases hex

theorem isUserinfoChar_of_isHexDigit (c : Char) (hex : isHexDigit c = true) :
    isUserinfoChar c = true := by
  have table : ∀ n < 128, isHexDigit (Char.ofNat n) = true →
      isUserinfoChar (Char.ofNat n) = true := by decide
  have known := table c.toNat (ascii_of_isHexDigit hex)
  rw [Char.ofNat_toNat] at known
  exact known hex

/-! ## User information -/

/-- Holds of the user information of every URL that has been read or changed. -/
def HasPlainUserinfo (url : Url) : Prop := ∀ c ∈ url.userinfo.toList, isUserinfoChar c = true

variable {url changed : Url} {parts : Parts} {authority : Authority}

theorem userinfo_assemble (assembled : assemble parts authority = .ok url) :
    url.userinfo = String.ofList (requote isUserinfoChar authority.userinfo) := by
  unfold assemble at assembled
  obtain ⟨host, _, assembled⟩ := bind_eq_ok.mp assembled
  obtain ⟨port, _, assembled⟩ := bind_eq_ok.mp assembled
  obtain ⟨_, _, assembled⟩ := bind_eq_ok.mp assembled
  cases assembled
  rfl

theorem hasPlainUserinfo_assemble (assembled : assemble parts authority = .ok url) :
    url.HasPlainUserinfo := by
  rw [HasPlainUserinfo, userinfo_assemble assembled, String.toList_ofList]
  exact safe_requote (by decide) isUserinfoChar_of_isHexDigit _

theorem hasPlainUserinfo_parse {text : String} (read : parse text = .ok url) :
    url.HasPlainUserinfo := by
  unfold parse at read
  dsimp only at read
  split at read
  · cases read
  · split at read
    · cases read
    · exact hasPlainUserinfo_assemble read

theorem at_not_mem_netloc (plain : '@' ∉ url.host.toList) : '@' ∉ url.netloc.toList := by
  rw [netloc, String.toList_append, List.mem_append, not_or]
  constructor
  · split
    · simpa [String.toList_append] using plain
    · exact plain
  · cases url.port with
    | none => simp
    | some port =>
        have digits := Decimal.at_not_mem_integerText port
        simpa [String.toList_append] using digits

/-- What is read from an authority as user information is what was put into it. -/
theorem userinfo_ofChars (plain : '@' ∉ url.host.toList) :
    (Authority.ofChars url.authority.toList).userinfo = url.userinfo.toList := by
  have absent := at_not_mem_netloc plain
  by_cases empty : url.userinfo = ""
  · have shown : url.authority.toList = url.netloc.toList := by simp [Url.authority, empty]
    simp [Authority.ofChars, shown, Text.cutLast?_of_not_mem absent, empty]
  · have shown : url.authority.toList = url.userinfo.toList ++ '@' :: url.netloc.toList := by
      simp [Url.authority, empty, String.toList_append]
    simp [Authority.ofChars, shown, Text.cutLast?_append _ absent]

/-- Changing a component of a URL keeps its user information. -/
theorem userinfo_change {change : Change} (plain : '@' ∉ url.host.toList)
    (canonical : url.HasPlainUserinfo) (done : url.change change = .ok changed) :
    changed.userinfo = url.userinfo := by
  unfold Url.change at done
  dsimp only at done
  obtain ⟨_, _, done⟩ := bind_eq_ok.mp done
  obtain ⟨_, _, done⟩ := bind_eq_ok.mp done
  obtain ⟨_, _, done⟩ := bind_eq_ok.mp done
  obtain ⟨_, _, done⟩ := bind_eq_ok.mp done
  obtain ⟨_, _, done⟩ := bind_eq_ok.mp done
  obtain ⟨_, _, done⟩ := bind_eq_ok.mp done
  rw [userinfo_assemble done, userinfo_ofChars plain,
    requote_of_safe (by decide) canonical, String.ofList_toList]

end BucketRegion.Url

namespace BucketRegion.Endpoint

theorem hasPlainUserinfo_parse {value : Value} {endpoint : Url}
    (accepted : Endpoint.parse value = .ok endpoint) : endpoint.HasPlainUserinfo := by
  unfold Endpoint.parse at accepted
  split at accepted
  · split at accepted
    · cases accepted
    · next text url read =>
        split at accepted
        · cases accepted
        · split at accepted <;> cases accepted
          exact Url.hasPlainUserinfo_parse read
  · cases accepted

/-- Every location query carries the user information of its endpoint. -/
theorem userinfo_locationUrl {value : Value} {endpoint url : Url} {bucket : String}
    (accepted : Endpoint.parse value = .ok endpoint) (plain : '@' ∉ endpoint.host.toList)
    (located : locationUrl endpoint bucket = .ok url) : url.userinfo = endpoint.userinfo :=
  Url.userinfo_change plain (hasPlainUserinfo_parse accepted) located

end BucketRegion.Endpoint

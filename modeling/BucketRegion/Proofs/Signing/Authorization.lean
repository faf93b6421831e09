import BucketRegion.Proofs.Signing
import BucketRegion.Proofs.Text.Case
import BucketRegion.Proofs.Text.Split
import BucketRegion.Proofs.Url.Authority
import BucketRegion.Signing.V4

/-!
# Reading authorizations

An authorization of version 4 is read from its end: what signing writes after the last two labels
has no capital letter, so it has no part of a label. What stands before them may be any text.
-/

set_option autoImplicit false

namespace BucketRegion.Text

section

variable {α : Type} [BEq α]

/-- The parts before and after the last occurrence of a sequence. -/
def cutAtLast? (sep xs : List α) : Option (List α × List α) :=
  (cutAt? sep.reverse xs.reverse).map fun (after, before) => (before.reverse, after.reverse)

theorem cutAt?_of_dropLead? {sep xs rest : List α} (dropped : dropLead? sep xs = some rest) :
    cutAt? sep xs = some ([], rest) := by
  cases xs with
  | cons x xs => rw [cutAt?, dropped]
  | nil =>
      cases sep with
      | nil =>
          cases dropped
          rfl
      | cons first sep => cases dropped

variable [LawfulBEq α] {mark : α}

/-- A sequence with a mark in it is found where it stands, if there is no mark before that. -/
theorem cutAt?_append {lead before : List α} (first : mark ∉ lead) (absent : mark ∉ before)
    (tail after : List α) :
    cutAt? (lead ++ mark :: tail) (before ++ ((lead ++ mark :: tail) ++ after)) =
      some (before, after) := by
  induction before with
  | nil => exact cutAt?_of_dropLead? (dropLead?_append _ _)
  | cons x before ih =>
      have apart : dropLead? (lead ++ mark :: tail)
          (x :: before ++ ((lead ++ mark :: tail) ++ after)) = none := by
        cases dropped : dropLead? (lead ++ mark :: tail)
          (x :: before ++ ((lead ++ mark :: tail) ++ after)) with
        | none => rfl
        | some rest =>
            -- The first mark would stand at two places.
            have whole := eq_of_dropLead? dropped
            have early : mark ∉ x :: before ++ lead := by
              simp only [List.cons_append, List.mem_cons, List.mem_append, not_or] at absent ⊢
              exact ⟨absent.1, absent.2, first⟩
            have left := cut?_append early (tail ++ after)
            have right := cut?_append first (tail ++ rest)
            simp only [List.append_assoc, List.cons_append] at whole left right
            rw [whole, right] at left
            simp only [Option.some.injEq, Prod.mk.injEq] at left
            have sizes := congrArg List.length left.1
            simp only [List.length_cons, List.length_append] at sizes
            omega
      have later := ih fun among => absent (List.mem_cons_of_mem _ among)
      rw [List.cons_append] at apart ⊢
      rw [cutAt?, apart]
      simp only [later, Option.map_some]

theorem cutAtLast?_append {tail after : List α} (last : mark ∉ tail) (absent : mark ∉ after)
    (lead before : List α) :
    cutAtLast? (lead ++ mark :: tail) (before ++ (lead ++ mark :: tail) ++ after) =
      some (before, after) := by
  have sep : (lead ++ mark :: tail).reverse = tail.reverse ++ mark :: lead.reverse := by simp
  have turned : (before ++ (lead ++ mark :: tail) ++ after).reverse =
      after.reverse ++ ((tail.reverse ++ mark :: lead.reverse) ++ before.reverse) := by simp
  have unmarked : mark ∉ tail.reverse := by simpa using last
  have missing : mark ∉ after.reverse := by simpa using absent
  rw [cutAtLast?, sep, turned, cutAt?_append unmarked missing]
  simp

end

theorem mem_intercalate {sep c : Char} {parts : List (List Char)}
    (member : c ∈ [sep].intercalate parts) : c = sep ∨ ∃ part ∈ parts, c ∈ part := by
  obtain ⟨piece, among, inside⟩ := List.mem_flatten.mp member
  clear member
  induction parts with
  | nil => cases among
  | cons part parts ih =>
      cases parts with
      | nil =>
          rw [List.mem_singleton.mp among] at inside
          exact .inr ⟨part, List.mem_cons_self, inside⟩
      | cons next rest =>
          rw [List.intersperse_cons_cons, List.mem_cons, List.mem_cons] at among
          rcases among with rfl | rfl | later
          · exact .inr ⟨piece, List.mem_cons_self, inside⟩
          · exact .inl (List.mem_singleton.mp inside)
          · refine (ih later).imp_right fun found => ?_
            obtain ⟨part, further, within⟩ := found
            exact ⟨part, List.mem_cons_of_mem _ further, within⟩

theorem not_isUpper_of_mem_hexOctets {octets : List UInt8} {c : Char}
    (member : c ∈ hexOctets octets) : c.isUpper = false := by
  have table : ∀ n < 16, (hexDigit n).isUpper = false := by decide
  obtain ⟨octet, _, digit⟩ := List.mem_flatMap.mp member
  have bound : octet.toNat < 256 := octet.toNat_lt
  simp only [List.mem_cons, List.not_mem_nil, or_false] at digit
  rcases digit with rfl | rfl
  · exact table _ (by omega)
  · exact table _ (by omega)

theorem isAscii_hexOctets (octets : List UInt8) : isAscii (hexOctets octets) = true := by
  have table : ∀ n < 16, (hexDigit n).toNat < 0x80 := by decide
  induction octets with
  | nil => rfl
  | cons octet octets ih =>
      have bound : octet.toNat < 256 := octet.toNat_lt
      have high := table (octet.toNat / 16) (by omega)
      have low := table (octet.toNat % 16) (by omega)
      have rest : isAscii (octets.flatMap fun b =>
          [hexDigit (b.toNat / 16), hexDigit (b.toNat % 16)]) = true := ih
      simp [hexOctets, isAscii_cons, high, low, rest]

end BucketRegion.Text

namespace BucketRegion.Signing.V4

theorem toList_authorization (credentials : Credentials) (region stamp names signature : String) :
    (authorization credentials region stamp names signature).toList =
      ("AWS4-HMAC-SHA256 Credential=" ++ credentials.accessKey ++ "/").toList ++
        ((scope stamp region).toList ++ ", SignedHeaders=".toList ++ names.toList ++
          ", Signature=".toList ++ signature.toList) := by
  unfold authorization
  -- The labels are left closed: their characters do not matter here.
  generalize "AWS4-HMAC-SHA256 Credential=" = lead, ", SignedHeaders=" = headers,
    ", Signature=" = label
  simp only [String.toList_append, List.append_assoc]

/-- What an authorization says: the region that it is good for, the names of the headers that it
covers, and the signature. -/
structure Authorization where
  region : String
  names : List String
  signature : String
  deriving Repr, DecidableEq

namespace Authorization

/-- Reads an authorization with an access key and a time stamp. -/
def read? (accessKey stamp value : String) : Option Authorization := do
  let rest ← Text.dropLead? ("AWS4-HMAC-SHA256 Credential=" ++ accessKey ++ "/").toList value.toList
  let (rest, signature) ← Text.cutAtLast? ", Signature=".toList rest
  let (scope, names) ← Text.cutAtLast? ", SignedHeaders=".toList rest
  let rest ← Text.dropLead? (stamp.toList.take 8 ++ ['/']) scope
  let region ← Text.dropLead? "/s3/aws4_request".toList.reverse rest.reverse
  return ⟨String.ofList region.reverse, (names.splitOn ';').map String.ofList,
    String.ofList signature⟩

/-- What signing writes is read back, if the list of names has no capital S. -/
theorem read?_listed (credentials : Credentials) (region stamp : String)
    {listed signature : String} (small : 'S' ∉ listed.toList) (digits : 'S' ∉ signature.toList) :
    read? credentials.accessKey stamp
      (authorization credentials region stamp listed signature) =
        some ⟨region, (listed.toList.splitOn ';').map String.ofList, signature⟩ := by
  have signatureLabel : ", Signature=".toList = [',', ' '] ++ 'S' :: "ignature=".toList := by
    decide
  have headersLabel : ", SignedHeaders=".toList = [',', ' '] ++ 'S' :: "ignedHeaders=".toList := by
    decide
  have day : (scope stamp region).toList =
      (stamp.toList.take 8 ++ ['/']) ++ (region.toList ++ "/s3/aws4_request".toList) := by
    simp [scope]
  rw [read?, toList_authorization, Text.dropLead?_append]
  simp only [Option.bind_eq_bind, Option.bind_some]
  rw [signatureLabel, Text.cutAtLast?_append (by decide) digits]
  simp only [Option.bind_some]
  rw [headersLabel, Text.cutAtLast?_append (by decide) small]
  simp only [Option.bind_some]
  rw [day, Text.dropLead?_append]
  simp only [Option.bind_some]
  rw [List.reverse_append, Text.dropLead?_append]
  simp

/-- A list of names is read back if no name has a part of the list's form in it. -/
theorem read?_authorization (credentials : Credentials) (region stamp : String)
    {names : List String} {signature : String} (named : names ≠ [])
    (separate : ∀ name ∈ names, ';' ∉ name.toList) (small : ∀ name ∈ names, 'S' ∉ name.toList)
    (digits : 'S' ∉ signature.toList) :
    read? credentials.accessKey stamp
      (authorization credentials region stamp (";".intercalate names) signature) =
        some ⟨region, names, signature⟩ := by
  have listed : (";".intercalate names).toList = [';'].intercalate (names.map String.toList) := by
    rw [String.toList_intercalate]
    rfl
  have apart : 'S' ∉ (";".intercalate names).toList := by
    rw [listed]
    intro member
    rcases Text.mem_intercalate member with sep | ⟨part, among, inside⟩
    · exact absurd sep (by decide)
    · obtain ⟨name, named, rfl⟩ := List.mem_map.mp among
      exact small name named inside
  have parts : (";".intercalate names).toList.splitOn ';' = names.map String.toList := by
    rw [listed]
    apply List.splitOn_intercalate
    · simpa using separate
    · simpa using named
  have same : (names.map String.toList).map String.ofList = names := by simp
  rw [read?_listed credentials region stamp apart digits, parts, same]

end Authorization

end BucketRegion.Signing.V4

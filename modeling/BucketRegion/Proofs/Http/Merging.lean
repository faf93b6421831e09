import BucketRegion.Proofs.Signing.Headers

/-!
# Merged headers

A name that stands on several lines is merged into one entry, where the name stands first, with its
values in order. So merging does not depend on the lines of other names, and it does not tell the
lines of a name from one line with all of their values.

Lines that are set more than once are as they are set last, and the order in which two names are set
does not matter if one of them is there.
-/

set_option autoImplicit false

namespace BucketRegion

/-- Leaving out elements and leaving out repetitions can be done in either order. -/
theorem filter_eraseDups {α : Type} [BEq α] [LawfulBEq α] (keep : α → Bool) (xs : List α) :
    xs.eraseDups.filter keep = (xs.filter keep).eraseDups := by
  match xs with
  | [] => rfl
  | x :: xs =>
      have shorter := List.length_filter_le (fun y => !y == x) xs
      have later := filter_eraseDups keep (xs.filter fun y => !y == x)
      rw [List.filter_filter] at later
      rw [List.eraseDups_cons]
      cases kept : keep x with
      | true =>
          rw [List.filter_cons_of_pos kept, List.filter_cons_of_pos kept, List.eraseDups_cons,
            List.filter_filter, later]
          simp only [Bool.and_comm]
      | false =>
          have others : ∀ y ∈ xs, (keep y && !y == x) = keep y := by
            intro y _
            by_cases same : y = x
            · simp [same, kept]
            · simp [same]
          rw [List.filter_cons_of_neg (by simp [kept]), List.filter_cons_of_neg (by simp [kept]),
            later, List.filter_congr others]
termination_by xs.length
decreasing_by simp only [List.length_cons]; omega

namespace Http.Headers

variable {name other value : String}

/-! ## Lines that are set again -/

/-- What was set before is of no matter. -/
theorem putLine_putLine (name first second : String) (lines : List (String × String)) :
    putLine name second (putLine name first lines) = putLine name second lines := by
  induction lines with
  | nil => simp [putLine]
  | cons line lines ih =>
      obtain ⟨held, old⟩ := line
      by_cases same : held = name
      · subst same
        simp [putLine_cons_self, List.filter_filter]
      · rw [putLine_cons_of_ne same, putLine_cons_of_ne same, putLine_cons_of_ne same, ih]

/-- Where a name is there already, setting it does not move a line that is set as well. -/
theorem putLine_comm {lines : List (String × String)} (different : name ≠ other)
    (present : lines.any (fun line => line.1 == other) = true) (value value' : String) :
    putLine other value' (putLine name value lines) =
      putLine name value (putLine other value' lines) := by
  have apart : (other != name) = true := by simpa using fun same => different (Eq.symm same)
  have apart' : (name != other) = true := by simpa using different
  induction lines with
  | nil => cases present
  | cons line lines ih =>
      obtain ⟨held, old⟩ := line
      by_cases first : held = name
      · subst first
        rw [putLine_cons_self, putLine_cons_of_ne different, putLine_cons_of_ne different,
          putLine_cons_self, filter_putLine_of_kept (fun name => name != held) apart]
      · by_cases second : held = other
        · subst second
          rw [putLine_cons_of_ne first, putLine_cons_self, putLine_cons_self,
            putLine_cons_of_ne first, filter_putLine_of_kept (fun name => name != held) apart']
        · have later : lines.any (fun line => line.1 == other) = true := by
            simpa [second] using present
          rw [putLine_cons_of_ne first, putLine_cons_of_ne second, putLine_cons_of_ne second,
            putLine_cons_of_ne first, ih later]

/-! ## Merging -/

variable {lines : List (String × String)} {asciiOnly : Bool}

theorem merged_concat (name value : String) :
    merged ⟨lines ++ [(name, value)], asciiOnly⟩ =
      match (merged ⟨lines, asciiOnly⟩).lookup name with
      | some before => (merged ⟨lines, asciiOnly⟩).map fun entry =>
          if entry.1 == name then (name, before ++ ", " ++ value) else entry
      | none => merged ⟨lines, asciiOnly⟩ ++ [(name, value)] := by
  rw [merged, List.foldl_append]
  rfl

theorem valuesOf_concat_self (name value : String) :
    valuesOf ⟨lines ++ [(name, value)], asciiOnly⟩ name = valuesOf ⟨lines, asciiOnly⟩ name ++ [value] := by
  simp [valuesOf]

theorem valuesOf_concat_of_ne (different : other ≠ name) (value : String) :
    valuesOf ⟨lines ++ [(other, value)], asciiOnly⟩ name = valuesOf ⟨lines, asciiOnly⟩ name := by
  simp [valuesOf, different]

theorem contains_iff {headers : Headers} :
    headers.contains name = true ↔ name ∈ headers.lines.map (·.1) := by
  simp [contains, List.any_eq_true]

theorem valuesOf_eq_nil_iff {headers : Headers} :
    headers.valuesOf name = [] ↔ name ∉ headers.lines.map (·.1) := by
  simp only [valuesOf, List.map_eq_nil_iff, List.filter_eq_nil_iff, List.mem_map, beq_iff_eq]
  constructor
  · rintro others ⟨line, member, same⟩
    exact others line member same
  · exact fun absent line member same => absent ⟨line, member, same⟩

theorem lookup_map_pair {β : Type} (entry : String → β) (name : String) (names : List String) :
    (names.map fun name => (name, entry name)).lookup name =
      if name ∈ names then some (entry name) else none := by
  induction names with
  | nil => rfl
  | cons first names ih =>
      rw [List.map_cons, List.lookup_cons, ih]
      by_cases same : name = first
      · simp [same]
      · simp [same, beq_eq_false_iff_ne.mpr same]

/-- One entry a name, in the order in which the names stand first. -/
theorem merged_eq (headers : Headers) :
    headers.merged = (headers.lines.map (·.1)).eraseDups.map fun name =>
      (name, ", ".intercalate (headers.valuesOf name)) := by
  obtain ⟨lines, asciiOnly⟩ := headers
  -- Merging goes from the left, so the last line meets the entries of all the others.
  induction lines using List.reverseRecOn with
  | nil => rfl
  | append_singleton lines line ih =>
      obtain ⟨name, value⟩ := line
      have others : ∀ other ∈ (lines.map (·.1)).eraseDups, other ≠ name →
          (other, ", ".intercalate (valuesOf ⟨lines ++ [(name, value)], asciiOnly⟩ other)) =
            (other, ", ".intercalate (valuesOf ⟨lines, asciiOnly⟩ other)) := fun other _ apart => by
        rw [valuesOf_concat_of_ne (Ne.symm apart)]
      rw [merged_concat, ih, lookup_map_pair, List.map_append, List.eraseDups_append]
      by_cases known : name ∈ lines.map (·.1)
      · have values : valuesOf ⟨lines, asciiOnly⟩ name ≠ [] :=
          mt valuesOf_eq_nil_iff.mp (not_not.mpr known)
        have again : ([(name, value)].map (·.1)).removeAll (lines.map (·.1)) = [] := by
          simpa [List.removeAll] using known
        rw [if_pos (List.mem_eraseDups.mpr known), again, List.eraseDups_nil, List.append_nil]
        dsimp only
        rw [List.map_map]
        refine List.map_congr_left fun other member => ?_
        by_cases same : other = name
        · subst same
          rw [valuesOf_concat_self,
            String.intercalate_append_of_ne_nil values (List.cons_ne_nil _ _)]
          simp
        · rw [others other member same]
          simp [same]
      · have fresh : ([(name, value)].map (·.1)).removeAll (lines.map (·.1)) = [name] := by
          simpa [List.removeAll] using known
        have unheld : valuesOf ⟨lines, asciiOnly⟩ name = [] := valuesOf_eq_nil_iff.mpr known
        rw [if_neg (mt List.mem_eraseDups.mp known), fresh, List.map_append]
        dsimp only
        congr 1
        · refine List.map_congr_left fun other member => (others other member ?_).symm
          rintro rfl
          exact known (List.mem_eraseDups.mp member)
        · simp [valuesOf_concat_self, unheld, List.eraseDups_cons]

theorem valuesOf_filter {keep : String → Bool} (kept : keep name = true) :
    valuesOf ⟨lines.filter fun line => keep line.1, asciiOnly⟩ name =
      valuesOf ⟨lines, asciiOnly⟩ name := by
  rw [valuesOf, List.filter_filter, valuesOf]
  refine congrArg (List.map _) (List.filter_congr fun line _ => ?_)
  by_cases same : line.1 = name
  · simp [same, kept]
  · simp [same]

/-- The entries of some names depend on the lines of these names only. -/
theorem filter_merged (keep : String → Bool) (headers : Headers) :
    headers.merged.filter (fun line => keep line.1) =
      merged ⟨headers.lines.filter fun line => keep line.1, headers.asciiOnly⟩ := by
  have names : (headers.lines.filter fun line => keep line.1).map (·.1) =
      (headers.lines.map (·.1)).filter keep := by
    rw [List.filter_map]
    rfl
  rw [merged_eq, merged_eq, List.filter_map, names, ← filter_eraseDups]
  refine List.map_congr_left fun name member => ?_
  have kept : keep name = true := (List.mem_filter.mp member).2
  rw [valuesOf_filter kept]

/-! ## Lines that are joined -/

/-- The headers with one line in the place of all lines of a name: it has their values, with a
separator between them. -/
def joined (sep name : String) (headers : Headers) : Headers :=
  { headers with lines := putLine name (sep.intercalate (headers.valuesOf name)) headers.lines }

theorem valuesOf_putLine (name value : String) :
    valuesOf ⟨putLine name value lines, asciiOnly⟩ name = [value] := by
  rw [valuesOf, filter_putLine]
  rfl

theorem valuesOf_putLine_of_ne (different : other ≠ name) (value : String) :
    valuesOf ⟨putLine name value lines, asciiOnly⟩ other = valuesOf ⟨lines, asciiOnly⟩ other := by
  have dropped : (name == other) = false := by simpa using fun same => different (Eq.symm same)
  rw [valuesOf, filter_putLine_of_other (fun held => held == other) dropped, valuesOf]

theorem eraseDups_names_putLine (there : name ∈ lines.map (·.1)) (value : String) :
    ((putLine name value lines).map (·.1)).eraseDups = (lines.map (·.1)).eraseDups := by
  induction lines with
  | nil => cases there
  | cons line lines ih =>
      obtain ⟨held, old⟩ := line
      by_cases same : held = name
      · subst same
        have others : (lines.filter fun line => line.1 != held).map (·.1) =
            (lines.map (·.1)).filter fun name => name != held := by
          rw [List.filter_map]
          rfl
        rw [putLine_cons_self, List.map_cons, List.map_cons, List.eraseDups_cons,
          List.eraseDups_cons, others, List.filter_filter]
        simp [bne]
      · have later : name ∈ lines.map (·.1) := by simpa [Ne.symm same] using there
        rw [putLine_cons_of_ne same, List.map_cons, List.map_cons, List.eraseDups_cons,
          List.eraseDups_cons, ← filter_eraseDups, ih later, filter_eraseDups]

/-- Merging joins the values of a name itself. -/
theorem merged_joined {headers : Headers} (there : headers.contains name = true) :
    (headers.joined ", " name).merged = headers.merged := by
  have member : name ∈ headers.lines.map (·.1) := by
    obtain ⟨line, among, same⟩ := List.any_eq_true.mp there
    exact List.mem_map.mpr ⟨line, among, eq_of_beq same⟩
  rw [merged_eq, merged_eq, joined, eraseDups_names_putLine member]
  refine List.map_congr_left fun other _ => ?_
  by_cases same : other = name
  · rw [same, valuesOf_putLine]
    simp
  · rw [valuesOf_putLine_of_ne same]

end Http.Headers

end BucketRegion

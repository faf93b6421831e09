import BucketRegion.Location
import BucketRegion.Region
import Mathlib.Data.List.DropRight

/-!
# Regions that documents name

The constraint of a location document has no blanks around it, so the region that it stands for has
none either. Such a region is neither empty nor the old name of Ireland, and stands for itself.
-/

set_option autoImplicit false

namespace BucketRegion.Text

/-- Text with no blank at either end. -/
def IsBare (s : String) : Prop :=
  ∀ c, s.toList.head? = some c ∨ s.toList.getLast? = some c → isBlank c = false

section Trimming

variable {α : Type}

theorem getLast?_dropEndWhile (p : α → Bool) (xs : List α) (x : α)
    (last : (dropEndWhile p xs).getLast? = some x) : p x = false := by
  have reversed : (xs.reverse.dropWhile p).head? = some x := by
    simpa [dropEndWhile, List.getLast?_reverse] using last
  have boundary := List.head?_dropWhile_not p xs.reverse
  simpa [reversed] using boundary

theorem head?_dropEndWhile (p : α → Bool) (xs : List α) (x : α)
    (first : (dropEndWhile p xs).head? = some x) : xs.head? = some x := by
  have lead : dropEndWhile p xs <+: xs := List.rdropWhile_prefix p xs
  obtain ⟨rest, whole⟩ := lead
  rw [← whole, List.head?_append, first]
  rfl

theorem head?_trimWhile (p : α → Bool) (xs : List α) (x : α)
    (first : (trimWhile p xs).head? = some x) : p x = false := by
  have before := head?_dropEndWhile p (xs.dropWhile p) x first
  have boundary := List.head?_dropWhile_not p xs
  simpa [before] using boundary

end Trimming

theorem isBare_trim (s : String) : IsBare (trim s) := by
  intro c atEnd
  have shown : (trim s).toList = trimWhile isBlank s.toList := by simp [trim]
  rw [shown] at atEnd
  rcases atEnd with first | last
  · exact head?_trimWhile isBlank s.toList c first
  · exact getLast?_dropEndWhile isBlank _ c last

theorem isBare_of_trim_eq {s : String} (same : trim s = s) : IsBare s :=
  same ▸ isBare_trim s

end BucketRegion.Text

namespace BucketRegion.Location

/-- A constraint that was read from a document has no blanks around it. -/
theorem isBare_of_decode {body : Bytes} {bucket constraint : String}
    (decoded : decode body bucket = .ok constraint) : Text.IsBare constraint := by
  unfold decode at decoded
  split at decoded
  · cases decoded
    intro c atEnd
    simp at atEnd
  · split at decoded
    · cases decoded
      exact Text.isBare_trim _
    · split at decoded <;> cases decoded

end BucketRegion.Location

namespace BucketRegion.Region

/-- A region as the cache holds it: it is named, not by the old name of Ireland, without blanks
around it, and stands for itself. -/
structure IsSettled (region : String) : Prop where
  nonempty : region ≠ ""
  notLegacy : region ≠ "EU"
  bare : Text.IsBare region
  fixed : ofConstraint region = region

theorem ofConstraint_eq_self {constraint : String} (named : constraint ≠ "")
    (current : constraint ≠ "EU") : ofConstraint constraint = constraint := by
  simp [ofConstraint, named, current]

theorem isSettled_default : IsSettled default :=
  ⟨by decide, by decide, Text.isBare_of_trim_eq (by decide), by decide⟩

theorem isSettled_ofConstraint {constraint : String} (bare : Text.IsBare constraint) :
    IsSettled (ofConstraint constraint) := by
  by_cases unnamed : constraint = ""
  · subst unnamed
    exact isSettled_default
  · by_cases legacy : constraint = "EU"
    · subst legacy
      exact ⟨by decide, by decide, Text.isBare_of_trim_eq (by decide), by decide⟩
    · rw [ofConstraint_eq_self unnamed legacy]
      exact ⟨unnamed, legacy, bare, ofConstraint_eq_self unnamed legacy⟩

end BucketRegion.Region

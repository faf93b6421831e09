import Mathlib.Algebra.BigOperators.Group.List.Basic
import Mathlib.Data.List.GetD

/-!
# Values at places

Lists that have a value at every place: where there is no element, a default one. What stands at a
place, and what stands there after another value has been put at one place.
-/

set_option autoImplicit false

namespace BucketRegion

variable {α : Type} {xs : List α} {i : Nat} {x old default : α}

theorem getD_of_getElem? (there : xs[i]? = some x) : xs.getD i default = x := by
  rw [List.getD_eq_getElem?_getD, there]
  rfl

theorem getElem?_of_getD (stands : xs.getD i default = x) (inside : x ≠ default) :
    xs[i]? = some x := by
  rw [List.getD_eq_getElem?_getD] at stands
  cases there : xs[i]? with
  | none =>
      rw [there] at stands
      exact absurd stands.symm inside
  | some held =>
      rw [there] at stands
      exact congrArg some stands

/-- A place within the list holds its value even if that is the default one. -/
theorem getElem?_of_getD_of_lt (within : i < xs.length) (stands : xs.getD i default = x) :
    xs[i]? = some x := by
  rw [List.getD_eq_getElem?_getD, List.getElem?_eq_getElem within] at stands
  rw [List.getElem?_eq_getElem within]
  exact congrArg some stands

theorem getElem?_put (there : xs[i]? = some old) (new : α) (j : Nat) :
    (xs.set i new)[j]? = if j = i then some new else xs[j]? := by
  have within : i < xs.length := (List.getElem?_eq_some_iff.mp there).1
  rw [List.getElem?_set]
  by_cases same : i = j
  · subst same
    simp [within]
  · have different : ¬ j = i := fun equal => same equal.symm
    simp [same, different]

theorem getD_put (there : xs[i]? = some old) (new : α) (j : Nat) :
    (xs.set i new).getD j default = if j = i then new else xs.getD j default := by
  rw [List.getD_eq_getElem?_getD, getElem?_put there]
  split
  · rfl
  · exact List.getD_eq_getElem?_getD.symm

/-- Putting a value at one place changes a sum over all places by what the two values count for. -/
theorem sum_map_put {β : Type} [AddCommMonoid β] (weight : α → β) (there : xs[i]? = some old)
    (new : α) :
    ((xs.set i new).map weight).sum + weight old = (xs.map weight).sum + weight new := by
  induction xs generalizing i with
  | nil => cases there
  | cons first rest ih =>
      cases i with
      | zero =>
          cases there
          simp only [List.set_cons_zero, List.map_cons, List.sum_cons]
          rw [add_right_comm, add_comm (weight new), add_right_comm]
      | succ i =>
          have later := ih there
          simp only [List.set_cons_succ, List.map_cons, List.sum_cons, add_assoc, later]

theorem getD_replicate_default (n i : Nat) (default : α) :
    (List.replicate n default).getD i default = default := by
  rw [List.getD_eq_getElem?_getD]
  exact List.getElem?_getD_replicate_default_eq default n i

end BucketRegion

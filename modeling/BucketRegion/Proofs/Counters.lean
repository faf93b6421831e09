import Mathlib.Algebra.BigOperators.Group.List.Basic
import Mathlib.Algebra.Ring.Int.Defs
import BucketRegion.Counters
import BucketRegion.Http.Status
import BucketRegion.Proofs.Client.Failure
import BucketRegion.Proofs.Decimal

/-!
# Laws of counters

What counting does to one count and to a sum of counts, and which names answers are counted under.
-/

set_option autoImplicit false

namespace BucketRegion

namespace Decimal

theorem integerText_injective {j k : Int} (same : integerText j = integerText k) : j = k := by
  have chars : integerChars j = integerChars k := by
    simpa [integerText] using congrArg String.toList same
  have parts := congrArg splitSign chars
  rw [splitSign_integerChars, splitSign_integerChars] at parts
  obtain ⟨sign, digits⟩ := Prod.mk.inj parts
  have size : j.natAbs = k.natAbs := by
    rw [← valueOf_digits j.natAbs, digits, valueOf_digits]
  have signs : j < 0 ↔ k < 0 := decide_eq_decide.mp sign
  omega

theorem integerText_two : integerText 2 = "2" := by
  rw [integerText, show (2 : Int) = .ofNat 2 from rfl, integerChars, digits]
  rfl

end Decimal

namespace Counters

variable {c : Counters} {name other : String}

def sumOf (which : String → Bool) (c : Counters) : Int :=
  ((c.entries.filter fun entry => which entry.1).map (·.2)).sum

theorem sumOf_put (which : String → Bool) (name : String) (amount : Int)
    (entries : List (String × Int)) :
    sumOf which ⟨Fields.put name ((Fields.get? name entries).getD 0 + amount) entries⟩ =
      sumOf which ⟨entries⟩ + if which name then amount else 0 := by
  unfold sumOf
  induction entries with
  | nil => cases counted : which name <;> simp [Fields.put, Fields.get?, counted]
  | cons entry entries ih =>
      obtain ⟨held, count⟩ := entry
      rw [Fields.get?_cons]
      by_cases same : held = name
      · subst same
        cases counted : which held with
        | false => simp [Fields.put, counted]
        | true =>
            simp [Fields.put, counted]
            omega
      · have different : (held == name) = false := by simpa using same
        have apart : name ≠ held := fun equal => same equal.symm
        rw [if_neg apart]
        simp only [Fields.put, different, Bool.false_eq_true, if_false, List.filter_cons] at ih ⊢
        cases which held with
        | false => exact ih
        | true =>
            simp only [if_true, List.map_cons, List.sum_cons, ih]
            omega

@[simp] theorem sumOf_incr (which : String → Bool) (c : Counters) (name : String) :
    (c.incr name).sumOf which = c.sumOf which + if which name then 1 else 0 :=
  sumOf_put which name 1 c.entries

/-- Whether a name is one under which answers are counted by their status. -/
def isStatusName (name : String) : Bool :=
  "http_".toList.isPrefixOf name.toList && "xx".toList.isSuffixOf name.toList

/-- The name under which the answers of a class of statuses are counted. -/
def className (k : Int) : String := "http_" ++ Decimal.integerText k ++ "xx"

theorem statusName_eq (status : Int) : statusName status = className (status.fdiv 100) := rfl

theorem isStatusName_className (k : Int) : isStatusName (className k) = true := by
  have start : "http_".toList <+: (className k).toList := by
    simp only [className, String.toList_append, List.append_assoc]
    exact List.prefix_append _ _
  have ending : "xx".toList <:+ (className k).toList := by
    simp only [className, String.toList_append]
    exact List.suffix_append _ _
  simp only [isStatusName, Bool.and_eq_true]
  exact ⟨List.isPrefixOf_iff_prefix.mpr start, List.isSuffixOf_iff_suffix.mpr ending⟩

@[simp] theorem isStatusName_statusName (status : Int) :
    isStatusName (statusName status) = true :=
  isStatusName_className (status.fdiv 100)

theorem className_injective {j k : Int} (same : className j = className k) : j = k := by
  have chars := congrArg String.toList same
  simp only [className, String.toList_append] at chars
  exact Decimal.integerText_injective
    (String.toList_inj.mp (List.append_cancel_left (List.append_cancel_right chars)))

theorem get_incr_of_status (named : isStatusName name = true)
    (different : isStatusName other = false) : (c.incr name).get other = c.get other := by
  have apart : other ≠ name := by
    rintro rfl
    rw [named] at different
    cases different
  rw [get_incr, if_neg apart]

/-- A name that does not look like a class of statuses is none. -/
theorem ne_className (plain : isStatusName name = false) (k : Int) : name ≠ className k := by
  rintro rfl
  rw [isStatusName_className] at plain
  cases plain

theorem className_two : className 2 = "http_2xx" := by
  rw [className, Decimal.integerText_two]
  decide

/-- The count of successes is that of the statuses that stand for success. -/
theorem statusName_eq_iff (status : Int) :
    statusName status = "http_2xx" ↔ Http.isSuccess status = true := by
  have named : statusName status = "http_2xx" ↔ status.fdiv 100 = 2 := by
    rw [← className_two, statusName_eq]
    exact ⟨className_injective, fun same => congrArg className same⟩
  rw [named, Http.isSuccess, Int.fdiv_eq_ediv_of_nonneg _ (by decide)]
  simp only [Bool.and_eq_true, decide_eq_true_eq]
  omega

/-! ## Adding amounts one after the other -/

theorem get_add (c : Counters) (name other : String) (amount : Int) :
    (c.add name amount).get other = c.get other + if other = name then amount else 0 := by
  simp only [get, add, Fields.get?_put]
  split
  · next same =>
      subst same
      rfl
  · simp

/-- The names that are counted, in order of first use. -/
def names (c : Counters) : List String := Fields.keys c.entries

theorem names_add (c : Counters) (name : String) (amount : Int) :
    (c.add name amount).names = if name ∈ c.names then c.names else c.names ++ [name] :=
  Fields.keys_put name _ c.entries

def addAll (c : Counters) (amounts : List (String × Int)) : Counters :=
  amounts.foldl (fun c (name, amount) => c.add name amount) c

@[simp] theorem addAll_nil (c : Counters) : c.addAll [] = c := rfl

@[simp] theorem addAll_concat (c : Counters) (amounts : List (String × Int)) (name : String)
    (amount : Int) : c.addAll (amounts ++ [(name, amount)]) = (c.addAll amounts).add name amount := by
  rw [addAll, List.foldl_append]
  rfl

/-- The sum of the amounts for a name. -/
def total (name : String) (amounts : List (String × Int)) : Int :=
  ((amounts.filter (·.1 == name)).map (·.2)).sum

/-- Each count goes up by the amounts for its name, and by nothing else. -/
theorem get_addAll (c : Counters) (amounts : List (String × Int)) (name : String) :
    (c.addAll amounts).get name = c.get name + total name amounts := by
  induction amounts using List.reverseRecOn with
  | nil => simp [total]
  | append_singleton amounts last ih =>
      obtain ⟨other, amount⟩ := last
      rw [addAll_concat, get_add, ih, total, total, List.filter_append, List.map_append,
        List.sum_append]
      by_cases same : name = other
      · subst same
        simp
        omega
      · have different : (other == name) = false := by simpa using Ne.symm same
        simp [same, different]

theorem mem_names_addAll (c : Counters) (amounts : List (String × Int)) (name : String) :
    name ∈ (c.addAll amounts).names ↔ name ∈ c.names ∨ name ∈ amounts.map (·.1) := by
  induction amounts using List.reverseRecOn with
  | nil => simp
  | append_singleton amounts last ih =>
      obtain ⟨other, amount⟩ := last
      rw [addAll_concat, names_add, List.map_append, List.mem_append, ← or_assoc, ← ih]
      by_cases same : name = other
      · subst same
        split
        · next there => simp [there]
        · simp
      · split <;> simp [same]

theorem nodup_names_addAll {c : Counters} (unique : c.names.Nodup)
    (amounts : List (String × Int)) : (c.addAll amounts).names.Nodup := by
  induction amounts using List.reverseRecOn with
  | nil => exact unique
  | append_singleton amounts last ih =>
      rw [addAll_concat]
      exact Fields.nodup_keys_put ih

theorem nodup_names_initial : initial.names.Nodup := by decide

/-- At the start every count is zero. -/
theorem get_initial (name : String) : initial.get name = 0 := by
  have zero : ∀ names : List String,
      (Fields.get? name (names.map fun counted => (counted, (0 : Int)))).getD 0 = 0 := by
    intro names
    induction names with
    | nil => rfl
    | cons first names ih =>
        rw [List.map_cons, Fields.get?_cons]
        split
        · rfl
        · exact ih
  exact zero lookupNames

theorem total_perm {amounts others : List (String × Int)} (perm : amounts.Perm others)
    (name : String) : total name amounts = total name others :=
  ((perm.filter _).map _).sum_eq

/-- Entries that are the sums of some amounts: one for each name that is counted from the start or
that one of the amounts is for. -/
structure Sums (entries amounts : List (String × Int)) : Prop where
  counts : ∀ name, (⟨entries⟩ : Counters).get name = total name amounts
  names : ∀ name, name ∈ Fields.keys entries ↔
    name ∈ lookupNames ∨ name ∈ amounts.map (·.1)
  unique : (Fields.keys entries).Nodup

theorem sums_addAll (amounts : List (String × Int)) :
    Sums (initial.addAll amounts).entries amounts where
  counts name := by
    have added := get_addAll initial amounts name
    rwa [get_initial, zero_add] at added
  names name := mem_names_addAll initial amounts name
  unique := nodup_names_addAll nodup_names_initial amounts

theorem Sums.perm {entries amounts others : List (String × Int)} (sums : Sums entries amounts)
    (perm : amounts.Perm others) : Sums entries others where
  counts name := (sums.counts name).trans (total_perm perm name)
  names name := by rw [sums.names name, (perm.map _).mem_iff]
  unique := sums.unique

end Counters

end BucketRegion

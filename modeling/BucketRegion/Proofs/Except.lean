/-!
# Computations that may fail

What a computation of several parts comes to, told by what its parts come to.
-/

set_option autoImplicit false

namespace BucketRegion

theorem bind_eq_ok {ε α β : Type} {computation : Except ε α} {next : α → Except ε β} {result : β} :
    computation >>= next = .ok result ↔
      ∃ value, computation = .ok value ∧ next value = .ok result := by
  cases computation with
  | error e => simp [bind, Except.bind]
  | ok value => simp [bind, Except.bind]

theorem bind_eq_error {ε α β : Type} {computation : Except ε α} {next : α → Except ε β} {e : ε} :
    computation >>= next = .error e ↔
      computation = .error e ∨ ∃ value, computation = .ok value ∧ next value = .error e := by
  cases computation with
  | error e' => simp [bind, Except.bind]
  | ok value => simp [bind, Except.bind]

theorem map_eq_error {ε α β : Type} {computation : Except ε α} {change : α → β} {e : ε} :
    computation.map change = .error e ↔ computation = .error e := by
  cases computation <;> simp [Except.map]

@[simp] theorem mapError_ok {ε ε' α : Type} (value : α) (change : ε → ε') :
    (Except.ok value : Except ε α).mapError change = .ok value := rfl

@[simp] theorem mapError_error {ε ε' α : Type} (e : ε) (change : ε → ε') :
    (Except.error e : Except ε α).mapError change = .error (change e) := rfl

theorem mapError_eq_ok {ε ε' α : Type} {computation : Except ε α} {change : ε → ε'} {value : α} :
    computation.mapError change = .ok value ↔ computation = .ok value := by
  cases computation <;> simp

theorem mapError_eq_error {ε ε' α : Type} {computation : Except ε α} {change : ε → ε'} {e' : ε'} :
    computation.mapError change = .error e' ↔ ∃ e, computation = .error e ∧ change e = e' := by
  cases computation <;> simp

/-- A check that stops a computation has not done so. -/
theorem ite_error_eq_ok {ε α : Type} {p : Prop} [Decidable p] {e : ε} {computation : Except ε α}
    {value : α} : (if p then .error e else computation) = .ok value ↔
      ¬ p ∧ computation = .ok value := by
  by_cases holds : p
  · simp [holds]
  · simp [holds]

theorem toOption_eq_some {ε α : Type} {computation : Except ε α} {value : α} :
    computation.toOption = some value ↔ computation = .ok value := by
  cases computation <;> simp [Except.toOption]

end BucketRegion

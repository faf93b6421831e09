import BucketRegion.Proofs.ReadWriteLock.Waking

/-!
# Writers come first

While one use waits to write, no use comes to read, neither a new one nor one that was parked: the
readers can only leave. Once those that were there have left, and the writer before it if there
was one, the waiting use has been notified and gets the lock when it checks.
-/

set_option autoImplicit false

namespace BucketRegion.ReadWriteLock

variable {owner : Nat → Nat} {l l' l'' : ReadWriteLock} {move : Move} {i j : Nat}

/-! ## One step -/

/-- No use reads that has not read before. -/
structure Fewer (l l' : ReadWriteLock) : Prop where
  uses : ∀ j, l'.stance j = .reading → l.stance j = .reading
  count : l'.counts.readers ≤ l.counts.readers

theorem Fewer.refl (l : ReadWriteLock) : Fewer l l := ⟨fun _ reads => reads, le_rfl⟩

theorem Fewer.trans (first : Fewer l l') (second : Fewer l' l'') : Fewer l l'' :=
  ⟨fun j reads => first.uses j (second.uses j reads), second.count.trans first.count⟩

theorem notify_eq_reading {s : Stance} : s.notify = .reading ↔ s = .reading := by
  cases s <;> simp [Stance.notify]

theorem reading_of_set {old new : Stance} (there : l.uses[i]? = some old) (c : LockCounts)
    (other : new ≠ .reading)
    (reads : (⟨c, l.uses.set i new⟩ : ReadWriteLock).stance j = .reading) :
    l.stance j = .reading := by
  rw [stance_set there] at reads
  split at reads
  · exact absurd reads other
  · exact reads

theorem Goes.reading_of_taken (goes : Goes l move l') (taken : l.counts.canRead = false)
    (reads : l'.stance j = .reading) : l.stance j = .reading := by
  cases goes with
  | reads _ free =>
      rw [taken] at free
      cases free
  | readsAfterAll _ free =>
      rw [taken] at free
      cases free
  | stopsWriter there =>
      rw [stance_notify, notify_eq_reading] at reads
      exact reading_of_set there _ (by simp) reads
  | leavesLast there =>
      rw [stance_notify, notify_eq_reading] at reads
      exact reading_of_set there _ (by simp) reads
  | leavesWriter there =>
      rw [stance_notify, notify_eq_reading] at reads
      exact reading_of_set there _ (by simp) reads
  | _ there => exact reading_of_set there _ (by simp) reads

theorem Goes.fewer_of_taken (goes : Goes l move l') (taken : l.counts.canRead = false) :
    Fewer l l' := by
  refine ⟨fun _ reads => goes.reading_of_taken taken reads, ?_⟩
  cases goes with
  | reads _ free =>
      rw [taken] at free
      cases free
  | readsAfterAll _ free =>
      rw [taken] at free
      cases free
  | leavesReaders => exact Int.sub_le_self _ (by decide)
  | leavesLast => exact Int.sub_le_self _ (by decide)
  | _ => exact le_rfl

theorem Balanced.fewer_act (balanced : Balanced l) (waits : (l.stance i).waitsToWrite = true)
    (step : Nat × Act) : Fewer l (l.act owner step) := by
  obtain ⟨use, does⟩ := step
  rcases goes_act owner l use does with still | ⟨_, goes⟩
  · rw [still]
    exact .refl l
  · exact goes.fewer_of_taken (balanced.counted.taken waits)

/-- A waiting use for which nobody is in the way has been notified, and gets the lock. -/
theorem Watchful.serves (watchful : Watchful l) (balanced : Balanced l)
    (once : WaitsOnce owner l) (waits : (l.stance i).waitsToWrite = true)
    (unheld : ∀ j, l.stance j ≠ .reading ∧ l.stance j ≠ .writing) :
    l.stance i = .parkedWriter true ∧ (l.act owner (i, .recheck)).stance i = .writing := by
  have free : l.counts.canWrite = true :=
    LockCounts.canWrite_iff.mpr (balanced.counts_of_unheld unheld)
  obtain ⟨notified, stands⟩ := exists_parkedWriter waits
  cases notified with
  | false =>
      rw [watchful.writer i stands] at free
      cases free
  | true =>
      refine ⟨stands, ?_⟩
      rw [recheck_writer once stands free, stance_set (getElem?_of_stance stands (by simp)),
        if_pos rfl]

/-! ## A whole wait -/

/-- A use waits to write before each step of a schedule, so that it has the lock or has given up
after the last one at the earliest. -/
def WaitsDuring (owner : Nat → Nat) (i : Nat) : ReadWriteLock → List (Nat × Act) → Prop
  | _, [] => True
  | l, step :: rest =>
      (l.stance i).waitsToWrite = true ∧ WaitsDuring owner i (l.act owner step) rest

theorem run_append (owner : Nat → Nat) (l : ReadWriteLock) (first second : List (Nat × Act)) :
    l.run owner (first ++ second) = (l.run owner first).run owner second :=
  List.foldl_append

theorem WaitsDuring.of_append {first second : List (Nat × Act)}
    (waits : WaitsDuring owner i l (first ++ second)) :
    WaitsDuring owner i l first ∧ WaitsDuring owner i (l.run owner first) second := by
  induction first generalizing l with
  | nil => exact ⟨trivial, waits⟩
  | cons step rest ih =>
      obtain ⟨now, later⟩ := waits
      obtain ⟨front, back⟩ := ih later
      exact ⟨⟨now, front⟩, back⟩

theorem WaitsDuring.fewer_run {during : List (Nat × Act)} (waits : WaitsDuring owner i l during)
    (balanced : ∀ first, Balanced (l.run owner first)) : Fewer l (l.run owner during) := by
  -- On the end of the schedule, because the lock is balanced after any beginning of it.
  induction during using List.reverseRecOn with
  | nil => exact .refl l
  | append_singleton first step ih =>
      obtain ⟨front, now, _⟩ := waits.of_append
      rw [run_append]
      exact (ih front).trans ((balanced first).fewer_act now step)

theorem Fewer.threadsAt_subset (fewer : Fewer l l') :
    threadsAt owner l' Stance.reads ⊆ threadsAt owner l Stance.reads := by
  intro thread member
  obtain ⟨use, found, owned⟩ := Finset.mem_image.mp member
  have before := fewer.uses use (eq_of_reads (Finset.mem_filter.mp found).2)
  refine Finset.mem_image.mpr ⟨use, Finset.mem_filter.mpr ⟨?_, by rw [before]; rfl⟩, owned⟩
  exact Finset.mem_range.mpr (lt_of_stance (by simp [before]))

/-- What a use that waits to write can rely on until it has the lock or gives up. -/
structure FavoursWriter (owner : Nat → Nat) (l : ReadWriteLock) (i : Nat)
    (during : List (Nat × Act)) : Prop where
  /-- No step lets a use read that has not read before, be it new or woken. -/
  ungranted : ∀ first step rest, during = first ++ step :: rest → ∀ j,
    (l.run owner (first ++ [step])).stance j = .reading → (l.run owner first).stance j = .reading
  /-- From any moment to any later one, the readers only become fewer. -/
  shrinking : ∀ first next rest, during = first ++ next ++ rest →
    threadsAt owner (l.run owner (first ++ next)) Stance.reads ⊆
        threadsAt owner (l.run owner first) Stance.reads ∧
      (l.run owner (first ++ next)).counts.readers ≤ (l.run owner first).counts.readers
  /-- When those that read at first have left and nobody writes, it is the use's turn. -/
  served : ∀ first step rest, during = first ++ step :: rest →
    (∀ j, l.stance j = .reading → (l.run owner first).stance j ≠ .reading) →
    (∀ j, (l.run owner first).stance j ≠ .writing) →
    (l.run owner first).stance i = .parkedWriter true ∧
      (l.run owner (first ++ [(i, .recheck)])).stance i = .writing

theorem favoursWriter_run (owner : Nat → Nat) (n : Nat) (before during : List (Nat × Act))
    (i : Nat) (waits : WaitsDuring owner i ((withUses n).run owner before) during) :
    FavoursWriter owner ((withUses n).run owner before) i during := by
  have balanced : ∀ first, Balanced (((withUses n).run owner before).run owner first) := by
    intro first
    rw [← run_append]
    exact balanced_run owner n _
  have once : ∀ first, WaitsOnce owner (((withUses n).run owner before).run owner first) := by
    intro first
    rw [← run_append]
    exact waitsOnce_run owner n _
  have watchful : ∀ first, Watchful (((withUses n).run owner before).run owner first) := by
    intro first
    rw [← run_append]
    exact watchful_run owner n _
  generalize (withUses n).run owner before = l at waits balanced once watchful
  refine ⟨?_, ?_, ?_⟩
  · intro first step rest split j reads
    subst split
    obtain ⟨_, now, _⟩ := waits.of_append
    rw [run_append] at reads
    exact ((balanced first).fewer_act now step).uses j reads
  · intro first next rest split
    subst split
    obtain ⟨_, later⟩ := waits.of_append.1.of_append
    have fewer := later.fewer_run fun front => by
      rw [← run_append]
      exact balanced (first ++ front)
    rw [run_append]
    exact ⟨fewer.threadsAt_subset, fewer.count⟩
  · intro first step rest split left unwritten
    subst split
    obtain ⟨front, now, _⟩ := waits.of_append
    have fewer := front.fewer_run balanced
    rw [run_append]
    refine (watchful first).serves (balanced first) (once first) now fun j => ?_
    exact ⟨fun reads => left j (fewer.uses j reads) reads, unwritten j⟩

/-- A reader comes while a writer waits for another reader, and the writer is served first. -/
theorem favoursWriter_run_late :
    WaitsDuring id 1 ((withUses 3).run id [(0, .acquire .read), (1, .acquire .write)])
        [(2, .acquire .read), (0, .release .read), (2, .recheck), (1, .recheck)] ∧
      FavoursWriter id ((withUses 3).run id [(0, .acquire .read), (1, .acquire .write)]) 1
        [(2, .acquire .read), (0, .release .read), (2, .recheck), (1, .recheck)] := by
  have waits : WaitsDuring id 1
      ((withUses 3).run id [(0, .acquire .read), (1, .acquire .write)])
      [(2, .acquire .read), (0, .release .read), (2, .recheck), (1, .recheck)] :=
    ⟨by decide, by decide, by decide, by decide, trivial⟩
  exact ⟨waits, favoursWriter_run id 3 _ _ 1 waits⟩

end BucketRegion.ReadWriteLock

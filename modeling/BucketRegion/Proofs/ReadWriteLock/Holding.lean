import BucketRegion.Proofs.ReadWriteLock.Moves
import Mathlib.Data.Finset.Card
import Mathlib.Data.Finset.Range

/-!
# Who holds the lock

Threads that acquire the lock and release what they hold, in any order, while errors may be raised
in any of their waits. Whatever they have done, the counts are those of the uses that are made of
the lock at the time: of an acquisition that was interrupted nothing is left. The lock counts uses
and does not know its threads, so that one that reads twice counts twice.
-/

set_option autoImplicit false

namespace BucketRegion.ReadWriteLock

variable {owner : Nat → Nat} {l l' : ReadWriteLock} {move : Move}

/-! ## Runs -/

/-- An act does nothing, or it goes as a move of its use does. -/
theorem goes_act (owner : Nat → Nat) (l : ReadWriteLock) (use : Nat) (does : Act) :
    l.act owner (use, does) = l ∨
      l.isHeldUp owner (does.move use).use = false ∧
        Goes l (does.move use) (l.act owner (use, does)) := by
  have same : (does.move use).use = use := by
    rcases does with ⟨_ | _⟩ | ⟨_ | _⟩ | ⟨_ | _⟩ | ⟨_ | _, _⟩ | _ | _ <;> rfl
  rw [same, act]
  cases heldUp : l.isHeldUp owner use with
  | true => exact .inl (if_pos rfl)
  | false =>
      rw [if_neg (by simp)]
      cases moved : l.move? (does.move use) with
      | none => exact .inl rfl
      | some after => exact .inr ⟨rfl, goes_of_move? moved⟩

/-- What every move keeps, holds after every schedule. -/
theorem run_keeps {P : ReadWriteLock → Prop} (holds : P l)
    (keeps : ∀ {l l' : ReadWriteLock} {move : Move}, l.isHeldUp owner move.use = false →
      Goes l move l' → P l → P l')
    (schedule : List (Nat × Act)) : P (l.run owner schedule) := by
  induction schedule generalizing l with
  | nil => exact holds
  | cons step rest ih =>
      refine ih ?_
      obtain ⟨use, does⟩ := step
      rcases goes_act owner l use does with still | ⟨free, goes⟩
      · rw [still]
        exact holds
      · exact keeps free goes holds

theorem balanced_run (owner : Nat → Nat) (n : Nat) (schedule : List (Nat × Act)) :
    Balanced ((withUses n).run owner schedule) :=
  run_keeps (balanced_withUses n) (fun _ goes balanced => balanced.goes goes) schedule

/-! ## Threads by what they do -/

/-- The threads that have a use in a given stance. -/
def threadsAt (owner : Nat → Nat) (l : ReadWriteLock) (p : Stance → Bool) : Finset Nat :=
  ((Finset.range l.uses.length).filter fun i => p (l.stance i) = true).image owner

theorem countP_eq_card (p : Stance → Bool) (uses : List Stance) :
    uses.countP p =
      ((Finset.range uses.length).filter fun i => p (uses.getD i .outside) = true).card := by
  induction uses using List.reverseRecOn with
  | nil => rfl
  | append_singleton uses s ih =>
      have before : ((Finset.range uses.length).filter fun i =>
          p ((uses ++ [s]).getD i .outside) = true) =
          (Finset.range uses.length).filter fun i => p (uses.getD i .outside) = true := by
        refine Finset.filter_congr fun i member => ?_
        have within := Finset.mem_range.mp member
        simp only [List.getD_eq_getElem?_getD, List.getElem?_append_left within]
      have last : (uses ++ [s]).getD uses.length .outside = s := by simp
      rw [List.countP_append, List.length_append, List.length_singleton, Finset.range_add_one,
        Finset.filter_insert, before, last, ih]
      cases counts : p s with
      | false => simp [counts]
      | true =>
          rw [if_pos rfl, Finset.card_insert_of_notMem (by simp)]
          simp [counts]

/-- Threads that have one such use each are as many as the uses. -/
theorem card_threadsAt {p : Stance → Bool}
    (once : ∀ i j, p (l.stance i) = true → p (l.stance j) = true → owner i = owner j → i = j) :
    (threadsAt owner l p).card = l.count p := by
  rw [count, countP_eq_card, threadsAt]
  refine Finset.card_image_of_injOn ?_
  intro i first j second same
  have first := (Finset.mem_filter.mp (Finset.mem_coe.mp first)).2
  have second := (Finset.mem_filter.mp (Finset.mem_coe.mp second)).2
  exact once i j first second same

/-- A thread waits at one use at most. -/
def WaitsOnce (owner : Nat → Nat) (l : ReadWriteLock) : Prop :=
  ∀ i j, (l.stance i).isParked = true → (l.stance j).isParked = true → owner i = owner j → i = j

theorem isParked_notify (s : Stance) : s.notify.isParked = s.isParked := by
  cases s <;> rfl

theorem Goes.isParked_other (goes : Goes l move l') {j : Nat} (other : j ≠ move.use) :
    (l'.stance j).isParked = (l.stance j).isParked := by
  rcases goes.stance_other other with same | notified
  · rw [same]
  · rw [notified, isParked_notify]

theorem not_isParked_of_free {use other : Nat} (free : l.isHeldUp owner use = false)
    (different : other ≠ use) (same : owner other = owner use) :
    (l.stance other).isParked = false := by
  cases stands : l.stance other with
  | parkedReader notified =>
      have there := getElem?_of_stance stands (by simp)
      have within := (List.getElem?_eq_some_iff.mp there).1
      have waits := List.any_eq_false.mp free other (List.mem_range.mpr within)
      simp [different, same, stands] at waits
  | parkedWriter notified =>
      have there := getElem?_of_stance stands (by simp)
      have within := (List.getElem?_eq_some_iff.mp there).1
      have waits := List.any_eq_false.mp free other (List.mem_range.mpr within)
      simp [different, same, stands] at waits
  | _ => rfl

theorem WaitsOnce.goes (once : WaitsOnce owner l) (free : l.isHeldUp owner move.use = false)
    (goes : Goes l move l') : WaitsOnce owner l' := by
  intro i j first second same
  by_cases here : i = move.use
  · by_cases there : j = move.use
    · rw [here, there]
    · rw [goes.isParked_other there, not_isParked_of_free free there (here ▸ same.symm)] at second
      cases second
  · rw [goes.isParked_other here] at first
    by_cases there : j = move.use
    · rw [not_isParked_of_free free here (there ▸ same)] at first
      cases first
    · rw [goes.isParked_other there] at second
      exact once i j first second same

theorem stance_withUses (n i : Nat) : (withUses n).stance i = .outside :=
  getD_replicate_default n i Stance.outside

theorem waitsOnce_run (owner : Nat → Nat) (n : Nat) (schedule : List (Nat × Act)) :
    WaitsOnce owner ((withUses n).run owner schedule) := by
  refine run_keeps ?_ (fun free goes once => once.goes free goes) schedule
  intro i j first
  rw [stance_withUses] at first
  cases first

/-! ## Exclusion -/

theorem lt_of_stance {i : Nat} (inside : l.stance i ≠ .outside) : i < l.uses.length :=
  (List.getElem?_eq_some_iff.mp (getElem?_of_stance rfl inside)).1

/-- While one use writes there is no other that reads or writes. -/
theorem Balanced.exclusive (balanced : Balanced l) {i j : Nat} (writes : l.stance i = .writing)
    (holds : (l.stance j).reads = true ∨ (l.stance j).writes = true) : i = j := by
  have writer := balanced.writer_of_writing (getElem?_of_stance writes (by simp))
  rcases holds with reads | writesToo
  · have reading : l.stance j = .reading := by
      cases stands : l.stance j <;> simp_all
    have some_reads := balanced.one_le_readers (getElem?_of_stance reading (by simp))
    rw [balanced.apart writer] at some_reads
    cases some_reads
  · have writing : l.stance j = .writing := by
      cases stands : l.stance j <;> simp_all
    have one : l.uses.countP Stance.writes ≤ 1 := by
      have counted := balanced.writers
      rw [count, writer] at counted
      exact counted.le
    rw [countP_eq_card] at one
    have member : ∀ k, l.stance k = .writing →
        k ∈ (Finset.range l.uses.length).filter fun i => (l.uses.getD i .outside).writes = true := by
      intro k stands
      refine Finset.mem_filter.mpr ⟨Finset.mem_range.mpr (lt_of_stance (by simp [stands])), ?_⟩
      have held : l.uses.getD k .outside = .writing := stands
      rw [held]
      rfl
    exact Finset.card_le_one.mp one i (member i writes) j (member j writing)

/-! ## What an interrupted acquisition leaves -/

/-- The counts of a number of uses. -/
def tally (uses : List Stance) : LockCounts :=
  ⟨uses.countP Stance.reads, uses.any Stance.writes, uses.countP Stance.waitsToWrite⟩

theorem Balanced.counts_eq_tally (balanced : Balanced l) : l.counts = tally l.uses := by
  obtain ⟨⟨readers, writer, waiting⟩, uses⟩ := l
  obtain ⟨read, written, waited, _⟩ := balanced
  simp only [count] at read written waited
  subst read waited
  have some_writes : uses.any Stance.writes = writer := by
    cases writer with
    | false =>
        refine List.any_eq_false.mpr fun s member => ?_
        exact List.countP_eq_zero.mp written s member
    | true =>
        obtain ⟨s, member, writes⟩ := List.one_le_countP_iff.mp written.ge
        exact List.any_eq_true.mpr ⟨s, member, writes⟩
  simp [tally, some_writes]

/-- A use that is outside takes no part in the counts. -/
theorem tally_eraseIdx {uses : List Stance} {i : Nat} (there : uses[i]? = some .outside) :
    tally (uses.eraseIdx i) = tally uses := by
  obtain ⟨within, held⟩ := List.getElem?_eq_some_iff.mp there
  have parts : uses = uses.take i ++ .outside :: uses.drop (i + 1) := by
    rw [← held, List.cons_getElem_drop_succ, List.take_append_drop]
  rw [List.eraseIdx_eq_take_drop_succ]
  nth_rewrite 3 [parts]
  simp [tally]

theorem Balanced.counts_without (balanced : Balanced l) {i : Nat}
    (there : l.uses[i]? = some .outside) : l.counts = tally (l.uses.eraseIdx i) := by
  rw [tally_eraseIdx there]
  exact balanced.counts_eq_tally

/-- An interrupted use is over. -/
theorem Goes.outside_of_interrupt {i : Nat} (goes : Goes l (.interrupt i) l') :
    l'.uses[i]? = some .outside := by
  cases goes with
  | stopsReader there => rw [getElem?_put there, if_pos rfl]
  | stopsWriter there => rw [List.getElem?_map, getElem?_put there, if_pos rfl]; rfl

/-! ## The account -/

/-- What the counts tell of the uses and of the threads that make them. -/
structure Accounted (owner : Nat → Nat) (l : ReadWriteLock) : Prop where
  readers : l.counts.readers = l.count Stance.reads
  readingThreads : (∀ i j, l.stance i = .reading → l.stance j = .reading → owner i = owner j →
      i = j) → l.counts.readers = (threadsAt owner l Stance.reads).card
  writer : l.counts.writer = true ↔ (threadsAt owner l Stance.writes).card = 1
  waiting : l.counts.writersWaiting = (threadsAt owner l Stance.waitsToWrite).card
  exclusive : ∀ i j, l.stance i = .writing →
    l.stance j = .reading ∨ l.stance j = .writing → i = j
  interrupted : ∀ i l', l.move? (.interrupt i) = some l' →
    l'.stance i = .outside ∧ l'.counts = tally (l'.uses.eraseIdx i) ∧
      ∀ j, j ≠ i → l'.stance j = l.stance j ∨ l'.stance j = (l.stance j).notify
  outside : ∀ i, i < l.uses.length → l.stance i = .outside →
    l.counts = tally (l.uses.eraseIdx i)

theorem eq_of_reads {s : Stance} (reads : s.reads = true) : s = .reading := by
  cases s <;> simp_all

theorem eq_of_writes {s : Stance} (writes : s.writes = true) : s = .writing := by
  cases s <;> simp_all

theorem isParked_of_waitsToWrite {s : Stance} (waits : s.waitsToWrite = true) :
    s.isParked = true := by
  cases s <;> simp_all

theorem accounted_run (owner : Nat → Nat) (n : Nat) (schedule : List (Nat × Act)) :
    Accounted owner ((withUses n).run owner schedule) := by
  have balanced := balanced_run owner n schedule
  have once := waitsOnce_run owner n schedule
  generalize (withUses n).run owner schedule = l at balanced once
  have writingThreads : (threadsAt owner l Stance.writes).card = l.counts.writer.toNat := by
    rw [card_threadsAt fun i j first second _ =>
      balanced.exclusive (eq_of_writes first) (.inr second)]
    exact balanced.writers
  refine ⟨balanced.readers, ?_, ?_, ?_, ?_, ?_, ?_⟩
  · intro onceEach
    rw [card_threadsAt fun i j first second => onceEach i j (eq_of_reads first)
      (eq_of_reads second)]
    exact balanced.readers
  · rw [writingThreads]
    cases l.counts.writer <;> simp
  · rw [card_threadsAt fun i j first second => once i j (isParked_of_waitsToWrite first)
      (isParked_of_waitsToWrite second)]
    exact balanced.waiting
  · rintro i j writes (reads | writesToo)
    · exact balanced.exclusive writes (.inl (by rw [reads]; rfl))
    · exact balanced.exclusive writes (.inr (by rw [writesToo]; rfl))
  · intro i l' moved
    have goes := goes_of_move? moved
    have ended := goes.outside_of_interrupt
    exact ⟨stance_eq ended, (balanced.goes goes).counts_without ended,
      fun j other => goes.stance_other other⟩
  · intro i within stands
    exact balanced.counts_without (getElem?_of_getD_of_lt within stands)

/-- Two uses of one thread: it reads, and before it leaves it reads again. -/
def readsTwice : ReadWriteLock :=
  (withUses 2).run (fun _ => 0) [(0, .acquire .read), (1, .enterBlock .read)]

/-- The number of readers is not that of the threads that read. -/
theorem readers_ne_card_threads :
    readsTwice.counts.readers = 2 ∧ (threadsAt (fun _ => 0) readsTwice Stance.reads).card = 1 := by
  decide

end BucketRegion.ReadWriteLock

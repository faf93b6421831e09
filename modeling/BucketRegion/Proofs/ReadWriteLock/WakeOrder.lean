import BucketRegion.Proofs.ReadWriteLock.Waking

/-!
# The order in which the woken check again

Callers that need not release what they hold, so that the number of readers may become negative
and a writer may be gone before it leaves. One count is right all the same, that of the waiting
writers. It decides what a notification leads to: all woken readers read, or one woken writer
writes, or all are parked again, whatever the order in which they check.
-/

set_option autoImplicit false

namespace BucketRegion.ReadWriteLock

variable {l l' : ReadWriteLock} {move : Move} {i j : Nat}

/-! ## Callers that are not held to anything -/

/-- What can happen to a lock. Releases need not match acquisitions. -/
inductive Incident where
  /-- A new thread acquires the lock or waits for it. -/
  | arrive (access : Access)
  /-- A caller acquires the lock, or is interrupted as soon as it waits. -/
  | attempt (access : Access)
  | leave (access : Access)
  | recheck (use : Nat)
  | interrupt (use : Nat)
  deriving Repr, DecidableEq

def undergo (l : ReadWriteLock) : Incident → ReadWriteLock
  | .arrive .read => l.spawnReader
  | .arrive .write => l.spawnWriter
  | .attempt .read => l.tryRead?.getD l
  | .attempt .write => l.tryWrite.1
  | .leave .read => l.leaveRead
  | .leave .write => l.leaveWrite
  | .recheck use => l.recheckAt use
  | .interrupt use => (l.move? (.interrupt use)).getD l

def undergoAll (l : ReadWriteLock) (past : List Incident) : ReadWriteLock := past.foldl undergo l

/-- Whether all parked threads are notified: the last reader leaves, a writer leaves, or one that
would have to wait gives up. -/
def notifies (l : ReadWriteLock) : Incident → Bool
  | .leave .read => l.counts.readers - 1 == 0
  | .leave .write => true
  | .attempt .write => !l.counts.canWrite
  | .interrupt use => (l.stance use).waitsToWrite
  | _ => false

theorem Counted.goes (counted : Counted l) (goes : Goes l move l') : Counted l' := by
  cases goes with
  | reads there => exact counted.place there (by simp)
  | parksReader there => exact counted.place there (by simp)
  | writes there => exact counted.place there (by simp)
  | parksWriter there => exact counted.place there (by simp)
  | readsAfterAll there => exact counted.place there (by simp)
  | parksReaderAgain there => exact counted.place there (by simp)
  | writesAfterAll there =>
      have waits := counted.one_le_waiting there
      exact counted.place there (by simp; omega)
  | parksWriterAgain there => exact counted.place there (by simp)
  | stopsReader there => exact counted.place there (by simp)
  | stopsWriter there =>
      have waits := counted.one_le_waiting there
      have placed : Counted ⟨{ l.counts with writersWaiting := l.counts.writersWaiting - 1 },
          l.uses.set _ .outside⟩ := counted.place there (by simp; omega)
      exact placed.notifyAll
  | leavesReaders there => exact counted.place there (by simp)
  | leavesLast there =>
      have placed : Counted ⟨{ l.counts with readers := l.counts.readers - 1 },
          l.uses.set _ .outside⟩ := counted.place there (by simp)
      exact placed.notifyAll
  | leavesWriter there =>
      have placed : Counted ⟨{ l.counts with writer := false }, l.uses.set _ .outside⟩ :=
        counted.place there (by simp)
      exact placed.notifyAll

theorem Counted.append (counted : Counted l) {c : LockCounts} {new : Stance}
    (waiting : c.writersWaiting = l.counts.writersWaiting + new.waitsToWrite.toNat) :
    Counted ⟨c, l.uses ++ [new]⟩ := by
  unfold Counted count at counted ⊢
  rw [List.countP_append, waiting, counted]
  cases new <;> rfl

theorem waiting_enterRead (c : LockCounts) :
    (enterRead c).1.writersWaiting =
      c.writersWaiting + (enterRead c).2.waitsToWrite.toNat := by
  unfold enterRead
  split <;> rfl

theorem waiting_enterWrite (c : LockCounts) :
    (enterWrite c).1.writersWaiting =
      c.writersWaiting + (enterWrite c).2.waitsToWrite.toNat := by
  unfold enterWrite
  split <;> rfl

theorem Counted.spawnReader (counted : Counted l) : Counted l.spawnReader :=
  counted.append (waiting_enterRead l.counts)

theorem Counted.spawnWriter (counted : Counted l) : Counted l.spawnWriter :=
  counted.append (waiting_enterWrite l.counts)

theorem Counted.tryRead (counted : Counted l) : Counted (l.tryRead?.getD l) := by
  unfold tryRead?
  split
  · next free =>
      simp only [enterRead, free, if_true, Option.getD_some]
      exact counted
  · exact counted

theorem tryWrite_eq (l : ReadWriteLock) :
    l.tryWrite =
      if l.counts.canWrite then ({ l with counts := { l.counts with writer := true } }, true)
      else (l.notifyAll, false) := by
  unfold tryWrite enterWrite
  cases l.counts.canWrite with
  | true => rfl
  | false => simp [abandonWrite]

theorem Counted.tryWrite (counted : Counted l) : Counted l.tryWrite.1 := by
  rw [tryWrite_eq]
  split
  · exact counted
  · exact counted.notifyAll

theorem Counted.leaveRead (counted : Counted l) : Counted l.leaveRead := by
  unfold ReadWriteLock.leaveRead
  dsimp only
  split
  · exact Counted.notifyAll (l := { l with counts := { l.counts with readers := _ } }) counted
  · exact counted

theorem Counted.moved (counted : Counted l) (move : Move) : Counted ((l.move? move).getD l) := by
  cases moved : l.move? move with
  | none => exact counted
  | some after => exact counted.goes (goes_of_move? moved)

theorem Counted.undergo (counted : Counted l) (incident : Incident) :
    Counted (l.undergo incident) := by
  cases incident with
  | arrive access =>
      cases access with
      | read => exact counted.spawnReader
      | write => exact counted.spawnWriter
  | attempt access =>
      cases access with
      | read => exact counted.tryRead
      | write => exact counted.tryWrite
  | leave access =>
      cases access with
      | read => exact counted.leaveRead
      | write => exact Counted.notifyAll (l := { l with counts := { l.counts with writer := _ } }) counted
  | recheck use => exact counted.moved (.recheck use)
  | interrupt use => exact counted.moved (.interrupt use)

theorem counted_undergoAll (past : List Incident) : Counted (new.undergoAll past) := by
  induction past using List.reverseRecOn with
  | nil => rfl
  | append_singleton past incident ih =>
      unfold undergoAll at ih ⊢
      rw [List.foldl_append]
      exact ih.undergo incident

/-! ## What a notification leads to -/

def wokenReader : Stance → Bool
  | .parkedReader notified => notified
  | _ => false

def wokenWriter : Stance → Bool
  | .parkedWriter notified => notified
  | _ => false

/-- The counts of a lock, and how many uses it has let in. -/
structure Prospect where
  counts : LockCounts
  reading : Nat
  writing : Nat

/-- What a lock comes to by the checks of so many woken readers and writers, when so many read and
write: if it can be read, all woken readers read, and if it can be written, one woken writer
writes. -/
def foresee (c : LockCounts) (wokenReaders wokenWriters reading writing : Nat) : Prospect :=
  if c.canRead then
    ⟨{ c with readers := c.readers + wokenReaders }, reading + wokenReaders, writing⟩
  else if c.canWrite && 0 < wokenWriters then
    ⟨{ c with writer := true, writersWaiting := c.writersWaiting - 1 }, reading, writing + 1⟩
  else ⟨c, reading, writing⟩

def prospect (l : ReadWriteLock) : Prospect :=
  foresee l.counts (l.count wokenReader) (l.count wokenWriter) (l.count Stance.reads)
    (l.count Stance.writes)

section Checks

variable {c : LockCounts} {readers readers' writers writers' reading reading' writing writing' : Nat}

theorem foresee_reads (free : c.canRead = true) (less : readers' + 1 = readers)
    (more : reading' = reading + 1) (same : writing' = writing) :
    foresee { c with readers := c.readers + 1 } readers' writers' reading' writing' =
      foresee c readers writers reading writing := by
  subst less more same
  have still : LockCounts.canRead { c with readers := c.readers + 1 } = true := free
  have total : c.readers + 1 + (readers' : Int) = c.readers + ((readers' + 1 : Nat) : Int) := by
    omega
  simp only [foresee, free, still, if_true, total, Nat.add_assoc, Nat.add_comm 1]

theorem foresee_parksReader (taken : c.canRead = false) (same : writers' = writers)
    (alike : reading' = reading) (equal : writing' = writing) :
    foresee c readers' writers' reading' writing' =
      foresee c readers writers reading writing := by
  subst same alike equal
  simp only [foresee, taken, Bool.false_eq_true, if_false]

theorem foresee_writes (taken : c.canRead = false) (free : c.canWrite = true)
    (less : writers' + 1 = writers) (same : reading' = reading) (more : writing' = writing + 1) :
    foresee { c with writer := true, writersWaiting := c.writersWaiting - 1 } readers' writers'
        reading' writing' =
      foresee c readers writers reading writing := by
  subst less same more
  -- After one writer has been let in, nobody else is.
  have unread : LockCounts.canRead
      { c with writer := true, writersWaiting := c.writersWaiting - 1 } = false := rfl
  have unwritten : LockCounts.canWrite
      { c with writer := true, writersWaiting := c.writersWaiting - 1 } = false := rfl
  simp [foresee, taken, free, unread, unwritten]

theorem foresee_parksWriter (taken : c.canRead = false) (unfree : c.canWrite = false)
    (same : reading' = reading) (alike : writing' = writing) :
    foresee c readers' writers' reading' writing' =
      foresee c readers writers reading writing := by
  subst same alike
  simp only [foresee, taken, unfree, Bool.false_and, Bool.false_eq_true, if_false]

theorem writing_foresee_le : (foresee c readers writers reading writing).writing ≤ writing + 1 := by
  unfold foresee
  split
  · exact Nat.le_succ writing
  · split
    · exact Nat.le_refl _
    · exact Nat.le_succ writing

theorem reading_foresee (taken : c.canRead = false) :
    (foresee c readers writers reading writing).reading = reading := by
  simp only [foresee, taken, Bool.false_eq_true, if_false]
  split <;> rfl

end Checks

theorem goes_recheckAt (l : ReadWriteLock) (i : Nat) :
    l.recheckAt i = l ∨ Goes l (.recheck i) (l.recheckAt i) := by
  unfold recheckAt
  cases moved : l.move? (.recheck i) with
  | none => exact .inl rfl
  | some after => exact .inr (goes_of_move? moved)

/-- A check brings about a part of what is to come, and changes nothing of the whole. -/
theorem Counted.prospect_recheckAt (counted : Counted l) (i : Nat) :
    (l.recheckAt i).prospect = l.prospect := by
  rcases goes_recheckAt l i with still | goes
  · rw [still]
  · generalize l.recheckAt i = l' at goes
    cases goes with
    | readsAfterAll there free =>
        have numbers := countP_place there .reading
        exact foresee_reads free (numbers wokenReader) (numbers Stance.reads)
          (numbers Stance.writes)
    | parksReaderAgain there taken =>
        have numbers := countP_place there (.parkedReader false)
        exact foresee_parksReader taken (numbers wokenWriter) (numbers Stance.reads)
          (numbers Stance.writes)
    | writesAfterAll there free =>
        have numbers := countP_place there .writing
        have waits : (l.stance i).waitsToWrite = true := by rw [stance_eq there]; rfl
        exact foresee_writes (counted.taken waits) free (numbers wokenWriter)
          (numbers Stance.reads) (numbers Stance.writes)
    | parksWriterAgain there unfree =>
        have numbers := countP_place there (.parkedWriter false)
        have waits : (l.stance i).waitsToWrite = true := by rw [stance_eq there]; rfl
        exact foresee_parksWriter (counted.taken waits) unfree
          (numbers Stance.reads) (numbers Stance.writes)

/-! ## Orders of checks -/

/-- The lock after uses have checked again in the given order. -/
def checks (l : ReadWriteLock) (order : List Nat) : ReadWriteLock := order.foldl recheckAt l

theorem Counted.prospect_checks (counted : Counted l) (order : List Nat) :
    (l.checks order).prospect = l.prospect := by
  induction order generalizing l with
  | nil => rfl
  | cons i rest ih =>
      have next := ih (counted.moved (.recheck i))
      exact next.trans (counted.prospect_recheckAt i)

/-- Whether a use has been notified and has not checked since. -/
def isWoken (s : Stance) : Bool := wokenReader s || wokenWriter s

/-- Every woken use has been let in or is parked again. -/
def Finished (l : ReadWriteLock) : Prop := ∀ i, isWoken (l.stance i) = false

theorem Finished.count_eq_zero (finished : Finished l) {p : Stance → Bool}
    (among : ∀ s, p s = true → isWoken s = true) : l.count p = 0 := by
  refine List.countP_eq_zero.mpr fun s member counts => ?_
  obtain ⟨i, there⟩ := List.mem_iff_getElem?.mp member
  have asleep := finished i
  rw [stance_eq there, among s counts] at asleep
  cases asleep

theorem Finished.prospect_eq (finished : Finished l) :
    l.prospect = ⟨l.counts, l.count Stance.reads, l.count Stance.writes⟩ := by
  have readers : l.count wokenReader = 0 :=
    finished.count_eq_zero fun s woken => by rw [isWoken, woken, Bool.true_or]
  have writers : l.count wokenWriter = 0 :=
    finished.count_eq_zero fun s woken => by rw [isWoken, woken, Bool.or_true]
  simp [prospect, foresee, readers, writers]

theorem isWoken_recheck (c : LockCounts) (s : Stance) : isWoken (recheck c s).2 = false := by
  obtain ⟨noReader, noWriter⟩ := recheck_unnotified c s
  cases checked : (recheck c s).2 with
  | parkedReader notified =>
      cases notified with
      | false => rfl
      | true => exact absurd checked noReader
  | parkedWriter notified =>
      cases notified with
      | false => rfl
      | true => exact absurd checked noWriter
  | _ => rfl

theorem stance_recheckAt (l : ReadWriteLock) (i j : Nat) :
    (l.recheckAt i).stance j =
      if j = i then (recheck l.counts (l.stance i)).2 else l.stance j := by
  rw [recheckAt_eq]
  by_cases within : i < l.uses.length
  · exact stance_set (List.getElem?_eq_getElem within) _ _ j
  · have beyond : l.stance i = .outside := by
      by_contra inside
      exact within (lt_of_stance inside)
    have same : l.uses.set i Stance.outside = l.uses :=
      List.set_eq_of_length_le (Nat.le_of_not_lt within)
    simp only [ReadWriteLock.place, beyond, recheck, same]
    split
    · next here => exact here ▸ beyond
    · rfl

/-- A use that is still woken after some checks was woken before, and none of them was its own. -/
theorem isWoken_of_checks {order : List Nat} (woken : isWoken ((l.checks order).stance j) = true) :
    isWoken (l.stance j) = true ∧ j ∉ order := by
  induction order generalizing l with
  | nil => exact ⟨woken, List.not_mem_nil⟩
  | cons i rest ih =>
      obtain ⟨before, unchecked⟩ := ih (l := l.recheckAt i) woken
      rw [stance_recheckAt] at before
      split at before
      · rw [isWoken_recheck] at before
        cases before
      · next other => exact ⟨before, List.not_mem_cons_of_ne_of_not_mem other unchecked⟩

theorem finished_checks {order : List Nat} (all : ∀ i, isWoken (l.stance i) = true → i ∈ order) :
    Finished (l.checks order) := by
  intro j
  refine Bool.eq_false_iff.mpr fun woken => ?_
  obtain ⟨before, unchecked⟩ := isWoken_of_checks woken
  exact unchecked (all j before)

theorem finished_settle (l : ReadWriteLock) :
    l.settle = l.checks (List.range l.uses.length) ∧
      Finished (l.checks (List.range l.uses.length)) := by
  refine ⟨settle_eq l, finished_checks fun i woken => ?_⟩
  refine List.mem_range.mpr (lt_of_stance fun outside => ?_)
  rw [outside] at woken
  cases woken

/-! ## Notifications -/

theorem isWoken_notify (s : Stance) : isWoken s.notify = s.isParked := by
  cases s <;> rfl

theorem isWoken_notifyAll (l : ReadWriteLock) (i : Nat) :
    isWoken (l.notifyAll.stance i) = (l.notifyAll.stance i).isParked := by
  have stands : l.notifyAll.stance i = (l.stance i).notify := stance_notify l.counts l.uses i
  rw [stands, isWoken_notify, isParked_notify]

theorem exists_notifyAll {incident : Incident} (notifies : l.notifies incident = true) :
    ∃ before : ReadWriteLock, l.undergo incident = before.notifyAll := by
  cases incident with
  | arrive access => cases access <;> cases notifies
  | attempt access =>
      cases access with
      | read => cases notifies
      | write =>
          have taken : l.counts.canWrite = false := by simpa [ReadWriteLock.notifies] using notifies
          exact ⟨l, by simp [undergo, tryWrite_eq, taken]⟩
  | leave access =>
      cases access with
      | read => exact ⟨_, if_pos notifies⟩
      | write => exact ⟨_, rfl⟩
  | recheck use => cases notifies
  | interrupt use =>
      obtain ⟨notified, stands⟩ := exists_parkedWriter notifies
      simp only [undergo, move?, stands, Option.getD_some]
      exact ⟨_, rfl⟩

/-- A lock that has just notified all, and comes to the same whatever the order in which the woken
threads check again. -/
structure WakesAlike (l : ReadWriteLock) : Prop where
  woken : ∀ i, (l.stance i).isParked = true → isWoken (l.stance i) = true
  finishes : ∀ order, (∀ i, (l.stance i).isParked = true → i ∈ order) →
    Finished (l.checks order)
  same : ∀ order order', Finished (l.checks order) → Finished (l.checks order') →
    (l.checks order).counts = (l.checks order').counts ∧
      (l.checks order).count Stance.reads = (l.checks order').count Stance.reads ∧
      (l.checks order).count Stance.writes = (l.checks order').count Stance.writes
  settled : ∀ order, Finished (l.checks order) → (l.checks order).counts = l.settle.counts
  oneWriter : ∀ order, Finished (l.checks order) →
    (l.checks order).count Stance.writes ≤ l.count Stance.writes + 1
  writersFirst : ∀ order, Finished (l.checks order) →
    (∃ i, (l.stance i).waitsToWrite = true) →
    (l.checks order).count Stance.reads = l.count Stance.reads

theorem Counted.checks_eq (counted : Counted l) {order : List Nat}
    (finished : Finished (l.checks order)) :
    l.prospect = ⟨(l.checks order).counts, (l.checks order).count Stance.reads,
      (l.checks order).count Stance.writes⟩ :=
  (counted.prospect_checks order).symm.trans finished.prospect_eq

theorem wakesAlike_undergo (past : List Incident) (incident : Incident)
    (notifies : (new.undergoAll past).notifies incident = true) :
    WakesAlike ((new.undergoAll past).undergo incident) := by
  have counted := (counted_undergoAll past).undergo incident
  obtain ⟨before, notified⟩ := exists_notifyAll notifies
  rw [notified] at counted ⊢
  have woken := isWoken_notifyAll before
  generalize before.notifyAll = l at counted woken
  have same : ∀ order order', Finished (l.checks order) → Finished (l.checks order') →
      (l.checks order).counts = (l.checks order').counts ∧
        (l.checks order).count Stance.reads = (l.checks order').count Stance.reads ∧
        (l.checks order).count Stance.writes = (l.checks order').count Stance.writes := by
    intro order order' finished finished'
    -- Both orders come to what was to come when all were notified.
    have equal := (counted.checks_eq finished).symm.trans (counted.checks_eq finished')
    exact Prospect.mk.inj equal
  refine ⟨?_, ?_, same, ?_, ?_, ?_⟩
  · intro i parked
    rw [woken, parked]
  · intro order all
    exact finished_checks fun i isWoken => all i (woken i ▸ isWoken)
  · intro order finished
    -- Settling is one of the orders: by place.
    obtain ⟨settle, settled⟩ := finished_settle l
    rw [settle]
    exact (same order _ finished settled).1
  · intro order finished
    have written : l.prospect.writing = (l.checks order).count Stance.writes :=
      congrArg Prospect.writing (counted.checks_eq finished)
    rw [← written]
    exact writing_foresee_le
  · rintro order finished ⟨i, waits⟩
    have taken := counted.taken waits
    have read : l.prospect.reading = (l.checks order).count Stance.reads :=
      congrArg Prospect.reading (counted.checks_eq finished)
    rw [← read]
    exact reading_foresee taken

/-- A reader that leaves twice makes the number of readers negative, and the two that come then
bring it to one, so that a writer waits, and two readers behind it. -/
def overdrawn : List Incident :=
  [.leave .read, .attempt .read, .attempt .read, .arrive .write, .arrive .read, .arrive .write,
    .arrive .read]

/-- The next to leave is the last by the count, and wakes all four. -/
theorem wakesAlike_undergo_overdrawn :
    (new.undergoAll overdrawn).notifies (.leave .read) = true ∧
      WakesAlike ((new.undergoAll overdrawn).undergo (.leave .read)) :=
  ⟨by decide, wakesAlike_undergo overdrawn (.leave .read) (by decide)⟩

end BucketRegion.ReadWriteLock

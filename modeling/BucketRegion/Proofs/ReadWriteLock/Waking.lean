import BucketRegion.Proofs.ReadWriteLock.Holding

/-!
# Nobody sleeps through a free lock

Whoever is parked and has not been notified would be parked again if it checked now. It follows
that a lock that nobody holds has notified one of those who wait for it, and that this one gets
the lock when it checks again.
-/

set_option autoImplicit false

namespace BucketRegion.ReadWriteLock

variable {owner : Nat → Nat} {l l' : ReadWriteLock} {move : Move}

/-! ## Waiting for a reason -/

/-- Whoever has not been notified could not go on. -/
structure Watchful (l : ReadWriteLock) : Prop where
  reader : ∀ i, l.stance i = .parkedReader false → l.counts.canRead = false
  writer : ∀ i, l.stance i = .parkedWriter false → l.counts.canWrite = false

theorem watchful_withUses (n : Nat) : Watchful (withUses n) := by
  constructor <;>
  · intro i stands
    rw [stance_withUses] at stands
    cases stands

theorem notify_ne_unnotified (s : Stance) :
    s.notify ≠ .parkedReader false ∧ s.notify ≠ .parkedWriter false := by
  cases s <;> simp [Stance.notify]

/-- After a notification nobody sleeps. -/
theorem watchful_notified (c : LockCounts) (uses : List Stance) :
    Watchful ⟨c, uses.map Stance.notify⟩ := by
  constructor <;> intro i stands <;> rw [stance_notify] at stands
  · exact absurd stands (notify_ne_unnotified _).1
  · exact absurd stands (notify_ne_unnotified _).2

/-- One use has come into another stance, and the lock has become no freer for those that sleep. -/
theorem Watchful.place (watchful : Watchful l) {c : LockCounts} {i : Nat} {old new : Stance}
    (there : l.uses[i]? = some old)
    (toRead : c.canRead = true → l.counts.canRead = true ∧ new ≠ .parkedReader false)
    (toWrite : c.canWrite = true → l.counts.canWrite = true ∧ new ≠ .parkedWriter false) :
    Watchful ⟨c, l.uses.set i new⟩ := by
  constructor
  · intro j stands
    rw [stance_set there] at stands
    refine Bool.eq_false_iff.mpr fun free => ?_
    obtain ⟨before, awake⟩ := toRead free
    by_cases same : j = i
    · exact awake (by rwa [if_pos same] at stands)
    · rw [if_neg same] at stands
      rw [watchful.reader j stands] at before
      cases before
  · intro j stands
    rw [stance_set there] at stands
    refine Bool.eq_false_iff.mpr fun free => ?_
    obtain ⟨before, awake⟩ := toWrite free
    by_cases same : j = i
    · exact awake (by rwa [if_pos same] at stands)
    · rw [if_neg same] at stands
      rw [watchful.writer j stands] at before
      cases before

theorem Balanced.readers_nonneg (balanced : Balanced l) : 0 ≤ l.counts.readers := by
  rw [balanced.readers]
  exact Int.natCast_nonneg _

theorem Watchful.goes (watchful : Watchful l) (balanced : Balanced l) (goes : Goes l move l') :
    Watchful l' := by
  have readers := balanced.readers_nonneg
  cases goes with
  | reads there _ =>
      refine watchful.place there (fun free => ⟨free, by simp⟩) fun free => ?_
      have nobody := (LockCounts.canWrite_iff.mp free).2
      exact absurd nobody (by simp; omega)
  | parksReader there taken =>
      exact watchful.place there (fun free => absurd free (by simp [taken]))
        fun free => ⟨free, by simp⟩
  | writes there _ =>
      exact watchful.place there (fun free => absurd free (by simp [LockCounts.canRead]))
        fun free => absurd free (by simp [LockCounts.canWrite])
  | parksWriter there taken =>
      exact watchful.place there (fun free => absurd free (by simp [LockCounts.canRead]))
        fun free => absurd (taken.symm.trans free) (by simp)
  | readsAfterAll there _ =>
      refine watchful.place there (fun free => ⟨free, by simp⟩) fun free => ?_
      have nobody := (LockCounts.canWrite_iff.mp free).2
      exact absurd nobody (by simp; omega)
  | parksReaderAgain there taken =>
      exact watchful.place there (fun free => absurd free (by simp [taken]))
        fun free => ⟨free, by simp⟩
  | writesAfterAll there _ =>
      exact watchful.place there (fun free => absurd free (by simp [LockCounts.canRead]))
        fun free => absurd free (by simp [LockCounts.canWrite])
  | parksWriterAgain there taken =>
      exact watchful.place there (fun free => ⟨free, by simp⟩)
        fun free => absurd free (by simp [taken])
  | stopsReader there =>
      exact watchful.place there (fun free => ⟨free, by simp⟩) fun free => ⟨free, by simp⟩
  | stopsWriter _ => exact watchful_notified _ _
  | leavesReaders there others =>
      refine watchful.place there (fun free => ⟨free, by simp⟩) fun free => ?_
      exact absurd (LockCounts.canWrite_iff.mp free).2 others
  | leavesLast _ _ => exact watchful_notified _ _
  | leavesWriter _ => exact watchful_notified _ _

theorem watchful_run (owner : Nat → Nat) (n : Nat) (schedule : List (Nat × Act)) :
    Watchful ((withUses n).run owner schedule) := by
  have both : Balanced ((withUses n).run owner schedule) ∧
      Watchful ((withUses n).run owner schedule) :=
    run_keeps (P := fun l => Balanced l ∧ Watchful l)
      ⟨balanced_withUses n, watchful_withUses n⟩
      (fun _ goes holds => ⟨holds.1.goes goes, holds.2.goes holds.1 goes⟩) schedule
  exact both.2

/-! ## Checking again -/

theorem waitsOnce_id (l : ReadWriteLock) : WaitsOnce id l := fun _ _ _ _ same => same

theorem WaitsOnce.free (once : WaitsOnce owner l) {i : Nat} (waits : (l.stance i).isParked = true) :
    l.isHeldUp owner i = false := by
  refine List.any_eq_false.mpr fun other _ held => ?_
  simp only [Bool.and_eq_true, bne_iff_ne, beq_iff_eq] at held
  obtain ⟨⟨different, same⟩, parked⟩ := held
  exact different (once other i parked waits same)

/-- A parked use is not held up by another one of its thread. -/
theorem WaitsOnce.act_eq (once : WaitsOnce owner l) {i : Nat}
    (waits : (l.stance i).isParked = true) (does : Act) :
    l.act owner (i, does) = (l.move? (does.move i)).getD l := by
  rw [act, once.free waits, if_neg (by simp)]

theorem recheck_reader (once : WaitsOnce owner l) {i : Nat}
    (waits : l.stance i = .parkedReader true) (free : l.counts.canRead = true) :
    l.act owner (i, .recheck) =
      ⟨{ l.counts with readers := l.counts.readers + 1 }, l.uses.set i .reading⟩ := by
  rw [once.act_eq (by simp [waits])]
  simp [Act.move, move?, waits, recheck, enterRead, free, ReadWriteLock.place]

theorem recheck_writer (once : WaitsOnce owner l) {i : Nat}
    (waits : l.stance i = .parkedWriter true) (free : l.counts.canWrite = true) :
    l.act owner (i, .recheck) =
      ⟨{ l.counts with writer := true, writersWaiting := l.counts.writersWaiting - 1 },
        l.uses.set i .writing⟩ := by
  rw [once.act_eq (by simp [waits])]
  simp [Act.move, move?, waits, recheck, free, ReadWriteLock.place]

theorem Balanced.counts_of_unheld (balanced : Balanced l)
    (unheld : ∀ i, l.stance i ≠ .reading ∧ l.stance i ≠ .writing) :
    l.counts.writer = false ∧ l.counts.readers = 0 := by
  have stands : ∀ s ∈ l.uses, s ≠ .reading ∧ s ≠ .writing := by
    intro s member
    obtain ⟨i, there⟩ := List.mem_iff_getElem?.mp member
    rw [← stance_eq there]
    exact unheld i
  have unread : l.count Stance.reads = 0 :=
    List.countP_eq_zero.mpr fun s member reads => (stands s member).1 (eq_of_reads reads)
  have unwritten : l.count Stance.writes = 0 :=
    List.countP_eq_zero.mpr fun s member writes => (stands s member).2 (eq_of_writes writes)
  refine ⟨?_, by rw [balanced.readers, unread]; rfl⟩
  have counted := balanced.writers
  rw [unwritten] at counted
  cases writer : l.counts.writer with
  | false => rfl
  | true => rw [writer] at counted; cases counted

theorem Balanced.exists_waiting (balanced : Balanced l) (waits : 0 < l.counts.writersWaiting) :
    ∃ i notified, l.stance i = .parkedWriter notified := by
  rw [balanced.waiting] at waits
  obtain ⟨s, member, parked⟩ := List.countP_pos_iff.mp waits
  obtain ⟨i, there⟩ := List.mem_iff_getElem?.mp member
  cases s with
  | parkedWriter notified => exact ⟨i, notified, stance_eq there⟩
  | _ => cases parked

/-- One of those that wait for a lock that nobody holds has been notified, and gets it. -/
theorem Watchful.wakes (watchful : Watchful l) (balanced : Balanced l)
    (once : WaitsOnce owner l) (waits : ∃ i, (l.stance i).isParked = true)
    (unheld : ∀ i, l.stance i ≠ .reading ∧ l.stance i ≠ .writing) :
    ∃ i, (l.stance i = .parkedReader true ∧ (l.act owner (i, .recheck)).stance i = .reading) ∨
      (l.stance i = .parkedWriter true ∧ (l.act owner (i, .recheck)).stance i = .writing) := by
  obtain ⟨unwritten, unread⟩ := balanced.counts_of_unheld unheld
  have writable : l.counts.canWrite = true := LockCounts.canWrite_iff.mpr ⟨unwritten, unread⟩
  -- A writer that waits keeps readers out, so it is to be woken before them.
  rcases Nat.eq_zero_or_pos l.counts.writersWaiting with none | some
  · have readable : l.counts.canRead = true := LockCounts.canRead_iff.mpr ⟨unwritten, none⟩
    obtain ⟨i, parked⟩ := waits
    refine ⟨i, .inl ?_⟩
    cases stands : l.stance i with
    | parkedReader notified =>
        cases notified with
        | false => rw [watchful.reader i stands] at readable; cases readable
        | true =>
            refine ⟨rfl, ?_⟩
            rw [recheck_reader once stands readable,
              stance_set (getElem?_of_stance stands (by simp)), if_pos rfl]
    | parkedWriter notified =>
        have waiting := balanced.counted.one_le_waiting (getElem?_of_stance stands (by simp))
        omega
    | _ => simp [stands] at parked
  · obtain ⟨i, notified, stands⟩ := balanced.exists_waiting some
    refine ⟨i, .inr ?_⟩
    cases notified with
    | false => rw [watchful.writer i stands] at writable; cases writable
    | true =>
        refine ⟨stands, ?_⟩
        rw [recheck_writer once stands writable,
          stance_set (getElem?_of_stance stands (by simp)), if_pos rfl]

/-! ## Behind a writer that gives up -/

/-- What a reader finds that may go on as soon as it checks. -/
structure Open (owner : Nat → Nat) (readers : List Nat) (l : ReadWriteLock) : Prop where
  once : WaitsOnce owner l
  free : l.counts.canRead = true
  ready : ∀ i ∈ readers, l.stance i = .parkedReader true ∨ l.stance i = .reading

theorem Open.recheck {readers : List Nat} (isOpen : Open owner readers l) {i : Nat}
    (member : i ∈ readers) :
    Open owner readers (l.act owner (i, .recheck)) ∧
      (l.act owner (i, .recheck)).stance i = .reading ∧
        ∀ j, l.stance j = .reading → (l.act owner (i, .recheck)).stance j = .reading := by
  rcases isOpen.ready i member with waits | reads
  · have there := getElem?_of_stance waits (by simp)
    have goes : Goes l (.recheck i) (l.act owner (i, .recheck)) := by
      rw [recheck_reader isOpen.once waits isOpen.free]
      exact .readsAfterAll there isOpen.free
    have turn : l.isHeldUp owner (Move.recheck i).use = false :=
      isOpen.once.free (congrArg Stance.isParked waits)
    have once := isOpen.once.goes turn goes
    rw [recheck_reader isOpen.once waits isOpen.free] at once ⊢
    refine ⟨⟨once, isOpen.free, fun j among => ?_⟩, ?_, fun j reads => ?_⟩ <;>
      rw [stance_set there]
    · split
      · exact .inr rfl
      · exact isOpen.ready j among
    · exact if_pos rfl
    · split
      · rfl
      · exact reads
  · have same : l.act owner (i, .recheck) = l := by
      simp [act, Act.move, move?, reads]
    rw [same]
    exact ⟨isOpen, reads, fun _ stands => stands⟩

/-- The readers check again in any order, and all read. -/
theorem Open.run {readers : List Nat} (isOpen : Open owner readers l) (order : List Nat)
    (among : ∀ i ∈ order, i ∈ readers) :
    (∀ i ∈ order, (l.run owner (order.map fun i => (i, .recheck))).stance i = .reading) ∧
      ∀ j, l.stance j = .reading →
        (l.run owner (order.map fun i => (i, .recheck))).stance j = .reading := by
  induction order generalizing l with
  | nil => exact ⟨by simp, fun _ reads => reads⟩
  | cons i rest ih =>
      obtain ⟨stillOpen, reads, kept⟩ := isOpen.recheck (among i List.mem_cons_self)
      obtain ⟨others, stay⟩ := ih stillOpen fun j member => among j (List.mem_cons_of_mem i member)
      refine ⟨fun j member => ?_, fun j stands => stay j (kept j stands)⟩
      rcases List.mem_cons.mp member with rfl | later
      · exact stay j reads
      · exact others j later

/-- The lock after its only waiting writer has given up. -/
theorem WaitsOnce.act_interrupt (once : WaitsOnce owner l) {i : Nat} {notified : Bool}
    (gives : l.stance i = .parkedWriter notified) :
    l.act owner (i, .interrupt) =
      ⟨{ l.counts with writersWaiting := l.counts.writersWaiting - 1 },
        (l.uses.set i .outside).map Stance.notify⟩ := by
  rw [once.act_eq (by simp [gives])]
  simp [Act.move, move?, gives, ReadWriteLock.place, abandonWrite, ReadWriteLock.notifyAll]

theorem WaitsOnce.open_of_interrupt (once : WaitsOnce owner l) {i : Nat} {notified : Bool}
    (gives : l.stance i = .parkedWriter notified) (unwritten : l.counts.writer = false)
    (only : l.counts.writersWaiting = 1) {readers : List Nat}
    (parked : ∀ j ∈ readers, ∃ notified, l.stance j = .parkedReader notified) :
    Open owner readers (l.act owner (i, .interrupt)) ∧
      ∀ j ∈ readers, (l.act owner (i, .interrupt)).stance j = .parkedReader true := by
  have there := getElem?_of_stance gives (by simp)
  have goes : Goes l (.interrupt i) (l.act owner (i, .interrupt)) := by
    rw [once.act_interrupt gives]
    exact .stopsWriter there
  have turn : l.isHeldUp owner (Move.interrupt i).use = false :=
    once.free (congrArg Stance.isParked gives)
  have after := once.goes turn goes
  rw [once.act_interrupt gives] at after ⊢
  have woken : ∀ j ∈ readers,
      (⟨{ l.counts with writersWaiting := l.counts.writersWaiting - 1 },
        (l.uses.set i .outside).map Stance.notify⟩ : ReadWriteLock).stance j =
          .parkedReader true := by
    intro j member
    obtain ⟨before, stands⟩ := parked j member
    have other : j ≠ i := by
      rintro rfl
      rw [gives] at stands
      cases stands
    rw [stance_notify, stance_set there, if_neg other, stands]
    rfl
  refine ⟨⟨after, ?_, fun j member => .inl (woken j member)⟩, woken⟩
  exact LockCounts.canRead_iff.mpr ⟨unwritten, by rw [only]⟩

/-! ## When all have checked again -/

/-- The lock after a use has checked again, if it has been notified. -/
def recheckAt (l : ReadWriteLock) (i : Nat) : ReadWriteLock := (l.move? (.recheck i)).getD l

theorem place_stance (l : ReadWriteLock) (i : Nat) : l.place i (l.counts, l.stance i) = l := by
  have kept : l.uses.set i (l.stance i) = l.uses := by
    by_cases within : i < l.uses.length
    · have held : l.stance i = l.uses[i] := stance_eq (List.getElem?_eq_getElem within)
      rw [held, List.set_getElem_self]
    · exact List.set_eq_of_length_le (Nat.le_of_not_lt within)
  simp only [ReadWriteLock.place, kept]

theorem recheckAt_eq (l : ReadWriteLock) (i : Nat) :
    l.recheckAt i = l.place i (recheck l.counts (l.stance i)) := by
  have kept := place_stance l i
  unfold recheckAt
  cases stands : l.stance i with
  | parkedReader notified =>
      rw [stands] at kept
      cases notified with
      | false => simp [move?, stands, recheck, kept]
      | true => simp [move?, stands]
  | parkedWriter notified =>
      rw [stands] at kept
      cases notified with
      | false => simp [move?, stands, recheck, kept]
      | true => simp [move?, stands]
  | _ =>
      rw [stands] at kept
      simp [move?, stands, recheck, kept]

theorem foldl_recheckAt (c : LockCounts) (front rest : List Stance) :
    (List.range' front.length rest.length).foldl recheckAt ⟨c, front ++ rest⟩ =
      ⟨(recheckAll c rest).1, front ++ (recheckAll c rest).2⟩ := by
  induction rest generalizing c front with
  | nil => rfl
  | cons s rest ih =>
      have stands : (⟨c, front ++ s :: rest⟩ : ReadWriteLock).stance front.length = s :=
        stance_eq (by simp)
      have moved := ih (recheck c s).1 (front ++ [(recheck c s).2])
      rw [List.length_append, List.length_singleton] at moved
      rw [List.length_cons, List.range'_succ, List.foldl_cons, recheckAt_eq, stands]
      simp only [ReadWriteLock.place, List.set_append_right _ _ (Nat.le_refl _), Nat.sub_self,
        List.set_cons_zero]
      rw [List.append_cons, moved, List.append_assoc]
      rfl

/-- Settling lets one use after the other check again. -/
theorem settle_eq (l : ReadWriteLock) :
    l.settle = (List.range l.uses.length).foldl recheckAt l := by
  rw [List.range_eq_range']
  exact (foldl_recheckAt l.counts [] l.uses).symm

/-- What every move keeps, holds after settling. -/
theorem settle_keeps {P : ReadWriteLock → Prop} (holds : P l)
    (keeps : ∀ {l l' : ReadWriteLock} {move : Move}, Goes l move l' → P l → P l') :
    P l.settle := by
  rw [settle_eq]
  generalize List.range l.uses.length = order
  induction order generalizing l with
  | nil => exact holds
  | cons i rest ih =>
      refine ih ?_
      unfold recheckAt
      cases moved : l.move? (.recheck i) with
      | none => exact holds
      | some after => exact keeps (goes_of_move? moved) holds

theorem recheck_unnotified (c : LockCounts) (s : Stance) :
    (recheck c s).2 ≠ .parkedReader true ∧ (recheck c s).2 ≠ .parkedWriter true := by
  cases s with
  | parkedReader notified => cases notified <;> simp [recheck, enterRead]; split <;> simp
  | parkedWriter notified => cases notified <;> simp [recheck]; split <;> simp
  | _ => simp [recheck]

theorem settle_unnotified (l : ReadWriteLock) (i : Nat) :
    l.settle.stance i ≠ .parkedReader true ∧ l.settle.stance i ≠ .parkedWriter true := by
  have unnotified : ∀ c uses, ∀ s ∈ (recheckAll c uses).2,
      s ≠ .parkedReader true ∧ s ≠ .parkedWriter true := by
    intro c uses
    induction uses generalizing c with
    | nil => simp [recheckAll]
    | cons first rest ih =>
        intro s member
        rcases List.mem_cons.mp member with rfl | later
        · exact recheck_unnotified c first
        · exact ih _ s later
  constructor
  · intro stands
    have there := getElem?_of_stance stands (by simp)
    exact (unnotified _ _ _ (List.mem_of_getElem? there)).1 rfl
  · intro stands
    have there := getElem?_of_stance stands (by simp)
    exact (unnotified _ _ _ (List.mem_of_getElem? there)).2 rfl

/-- Once all have checked again that were notified, whoever waits waits for one that holds the
lock. -/
theorem Watchful.exists_holder (watchful : Watchful l) (balanced : Balanced l)
    (waits : ∃ i, (l.settle.stance i).isParked = true) :
    ∃ j, l.settle.stance j = .reading ∨ l.settle.stance j = .writing := by
  by_contra none
  have unheld : ∀ j, l.settle.stance j ≠ .reading ∧ l.settle.stance j ≠ .writing :=
    fun j => not_or.mp fun holds => none ⟨j, holds⟩
  have both : Balanced l.settle ∧ Watchful l.settle :=
    settle_keeps (P := fun l => Balanced l ∧ Watchful l) ⟨balanced, watchful⟩
      fun goes holds => ⟨holds.1.goes goes, holds.2.goes holds.1 goes⟩
  obtain ⟨i, ⟨notified, _⟩ | ⟨notified, _⟩⟩ := both.2.wakes both.1 (waitsOnce_id _) waits unheld
  · exact (settle_unnotified l i).1 notified
  · exact (settle_unnotified l i).2 notified

/-! ## No lost notification -/

/-- Nobody waits for a lock that it could have, without having been told. -/
structure Awake (owner : Nat → Nat) (l : ReadWriteLock) : Prop where
  reader : ∀ i, l.stance i = .parkedReader false →
    l.counts.writer = true ∨ 0 < l.counts.writersWaiting
  writer : ∀ i, l.stance i = .parkedWriter false → l.counts.writer = true ∨ 0 < l.counts.readers
  wakes : (∃ i, (l.stance i).isParked = true) →
    (∀ i, l.stance i ≠ .reading ∧ l.stance i ≠ .writing) →
    ∃ i, (l.stance i = .parkedReader true ∧ (l.act owner (i, .recheck)).stance i = .reading) ∨
      (l.stance i = .parkedWriter true ∧ (l.act owner (i, .recheck)).stance i = .writing)
  settled : (∃ i, (l.settle.stance i).isParked = true) →
    ∃ j, l.settle.stance j = .reading ∨ l.settle.stance j = .writing
  /-- The readers behind a writer that gives up are notified, and read in whatever order they
  check again. -/
  givesUp : ∀ i notified (readers : List Nat), l.stance i = .parkedWriter notified →
    l.counts.writer = false → l.counts.writersWaiting = 1 →
    (∀ j ∈ readers, ∃ notified, l.stance j = .parkedReader notified) →
    ∀ j ∈ readers, (l.act owner (i, .interrupt)).stance j = .parkedReader true ∧
      (l.run owner ((i, .interrupt) :: readers.map fun j => (j, .recheck))).stance j = .reading

theorem awake_run (owner : Nat → Nat) (n : Nat) (schedule : List (Nat × Act)) :
    Awake owner ((withUses n).run owner schedule) := by
  have balanced := balanced_run owner n schedule
  have once := waitsOnce_run owner n schedule
  have watchful := watchful_run owner n schedule
  generalize (withUses n).run owner schedule = l at balanced once watchful
  refine ⟨?_, ?_, watchful.wakes balanced once, watchful.exists_holder balanced, ?_⟩
  · intro i stands
    have taken := watchful.reader i stands
    by_contra free
    obtain ⟨unwritten, nobody⟩ := not_or.mp free
    rw [LockCounts.canRead_iff.mpr ⟨Bool.eq_false_iff.mpr unwritten,
      Nat.eq_zero_of_not_pos nobody⟩] at taken
    cases taken
  · intro i stands
    have taken := watchful.writer i stands
    by_contra free
    obtain ⟨unwritten, nobody⟩ := not_or.mp free
    have unread : l.counts.readers = 0 :=
      le_antisymm (not_lt.mp nobody) balanced.readers_nonneg
    rw [LockCounts.canWrite_iff.mpr ⟨Bool.eq_false_iff.mpr unwritten, unread⟩] at taken
    cases taken
  · intro i notified readers gives unwritten only parked j member
    obtain ⟨isOpen, woken⟩ := once.open_of_interrupt gives unwritten only parked
    exact ⟨woken j member, (isOpen.run readers fun _ among => among).1 j member⟩

end BucketRegion.ReadWriteLock

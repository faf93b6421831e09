import BucketRegion.ReadWriteLock
import BucketRegion.Proofs.Places
import Mathlib.Data.List.Basic

/-!
# Moves at the lock

What each move can come to, one case for each way that it can go, and the balance that every move
keeps: the three counts are those of the uses that read, that write and that wait to write.
-/

set_option autoImplicit false

namespace BucketRegion.ReadWriteLock

/-! ## Stances in lists of uses -/

theorem stance_eq {l : ReadWriteLock} {i : Nat} {s : Stance} (there : l.uses[i]? = some s) :
    l.stance i = s :=
  getD_of_getElem? there

theorem getElem?_of_stance {l : ReadWriteLock} {i : Nat} {s : Stance} (stands : l.stance i = s)
    (inside : s ≠ .outside) : l.uses[i]? = some s :=
  getElem?_of_getD stands inside

theorem getElem?_of_outside {l : ReadWriteLock} {i : Nat}
    (ready : (i < l.uses.length && l.stance i == .outside) = true) :
    l.uses[i]? = some .outside := by
  obtain ⟨within, stands⟩ := Bool.and_eq_true_iff.mp ready
  exact getElem?_of_getD_of_lt (of_decide_eq_true within) (eq_of_beq stands)

theorem stance_set {l : ReadWriteLock} {i : Nat} {old : Stance} (there : l.uses[i]? = some old)
    (c : LockCounts) (new : Stance) (j : Nat) :
    (⟨c, l.uses.set i new⟩ : ReadWriteLock).stance j = if j = i then new else l.stance j :=
  getD_put there new j

theorem stance_notify (c : LockCounts) (uses : List Stance) (j : Nat) :
    (⟨c, uses.map Stance.notify⟩ : ReadWriteLock).stance j =
      ((⟨c, uses⟩ : ReadWriteLock).stance j).notify := by
  simp only [stance, List.getD_eq_getElem?_getD, List.getElem?_map]
  cases uses[j]? <;> rfl

/-- Counting after one use has come into another stance. -/
theorem countP_place {uses : List Stance} {i : Nat} {old : Stance} (there : uses[i]? = some old)
    (new : Stance) (p : Stance → Bool) :
    (uses.set i new).countP p + (p old).toNat = uses.countP p + (p new).toNat := by
  obtain ⟨within, held⟩ := List.getElem?_eq_some_iff.mp there
  have counted := List.boole_getElem_le_countP (p := p) within
  have changed := List.countP_set (p := p) (a := new) within
  rw [held] at counted changed
  rw [changed]
  cases before : p old <;> cases after : p new <;>
    simp only [before, if_true, Bool.false_eq_true, if_false, Bool.toNat_true,
      Bool.toNat_false] at counted ⊢ <;> omega

/-- Notifying changes no count that leaves out whether a use has been notified. -/
theorem countP_notify {p : Stance → Bool} (blind : ∀ s : Stance, p s.notify = p s)
    (uses : List Stance) : (uses.map Stance.notify).countP p = uses.countP p := by
  rw [List.countP_map]
  exact List.countP_congr fun s _ => by rw [Function.comp_apply, blind s]

/-! ## Ways of moving -/

/-- The use that moves. -/
def Move.use : Move → Nat
  | .acquireRead i => i
  | .acquireWrite i => i
  | .recheck i => i
  | .interrupt i => i
  | .releaseRead i => i
  | .releaseWrite i => i

/-- What a move can come to. -/
inductive Goes (l : ReadWriteLock) : Move → ReadWriteLock → Prop where
  | reads {i : Nat} (there : l.uses[i]? = some .outside) (free : l.counts.canRead = true) :
      Goes l (.acquireRead i)
        ⟨{ l.counts with readers := l.counts.readers + 1 }, l.uses.set i .reading⟩
  | parksReader {i : Nat} (there : l.uses[i]? = some .outside)
      (taken : l.counts.canRead = false) :
      Goes l (.acquireRead i) ⟨l.counts, l.uses.set i (.parkedReader false)⟩
  | writes {i : Nat} (there : l.uses[i]? = some .outside) (free : l.counts.canWrite = true) :
      Goes l (.acquireWrite i) ⟨{ l.counts with writer := true }, l.uses.set i .writing⟩
  | parksWriter {i : Nat} (there : l.uses[i]? = some .outside)
      (taken : l.counts.canWrite = false) :
      Goes l (.acquireWrite i)
        ⟨{ l.counts with writersWaiting := l.counts.writersWaiting + 1 },
          l.uses.set i (.parkedWriter false)⟩
  | readsAfterAll {i : Nat} (there : l.uses[i]? = some (.parkedReader true))
      (free : l.counts.canRead = true) :
      Goes l (.recheck i)
        ⟨{ l.counts with readers := l.counts.readers + 1 }, l.uses.set i .reading⟩
  | parksReaderAgain {i : Nat} (there : l.uses[i]? = some (.parkedReader true))
      (taken : l.counts.canRead = false) :
      Goes l (.recheck i) ⟨l.counts, l.uses.set i (.parkedReader false)⟩
  | writesAfterAll {i : Nat} (there : l.uses[i]? = some (.parkedWriter true))
      (free : l.counts.canWrite = true) :
      Goes l (.recheck i)
        ⟨{ l.counts with writer := true, writersWaiting := l.counts.writersWaiting - 1 },
          l.uses.set i .writing⟩
  | parksWriterAgain {i : Nat} (there : l.uses[i]? = some (.parkedWriter true))
      (taken : l.counts.canWrite = false) :
      Goes l (.recheck i) ⟨l.counts, l.uses.set i (.parkedWriter false)⟩
  | stopsReader {i : Nat} {notified : Bool}
      (there : l.uses[i]? = some (.parkedReader notified)) :
      Goes l (.interrupt i) ⟨l.counts, l.uses.set i .outside⟩
  | stopsWriter {i : Nat} {notified : Bool}
      (there : l.uses[i]? = some (.parkedWriter notified)) :
      Goes l (.interrupt i)
        ⟨{ l.counts with writersWaiting := l.counts.writersWaiting - 1 },
          (l.uses.set i .outside).map Stance.notify⟩
  | leavesReaders {i : Nat} (there : l.uses[i]? = some .reading)
      (others : l.counts.readers - 1 ≠ 0) :
      Goes l (.releaseRead i)
        ⟨{ l.counts with readers := l.counts.readers - 1 }, l.uses.set i .outside⟩
  | leavesLast {i : Nat} (there : l.uses[i]? = some .reading)
      (last : l.counts.readers - 1 = 0) :
      Goes l (.releaseRead i)
        ⟨{ l.counts with readers := l.counts.readers - 1 },
          (l.uses.set i .outside).map Stance.notify⟩
  | leavesWriter {i : Nat} (there : l.uses[i]? = some .writing) :
      Goes l (.releaseWrite i)
        ⟨{ l.counts with writer := false }, (l.uses.set i .outside).map Stance.notify⟩

variable {l l' : ReadWriteLock} {move : Move}

private theorem goes_acquireRead {i : Nat} (there : l.uses[i]? = some .outside) :
    Goes l (.acquireRead i) (l.place i (enterRead l.counts)) := by
  cases free : l.counts.canRead with
  | true =>
      simp only [enterRead, free, if_true, place]
      exact .reads there free
  | false =>
      simp only [enterRead, free, Bool.false_eq_true, if_false, place]
      exact .parksReader there free

private theorem goes_acquireWrite {i : Nat} (there : l.uses[i]? = some .outside) :
    Goes l (.acquireWrite i) (l.place i (enterWrite l.counts)) := by
  cases free : l.counts.canWrite with
  | true =>
      simp only [enterWrite, free, if_true, place]
      exact .writes there free
  | false =>
      simp only [enterWrite, free, Bool.false_eq_true, if_false, place]
      exact .parksWriter there free

private theorem goes_recheck {i : Nat} (moved : l.move? (.recheck i) = some l') :
    Goes l (.recheck i) l' := by
  cases stands : l.stance i with
  | parkedReader notified =>
      have there := getElem?_of_stance stands (by simp)
      cases notified with
      | false => simp [move?, stands] at moved
      | true =>
          cases free : l.counts.canRead with
          | true =>
              simp only [move?, stands, recheck, enterRead, free, if_true] at moved
              cases moved
              exact .readsAfterAll there free
          | false =>
              simp only [move?, stands, recheck, enterRead, free, Bool.false_eq_true,
                if_false] at moved
              cases moved
              exact .parksReaderAgain there free
  | parkedWriter notified =>
      have there := getElem?_of_stance stands (by simp)
      cases notified with
      | false => simp [move?, stands] at moved
      | true =>
          cases free : l.counts.canWrite with
          | true =>
              simp only [move?, stands, recheck, free, if_true] at moved
              cases moved
              exact .writesAfterAll there free
          | false =>
              simp only [move?, stands, recheck, free, Bool.false_eq_true, if_false] at moved
              cases moved
              exact .parksWriterAgain there free
  | _ => simp [move?, stands] at moved

private theorem goes_interrupt {i : Nat} (moved : l.move? (.interrupt i) = some l') :
    Goes l (.interrupt i) l' := by
  cases stands : l.stance i with
  | parkedReader notified =>
      simp only [move?, stands] at moved
      cases moved
      exact .stopsReader (getElem?_of_stance stands (by simp))
  | parkedWriter notified =>
      simp only [move?, stands] at moved
      cases moved
      exact .stopsWriter (getElem?_of_stance stands (by simp))
  | _ => simp [move?, stands] at moved

private theorem goes_releaseRead {i : Nat} (there : l.uses[i]? = some .reading) :
    Goes l (.releaseRead i) (l.place i (l.counts, .outside)).leaveRead := by
  by_cases last : l.counts.readers - 1 = 0
  · have notifies : ((l.counts.readers - 1 : Int) == 0) = true := by simpa using last
    simp only [leaveRead, place, notifies, if_true]
    exact .leavesLast there last
  · have silent : ((l.counts.readers - 1 : Int) == 0) = false := by simpa using last
    simp only [leaveRead, place, silent, Bool.false_eq_true, if_false]
    exact .leavesReaders there last

/-- Every move goes one of these ways. -/
theorem goes_of_move? (moved : l.move? move = some l') : Goes l move l' := by
  cases move with
  | acquireRead i =>
      obtain ⟨ready, done⟩ := Option.ite_none_right_eq_some.mp moved
      cases done
      exact goes_acquireRead (getElem?_of_outside ready)
  | acquireWrite i =>
      obtain ⟨ready, done⟩ := Option.ite_none_right_eq_some.mp moved
      cases done
      exact goes_acquireWrite (getElem?_of_outside ready)
  | recheck i => exact goes_recheck moved
  | interrupt i => exact goes_interrupt moved
  | releaseRead i =>
      obtain ⟨ready, done⟩ := Option.ite_none_right_eq_some.mp moved
      cases done
      exact goes_releaseRead (getElem?_of_stance (eq_of_beq ready) (by simp))
  | releaseWrite i =>
      obtain ⟨ready, done⟩ := Option.ite_none_right_eq_some.mp moved
      cases done
      exact .leavesWriter (getElem?_of_stance (eq_of_beq ready) (by simp))

/-- A move does nothing to another use, unless it notifies it. -/
theorem Goes.stance_other (goes : Goes l move l') {j : Nat} (other : j ≠ move.use) :
    l'.stance j = l.stance j ∨ l'.stance j = (l.stance j).notify := by
  cases goes with
  | stopsWriter there =>
      right
      rw [stance_notify, stance_set there]
      exact congrArg Stance.notify (if_neg other)
  | leavesLast there =>
      right
      rw [stance_notify, stance_set there]
      exact congrArg Stance.notify (if_neg other)
  | leavesWriter there =>
      right
      rw [stance_notify, stance_set there]
      exact congrArg Stance.notify (if_neg other)
  | _ there =>
      left
      rw [stance_set there]
      exact if_neg other

/-! ## Balance -/

theorem LockCounts.canRead_iff {c : LockCounts} :
    c.canRead = true ↔ c.writer = false ∧ c.writersWaiting = 0 := by
  simp [LockCounts.canRead]

theorem LockCounts.canWrite_iff {c : LockCounts} :
    c.canWrite = true ↔ c.writer = false ∧ c.readers = 0 := by
  simp [LockCounts.canWrite]

theorem count_pos {i : Nat} {s : Stance} {p : Stance → Bool} (there : l.uses[i]? = some s)
    (counts : p s = true) : 0 < l.count p :=
  List.countP_pos_iff.mpr ⟨s, List.mem_of_getElem? there, counts⟩

/-- The waiting writers are counted, whatever else is not. -/
def Counted (l : ReadWriteLock) : Prop := l.counts.writersWaiting = l.count Stance.waitsToWrite

theorem Counted.place (counted : Counted l) {c : LockCounts} {i : Nat} {old new : Stance}
    (there : l.uses[i]? = some old)
    (waiting : c.writersWaiting + old.waitsToWrite.toNat =
      l.counts.writersWaiting + new.waitsToWrite.toNat) : Counted ⟨c, l.uses.set i new⟩ := by
  have changed := countP_place there new Stance.waitsToWrite
  simp only [Counted, count] at counted ⊢
  omega

theorem Counted.notifyAll (counted : Counted l) : Counted l.notifyAll := by
  unfold Counted at counted ⊢
  rw [count, ReadWriteLock.notifyAll, countP_notify (fun s => by cases s <;> rfl)]
  exact counted

theorem Counted.one_le_waiting (counted : Counted l) {i : Nat} {notified : Bool}
    (there : l.uses[i]? = some (.parkedWriter notified)) : 1 ≤ l.counts.writersWaiting := by
  rw [counted]
  exact count_pos there rfl

theorem exists_parkedWriter {s : Stance} (waits : s.waitsToWrite = true) :
    ∃ notified, s = .parkedWriter notified := by
  cases s with
  | parkedWriter notified => exact ⟨notified, rfl⟩
  | _ => cases waits

/-- Whoever waits to write is counted, and by that keeps readers out. -/
theorem Counted.taken (counted : Counted l) {i : Nat}
    (waits : (l.stance i).waitsToWrite = true) : l.counts.canRead = false := by
  obtain ⟨notified, stands⟩ := exists_parkedWriter waits
  have some_wait := counted.one_le_waiting (getElem?_of_stance stands (by simp))
  refine Bool.eq_false_iff.mpr fun free => ?_
  have nobody := (LockCounts.canRead_iff.mp free).2
  omega

/-- The counts are those of the uses, and nobody reads while one writes. -/
structure Balanced (l : ReadWriteLock) : Prop where
  readers : l.counts.readers = l.count Stance.reads
  writers : l.count Stance.writes = l.counts.writer.toNat
  waiting : l.counts.writersWaiting = l.count Stance.waitsToWrite
  apart : l.counts.writer = true → l.counts.readers = 0

theorem Balanced.counted (balanced : Balanced l) : Counted l := balanced.waiting

theorem balanced_withUses (n : Nat) : Balanced (withUses n) := by
  constructor <;> simp [withUses, count, List.countP_replicate, LockCounts.free]

/-- One use has come into another stance, and the counts have followed it. -/
theorem Balanced.place (balanced : Balanced l) {c : LockCounts} {i : Nat} {old new : Stance}
    (there : l.uses[i]? = some old)
    (readers : c.readers + old.reads.toNat =
      l.counts.readers + new.reads.toNat)
    (writers : c.writer.toNat + old.writes.toNat =
      l.counts.writer.toNat + new.writes.toNat)
    (waiting : c.writersWaiting + old.waitsToWrite.toNat =
      l.counts.writersWaiting + new.waitsToWrite.toNat)
    (apart : c.writer = true → c.readers = 0) : Balanced ⟨c, l.uses.set i new⟩ := by
  -- Each count changes by what the use has been and what it has become.
  have reading := countP_place there new Stance.reads
  have writing := countP_place there new Stance.writes
  have waits : Counted ⟨c, l.uses.set i new⟩ := balanced.counted.place there waiting
  obtain ⟨read, written, _, _⟩ := balanced
  simp only [count] at read written
  refine ⟨?_, ?_, waits, apart⟩ <;> simp only [count] <;> omega

theorem Balanced.notifyAll (balanced : Balanced l) : Balanced l.notifyAll where
  readers := by
    rw [count, ReadWriteLock.notifyAll, countP_notify (fun s => by cases s <;> rfl)]
    exact balanced.readers
  writers := by
    rw [count, ReadWriteLock.notifyAll, countP_notify (fun s => by cases s <;> rfl)]
    exact balanced.writers
  waiting := balanced.counted.notifyAll
  apart := balanced.apart

theorem Balanced.writer_of_writing (balanced : Balanced l) {i : Nat}
    (there : l.uses[i]? = some .writing) : l.counts.writer = true := by
  have some_writes := count_pos (p := Stance.writes) there rfl
  rw [balanced.writers] at some_writes
  cases writer : l.counts.writer with
  | true => rfl
  | false => simp [writer] at some_writes

theorem Balanced.one_le_readers (balanced : Balanced l) {i : Nat}
    (there : l.uses[i]? = some .reading) : 1 ≤ l.counts.readers := by
  have some_reads := count_pos (p := Stance.reads) there rfl
  rw [balanced.readers]
  exact_mod_cast some_reads

theorem Balanced.goes (balanced : Balanced l) (goes : Goes l move l') : Balanced l' := by
  cases goes with
  | reads there free =>
      obtain ⟨unwritten, _⟩ := LockCounts.canRead_iff.mp free
      exact balanced.place there (by simp) (by simp) (by simp)
        (by simp [unwritten])
  | parksReader there =>
      exact balanced.place there (by simp) (by simp) (by simp)
        balanced.apart
  | writes there free =>
      obtain ⟨unwritten, unread⟩ := LockCounts.canWrite_iff.mp free
      exact balanced.place there (by simp) (by simp [unwritten])
        (by simp) fun _ => unread
  | parksWriter there =>
      exact balanced.place there (by simp) (by simp) (by simp)
        balanced.apart
  | readsAfterAll there free =>
      obtain ⟨unwritten, _⟩ := LockCounts.canRead_iff.mp free
      exact balanced.place there (by simp) (by simp) (by simp)
        (by simp [unwritten])
  | parksReaderAgain there =>
      exact balanced.place there (by simp) (by simp) (by simp)
        balanced.apart
  | writesAfterAll there free =>
      obtain ⟨unwritten, unread⟩ := LockCounts.canWrite_iff.mp free
      have waits := balanced.counted.one_le_waiting there
      exact balanced.place there (by simp) (by simp [unwritten])
        (by simp; omega) fun _ => unread
  | parksWriterAgain there =>
      exact balanced.place there (by simp) (by simp) (by simp)
        balanced.apart
  | stopsReader there =>
      exact balanced.place there (by simp) (by simp) (by simp)
        balanced.apart
  | stopsWriter there =>
      have waits := balanced.counted.one_le_waiting there
      have placed : Balanced ⟨{ l.counts with writersWaiting := l.counts.writersWaiting - 1 },
          l.uses.set _ .outside⟩ :=
        balanced.place there (by simp) (by simp) (by simp; omega)
          balanced.apart
      exact placed.notifyAll
  | leavesReaders there =>
      have reads := balanced.one_le_readers there
      exact balanced.place there (by simp) (by simp) (by simp)
        fun writer => by simp [balanced.apart writer] at reads
  | leavesLast there last =>
      have placed : Balanced ⟨{ l.counts with readers := l.counts.readers - 1 },
          l.uses.set _ .outside⟩ :=
        balanced.place there (by simp) (by simp) (by simp) fun _ => last
      exact placed.notifyAll
  | leavesWriter there =>
      have writer := balanced.writer_of_writing there
      have placed : Balanced ⟨{ l.counts with writer := false }, l.uses.set _ .outside⟩ :=
        balanced.place there (by simp) (by simp [writer]) (by simp)
          (by simp)
      exact placed.notifyAll

end BucketRegion.ReadWriteLock

import BucketRegion.Proofs.SharedCache.Order

/-!
# Calls among others

What a whole schedule shows of the calls on a shared cache: the order that explains their answers
agrees with the order in which they were made, snapshots are taken at an instant, and no call is
left waiting while none can go on.
-/

set_option autoImplicit false

namespace BucketRegion.ReadWriteLock

variable {l l' : ReadWriteLock} {move : Move} {access : Access} {k : Nat}

theorem Goes.length_uses (goes : Goes l move l') : l'.uses.length = l.uses.length := by
  cases goes <;> simp

theorem exists_leaveBlock (holds : l.stance k = access.held) (raised : Bool) :
    ∃ lock, l.move? ((Act.leaveBlock access raised).move k) = some lock := by
  cases access with
  | read => exact ⟨_, if_pos (beq_iff_eq.mpr holds)⟩
  | write => exact ⟨_, if_pos (beq_iff_eq.mpr holds)⟩

theorem exists_enterBlock (within : k < l.uses.length) (outside : l.stance k = .outside)
    (readable : l.counts.canRead = true) (writable : l.counts.canWrite = true) :
    ∃ lock, l.move? ((Act.enterBlock access).move k) = some lock ∧
      lock.stance k = access.held := by
  have there : l.uses[k]? = some .outside := getElem?_of_getD_of_lt within outside
  have ready : (k < l.uses.length && l.stance k == .outside) = true := by simp [within, outside]
  cases access with
  | read =>
      refine ⟨_, if_pos ready, ?_⟩
      simp only [enterRead, readable, if_true, ReadWriteLock.place]
      exact stance_at there _
  | write =>
      refine ⟨_, if_pos ready, ?_⟩
      simp only [enterWrite, writable, if_true, ReadWriteLock.place]
      exact stance_at there _

/-- Of those that wait for a lock that nobody holds, one gets it when it checks again. -/
theorem Watchful.exists_recheck (watchful : Watchful l) (balanced : Balanced l)
    (waits : ∃ i, (l.stance i).isParked = true)
    (unheld : ∀ i, l.stance i ≠ .reading ∧ l.stance i ≠ .writing) :
    ∃ i lock, (l.stance i).isParked = true ∧ l.move? (.recheck i) = some lock ∧
      (lock.stance i).isParked = false := by
  obtain ⟨i, wakes⟩ := watchful.wakes balanced (waitsOnce_id l) waits unheld
  have parked : (l.stance i).isParked = true := by
    rcases wakes with ⟨waits, _⟩ | ⟨waits, _⟩ <;> rw [waits] <;> rfl
  have free : ((l.act id (i, .recheck)).stance i).isParked = false := by
    rcases wakes with ⟨_, holds⟩ | ⟨_, holds⟩ <;> rw [holds] <;> rfl
  rw [(waitsOnce_id l).act_eq parked] at free
  change (((l.move? (.recheck i)).getD l).stance i).isParked = false at free
  cases moved : l.move? (.recheck i) with
  | none =>
      rw [moved] at free
      change (l.stance i).isParked = false at free
      rw [parked] at free
      cases free
  | some lock =>
      rw [moved] at free
      exact ⟨i, lock, parked, moved, free⟩

end BucketRegion.ReadWriteLock

namespace BucketRegion.SharedCache

open ReadWriteLock (Access Act Move Goes Balanced Watchful)

variable {calls : Nat → Call} {s s' : SharedCache} {k : Nat}

/-! ## Earlier and later -/

theorem run_append (calls : Nat → Call) (s : SharedCache) (first second : List (Nat × Deed)) :
    s.run calls (first ++ second) = (s.run calls first).run calls second :=
  List.foldl_append

/-- A deed puts at most its own call into the order, and puts it last. -/
theorem Turns.entered_eq (turns : Turns calls s k s') :
    s'.entered = s.entered ∨ s'.entered = s.entered ++ [k] ∧ s'.stage k = .entered := by
  cases turns with
  | enters there _ _ _ =>
      right
      refine ⟨rfl, ?_⟩
      rw [stage, getD_put there, if_pos rfl]
  | _ => exact .inl rfl

/-- The order grows at its end. -/
theorem entered_isPrefix_run (calls : Nat → Call) (s : SharedCache)
    (schedule : List (Nat × Deed)) : s.entered <+: (s.run calls schedule).entered := by
  induction schedule generalizing s with
  | nil => exact List.prefix_rfl
  | cons turn rest ih =>
      refine List.IsPrefix.trans ?_ (ih (s.step calls turn.1 turn.2))
      rcases (turns_step calls s turn.1 turn.2).entered_eq with kept | ⟨grown, _⟩
      · rw [kept]
      · exact ⟨[turn.1], grown.symm⟩

/-- What the lock needs so that nobody waits for ever. -/
structure Lively (s : SharedCache) : Prop where
  watchful : Watchful s.lock
  made : s.lock.uses.length = s.stages.length

theorem Lively.turns (lively : Lively s) (balanced : Balanced s.lock)
    (turns : Turns calls s k s') : Lively s' := by
  cases turns with
  | idles => exact lively
  | begins _ => exact ⟨lively.watchful, lively.made.trans List.length_set.symm⟩
  | waits _ _ goes _ =>
      exact ⟨lively.watchful.goes balanced goes, goes.length_uses.trans lively.made⟩
  | works _ => exact ⟨lively.watchful, lively.made.trans List.length_set.symm⟩
  | enters _ _ goes _ =>
      exact ⟨lively.watchful.goes balanced goes,
        goes.length_uses.trans (lively.made.trans List.length_set.symm)⟩
  | stops _ goes =>
      exact ⟨lively.watchful.goes balanced goes,
        goes.length_uses.trans (lively.made.trans List.length_set.symm)⟩
  | leaves _ goes =>
      exact ⟨lively.watchful.goes balanced goes,
        goes.length_uses.trans (lively.made.trans List.length_set.symm)⟩

theorem stage_enter (there : s.stages[k]? = some .begun) {lock : ReadWriteLock}
    (taken : (lock.stance k).isParked = false) : (s.enter k (some lock)).stage k = .entered := by
  simp only [enter, taken, Bool.false_eq_true, if_false, stage]
  rw [getD_put there, if_pos rfl]

theorem stage_work {stage : Stage} (there : s.stages[k]? = some stage) :
    (s.step calls k .work).stage k = (work (calls k) s.cache stage).2 := by
  have stepped : s.step calls k .work =
      { s with
        cache := (work (calls k) s.cache stage).1
        stages := s.stages.set k (work (calls k) s.cache stage).2 } := by
    simp only [step, there]
  rw [stepped, SharedCache.stage, getD_put there, if_pos rfl]

/-- A call that holds the lock can go on. -/
theorem Ordered.goesOn_inside (ordered : Ordered calls s) (inside : (s.stage k).isInside = true) :
    ∃ deed, (s.step calls k deed).stage k ≠ s.stage k := by
  have seen := ordered.seen k
  have held := (ordered.placed.fits k).held inside
  cases stands : s.stage k with
  | entered =>
      refine ⟨.work, ?_⟩
      rw [stage_work (getElem?_of_stage stands (by simp))]
      exact (work_stage _ _ _).1
  | found =>
      rw [stands] at seen
      obtain ⟨_, bucket, asked, present⟩ := seen
      obtain ⟨region, region_eq⟩ := Option.isSome_iff_exists.mp present
      refine ⟨.work, ?_⟩
      rw [stage_work (getElem?_of_stage stands (by simp))]
      simp [SharedCache.work, asked, region_eq]
  | copying copied =>
      refine ⟨.work, ?_⟩
      rw [stage_work (getElem?_of_stage stands (by simp))]
      simp only [SharedCache.work]
      split <;> simp
  | answered answer =>
      have there := getElem?_of_stage stands (by simp)
      obtain ⟨lock, moved⟩ := ReadWriteLock.exists_leaveBlock held answer.isError
      refine ⟨.release, ?_⟩
      simp only [step, there, moved, leave, stage]
      rw [getD_put there, if_pos rfl]
      simp
  | _ => simp [stands] at inside

/-- While nobody holds the lock, one of the calls that have begun can take it. -/
theorem Ordered.goesOn_outside (ordered : Ordered calls s) (lively : Lively s)
    (nobody : ∀ j, (s.stage j).isInside = false) (begun : s.stage k = .begun) :
    ∃ j deed, (s.step calls j deed).stage j ≠ s.stage j := by
  have standing := fun j => (ordered.placed.fits j).of_outside (nobody j)
  have unheld : ∀ j, s.lock.stance j ≠ .reading ∧ s.lock.stance j ≠ .writing := by
    intro j
    rcases standing j with outside | ⟨_, notified, parked⟩
    · simp [outside]
    · rw [parked]
      cases (calls j).access <;> simp [Access.parked]
  by_cases waits : ∃ j, (s.lock.stance j).isParked = true
  · obtain ⟨j, lock, parked, moved, taken⟩ :=
      lively.watchful.exists_recheck ordered.placed.balanced waits unheld
    have stands : s.stage j = .begun := by
      rcases standing j with outside | ⟨begun, _⟩
      · rw [outside] at parked
        cases parked
      · exact begun
    have there := getElem?_of_stage stands (by simp)
    refine ⟨j, .recheck, ?_⟩
    have stepped : s.step calls j .recheck = s.enter j (some lock) := by
      simp only [step, there]
      rw [show Act.recheck.move j = .recheck j from rfl, moved]
    rw [stepped, stage_enter there taken, stands]
    simp
  -- Nobody is parked, so that no writer waits and every call may come in.
  · have there := getElem?_of_stage begun (by simp)
    have outside : s.lock.stance k = .outside := by
      rcases standing k with outside | ⟨_, notified, parked⟩
      · exact outside
      · exact absurd ⟨k, by rw [parked, Access.isParked_parked]⟩ waits
    obtain ⟨unwritten, unread⟩ := ordered.placed.balanced.counts_of_unheld unheld
    have unwaited : s.lock.counts.writersWaiting = 0 := by
      by_contra some
      obtain ⟨j, notified, parked⟩ :=
        ordered.placed.balanced.exists_waiting (Nat.pos_of_ne_zero some)
      exact waits ⟨j, by rw [parked]; rfl⟩
    have within : k < s.lock.uses.length := by
      rw [lively.made]
      exact (List.getElem?_eq_some_iff.mp there).1
    obtain ⟨lock, moved, holds⟩ := ReadWriteLock.exists_enterBlock within outside
      (ReadWriteLock.LockCounts.canRead_iff.mpr ⟨unwritten, unwaited⟩)
      (ReadWriteLock.LockCounts.canWrite_iff.mpr ⟨unwritten, unread⟩)
    refine ⟨k, .acquire, ?_⟩
    have stepped : s.step calls k .acquire = s.enter k (some lock) := by
      simp only [step, there]
      rw [moved]
    rw [stepped, stage_enter there (by rw [holds, Access.isParked_held]), begun]
    simp

/-! ## The whole schedule -/

theorem Ordered.answer_eq (ordered : Ordered calls s) {answer : Answer}
    (told : s.stage k = .answered answer ∨ s.stage k = .returned answer) :
    answer = (calls k).answer (replay calls (before k s.entered)) := by
  have seen := ordered.seen k
  rcases told with answered | returned
  · rw [answered] at seen
    exact seen
  · rw [returned] at seen
    exact seen

/-- A call that looks a bucket up while another one stores its region waits, and finds it. -/
example :
    ((start 2).run (fun k => if k = 0 then .set "photos" "eu-west-1" else .get "photos")
      [(0, .begin), (1, .begin), (0, .acquire), (1, .acquire), (0, .work), (0, .release),
        (1, .recheck), (1, .work), (1, .work), (1, .release)]).stages =
      [.returned .done, .returned (.region "eu-west-1" true)] := by
  decide

end BucketRegion.SharedCache

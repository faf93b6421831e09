import BucketRegion.Proofs.ReadWriteLock.Waking
import BucketRegion.SharedCache

/-!
# Sections of the shared cache

What a deed of a call can come to, and what all deeds keep: each call stands at the lock where its
stage says, so that a call that writes has the cache to itself, and each call has seen the cache
that the calls before it leave.
-/

set_option autoImplicit false

namespace BucketRegion.ReadWriteLock

/-- The stance of a use that holds the lock. -/
def Access.held : Access → Stance
  | read => .reading
  | write => .writing

/-- The stance of a use that waits for the lock. -/
def Access.parked (notified : Bool) : Access → Stance
  | read => .parkedReader notified
  | write => .parkedWriter notified

variable {l l' : ReadWriteLock} {access : Access} {k : Nat}

theorem stance_at {c : LockCounts} {old : Stance} (there : l.uses[k]? = some old) (new : Stance) :
    (⟨c, l.uses.set k new⟩ : ReadWriteLock).stance k = new := by
  rw [stance_set there, if_pos rfl]

theorem Goes.stance_enterBlock (goes : Goes l ((Act.enterBlock access).move k) l') :
    l'.stance k = access.held ∨ l'.stance k = access.parked false := by
  cases access with
  | read =>
      cases goes with
      | reads there _ => exact .inl (stance_at there _)
      | parksReader there _ => exact .inr (stance_at there _)
  | write =>
      cases goes with
      | writes there _ => exact .inl (stance_at there _)
      | parksWriter there _ => exact .inr (stance_at there _)

theorem Goes.parked_of_recheck (goes : Goes l (.recheck k) l') : (l.stance k).isParked = true := by
  cases goes with
  | readsAfterAll there _ => rw [stance_eq there]; rfl
  | parksReaderAgain there _ => rw [stance_eq there]; rfl
  | writesAfterAll there _ => rw [stance_eq there]; rfl
  | parksWriterAgain there _ => rw [stance_eq there]; rfl

theorem Goes.stance_recheck (goes : Goes l (.recheck k) l') {notified : Bool}
    (waits : l.stance k = access.parked notified) :
    l'.stance k = access.held ∨ l'.stance k = access.parked false := by
  cases access with
  | read =>
      cases goes with
      | readsAfterAll there _ => exact .inl (stance_at there _)
      | parksReaderAgain there _ => exact .inr (stance_at there _)
      | writesAfterAll there _ => rw [stance_eq there] at waits; cases waits
      | parksWriterAgain there _ => rw [stance_eq there] at waits; cases waits
  | write =>
      cases goes with
      | readsAfterAll there _ => rw [stance_eq there] at waits; cases waits
      | parksReaderAgain there _ => rw [stance_eq there] at waits; cases waits
      | writesAfterAll there _ => exact .inl (stance_at there _)
      | parksWriterAgain there _ => exact .inr (stance_at there _)

theorem Goes.stance_leaveBlock {raised : Bool}
    (goes : Goes l ((Act.leaveBlock access raised).move k) l') : l'.stance k = .outside := by
  cases access with
  | read =>
      cases goes with
      | leavesReaders there _ => exact stance_at there _
      | leavesLast there _ => rw [stance_notify, stance_at there]; rfl
  | write =>
      cases goes with
      | leavesWriter there => rw [stance_notify, stance_at there]; rfl

end BucketRegion.ReadWriteLock

namespace BucketRegion.SharedCache

open ReadWriteLock (Access Act Move Goes Balanced)

variable {calls : Nat → Call} {s s' : SharedCache} {k : Nat}

/-! ## Stages -/

/-- Whether a call holds the lock. -/
@[simp] def Stage.isInside : Stage → Bool
  | entered => true
  | found => true
  | copying _ => true
  | answered _ => true
  | _ => false

/-- Whether a call has come to hold the lock. -/
@[simp] def Stage.hasEntered : Stage → Bool
  | returned _ => true
  | stage => stage.isInside

theorem stage_eq {stage : Stage} (there : s.stages[k]? = some stage) : s.stage k = stage :=
  getD_of_getElem? there

theorem getElem?_of_stage {stage : Stage} (stands : s.stage k = stage) (made : stage ≠ .ahead) :
    s.stages[k]? = some stage :=
  getElem?_of_getD stands made

theorem stage_start (n k : Nat) : (start n).stage k = .ahead :=
  getD_replicate_default n k Stage.ahead

/-! ## Ways that a deed can go -/

/-- The moves by which a call tries to take the lock. -/
def Tries (access : Access) (k : Nat) (move : Move) : Prop :=
  move = (Act.enterBlock access).move k ∨ move = .recheck k

/-- What a deed of a call can come to. -/
inductive Turns (calls : Nat → Call) (s : SharedCache) (k : Nat) : SharedCache → Prop where
  | idles : Turns calls s k s
  | begins (there : s.stages[k]? = some .ahead) :
      Turns calls s k { s with stages := s.stages.set k .begun }
  | waits {move : Move} {lock : ReadWriteLock} (there : s.stages[k]? = some .begun)
      (tries : Tries (calls k).access k move) (goes : Goes s.lock move lock)
      (parked : (lock.stance k).isParked = true) : Turns calls s k { s with lock := lock }
  | enters {move : Move} {lock : ReadWriteLock} (there : s.stages[k]? = some .begun)
      (tries : Tries (calls k).access k move) (goes : Goes s.lock move lock)
      (taken : (lock.stance k).isParked = false) :
      Turns calls s k
        { s with
          lock := lock
          stages := s.stages.set k .entered
          entered := s.entered ++ [k] }
  | stops {lock : ReadWriteLock} (there : s.stages[k]? = some .begun)
      (goes : Goes s.lock (.interrupt k) lock) :
      Turns calls s k { s with lock := lock, stages := s.stages.set k .interrupted }
  | works {stage : Stage} (there : s.stages[k]? = some stage) :
      Turns calls s k
        { s with
          cache := (work (calls k) s.cache stage).1
          stages := s.stages.set k (work (calls k) s.cache stage).2 }
  | leaves {answer : Answer} {lock : ReadWriteLock} (there : s.stages[k]? = some (.answered answer))
      (goes : Goes s.lock ((Act.leaveBlock (calls k).access answer.isError).move k) lock) :
      Turns calls s k { s with lock := lock, stages := s.stages.set k (.returned answer) }

private theorem turns_enter {move : Move} (there : s.stages[k]? = some .begun)
    (tries : Tries (calls k).access k move) : Turns calls s k (s.enter k (s.lock.move? move)) := by
  cases moved : s.lock.move? move with
  | none => exact .idles
  | some lock =>
      have goes := ReadWriteLock.goes_of_move? moved
      cases parked : (lock.stance k).isParked with
      | true =>
          simp only [enter, parked, if_true]
          exact .waits there tries goes parked
      | false =>
          simp only [enter, parked, Bool.false_eq_true, if_false]
          exact .enters there tries goes parked

/-- Every deed goes one of these ways. -/
theorem turns_step (calls : Nat → Call) (s : SharedCache) (k : Nat) (deed : Deed) :
    Turns calls s k (s.step calls k deed) := by
  unfold step
  split
  · next there => exact .begins there
  · next there => exact turns_enter there (.inl rfl)
  · next there => exact turns_enter there (.inr rfl)
  · next there =>
      cases moved : s.lock.move? (Act.interrupt.move k) with
      | none => exact .idles
      | some lock => exact .stops there (ReadWriteLock.goes_of_move? moved)
  · next there => exact .works there
  · next answer there =>
      cases moved : s.lock.move? ((Act.leaveBlock (calls k).access answer.isError).move k) with
      | none => exact .idles
      | some lock => exact .leaves there (ReadWriteLock.goes_of_move? moved)
  · exact .idles

/-- What every deed keeps, holds after every schedule. -/
theorem run_keeps {P : SharedCache → Prop} (holds : P s)
    (keeps : ∀ {s s' : SharedCache} {k : Nat}, Turns calls s k s' → P s → P s')
    (schedule : List (Nat × Deed)) : P (s.run calls schedule) := by
  induction schedule generalizing s with
  | nil => exact holds
  | cons step rest ih =>
      obtain ⟨k, deed⟩ := step
      exact ih (keeps (turns_step calls s k deed) holds)

theorem Tries.use_eq {access : Access} {move : Move} (tries : Tries access k move) :
    move.use = k := by
  rcases tries with rfl | rfl
  · cases access <;> rfl
  · rfl

theorem use_leaveBlock (access : Access) (raised : Bool) :
    ((Act.leaveBlock access raised).move k).use = k := by
  cases access <;> rfl

/-! ## Steps of work -/

theorem work_cache (call : Call) (cache : LocationCache) (stage : Stage) :
    (work call cache stage).1 = if stage = .entered then call.after cache else cache := by
  cases stage with
  | entered => cases call <;> simp [work, Call.after]; split <;> rfl
  | found => cases call <;> simp [work]; split <;> rfl
  | copying copied => simp only [work]; split <;> rfl
  | _ => rfl

/-- A step of work does not take a call out of its section or into it. -/
theorem work_stage (call : Call) (cache : LocationCache) (stage : Stage) :
    (work call cache stage).2 ≠ .entered ∧
      (work call cache stage).2.hasEntered = stage.hasEntered := by
  cases stage with
  | entered => cases call <;> simp [work]; split <;> simp
  | found => cases call <;> simp [work]; split <;> simp
  | copying copied => simp only [work]; split <;> simp
  | _ => simp [work]

theorem after_of_reads {call : Call} (reads : call.access = .read) (cache : LocationCache) :
    call.after cache = cache := by
  cases call <;> first | rfl | cases reads

/-! ## Where calls stand at the lock -/

/-- The stances at the lock that go with a stage. -/
def Fits (access : Access) : Stage → Stance → Prop
  | .ahead, stance => stance = .outside
  | .begun, stance => stance = .outside ∨ ∃ notified, stance = access.parked notified
  | .entered, stance => stance = access.held
  | .found, stance => stance = access.held
  | .copying _, stance => stance = access.held
  | .answered _, stance => stance = access.held
  | .returned _, stance => stance = .outside
  | .interrupted, stance => stance = .outside

theorem Access.notify_held (access : Access) : access.held.notify = access.held := by
  cases access <;> rfl

theorem Access.notify_parked (access : Access) (notified : Bool) :
    (access.parked notified).notify = access.parked true := by
  cases access <;> rfl

theorem Fits.notify {access : Access} {stage : Stage} {stance : Stance}
    (fits : Fits access stage stance) : Fits access stage stance.notify := by
  cases stage with
  | begun =>
      rcases fits with rfl | ⟨notified, rfl⟩
      · exact .inl rfl
      · exact .inr ⟨true, Access.notify_parked access notified⟩
  | ahead => cases fits; rfl
  | returned => cases fits; rfl
  | interrupted => cases fits; rfl
  | _ => cases fits; exact Access.notify_held access

theorem Fits.work {access : Access} {stage : Stage} {stance : Stance}
    (fits : Fits access stage stance) (call : Call) (cache : LocationCache) :
    Fits access (work call cache stage).2 stance := by
  cases stage with
  | entered =>
      cases call with
      | get bucket => simp only [SharedCache.work]; split <;> exact fits
      | _ => exact fits
  | found =>
      cases call with
      | get bucket => simp only [SharedCache.work]; split <;> exact fits
      | _ => exact fits
  | copying copied => simp only [SharedCache.work]; split <;> exact fits
  | _ => exact fits

theorem Fits.held {access : Access} {stage : Stage} {stance : Stance}
    (fits : Fits access stage stance) (inside : stage.isInside = true) :
    stance = access.held := by
  cases stage <;> first | exact fits | cases inside

/-- A call that does not hold the lock waits for it at most. -/
theorem Fits.of_outside {access : Access} {stage : Stage} {stance : Stance}
    (fits : Fits access stage stance) (outside : stage.isInside = false) :
    stance = .outside ∨ stage = .begun ∧ ∃ notified, stance = access.parked notified := by
  cases stage with
  | ahead => exact .inl fits
  | begun => exact fits.imp_right fun waits => ⟨rfl, waits⟩
  | returned => exact .inl fits
  | interrupted => exact .inl fits
  | _ => cases outside

/-- The lock is in balance, and every call stands at it where its stage says. -/
structure Placed (calls : Nat → Call) (s : SharedCache) : Prop where
  balanced : Balanced s.lock
  fits : ∀ k, Fits (calls k).access (s.stage k) (s.lock.stance k)

theorem placed_start (calls : Nat → Call) (n : Nat) : Placed calls (start n) where
  balanced := ReadWriteLock.balanced_withUses n
  fits k := by
    rw [stage_start]
    exact ReadWriteLock.stance_withUses n k

/-- A call that writes has the cache to itself. -/
theorem Placed.alone (placed : Placed calls s) (writes : (calls k).access = .write)
    (inside : (s.stage k).isInside = true) {j : Nat} (other : (s.stage j).isInside = true) :
    k = j := by
  have mine : s.lock.stance k = .writing := by
    rw [(placed.fits k).held inside, writes]
    rfl
  refine placed.balanced.exclusive mine ?_
  rw [(placed.fits j).held other]
  cases (calls j).access with
  | read => exact .inl rfl
  | write => exact .inr rfl

/-- A call moves at the lock and comes into a stage that goes with its new stance. -/
theorem Placed.goes (placed : Placed calls s) {move : Move} {lock : ReadWriteLock}
    (goes : Goes s.lock move lock) (mine : move.use = k) {stages : List Stage}
    (others : ∀ j, j ≠ k → stages.getD j .ahead = s.stage j)
    (fits : Fits (calls k).access (stages.getD k .ahead) (lock.stance k)) {cache : LocationCache}
    {entered : List Nat} : Placed calls ⟨lock, cache, stages, entered⟩ where
  balanced := placed.balanced.goes goes
  fits j := by
    by_cases same : j = k
    · subst same
      exact fits
    · have fitted := placed.fits j
      rw [← others j same] at fitted
      change Fits _ _ (lock.stance j)
      rcases goes.stance_other (mine ▸ same) with kept | notified
      · rw [kept]
        exact fitted
      · rw [notified]
        exact fitted.notify

theorem Tries.stance {access : Access} {move : Move} {lock : ReadWriteLock}
    (tries : Tries access k move) (goes : Goes s.lock move lock)
    (fits : Fits access .begun (s.lock.stance k)) :
    lock.stance k = access.held ∨ lock.stance k = access.parked false := by
  rcases tries with rfl | rfl
  · exact goes.stance_enterBlock
  · rcases fits with outside | ⟨notified, waits⟩
    · have parked := goes.parked_of_recheck
      rw [outside] at parked
      cases parked
    · exact goes.stance_recheck waits

theorem Access.isParked_held (access : Access) : access.held.isParked = false := by
  cases access <;> rfl

theorem Access.isParked_parked (access : Access) (notified : Bool) :
    (access.parked notified).isParked = true := by
  cases access <;> rfl

theorem Placed.turns (placed : Placed calls s) (turns : Turns calls s k s') : Placed calls s' := by
  cases turns with
  | idles => exact placed
  | begins there =>
      refine ⟨placed.balanced, fun j => ?_⟩
      have fitted := placed.fits j
      rw [SharedCache.stage, getD_put there]
      split
      · next same =>
          subst same
          rw [stage_eq there] at fitted
          exact .inl fitted
      · exact fitted
  | waits there tries goes parked =>
      refine placed.goes goes tries.use_eq (fun _ _ => rfl) ?_
      have fitted := placed.fits k
      change Fits _ (s.stage k) _
      rw [stage_eq there] at fitted ⊢
      rcases tries.stance goes fitted with held | waits
      · rw [held, Access.isParked_held] at parked
        cases parked
      · exact .inr ⟨false, waits⟩
  | enters there tries goes taken =>
      refine placed.goes goes tries.use_eq (fun j other => ?_) ?_
      · rw [getD_put there, if_neg other]
        rfl
      · have fitted := placed.fits k
        rw [stage_eq there] at fitted
        rw [getD_put there, if_pos rfl]
        rcases tries.stance goes fitted with held | waits
        · exact held
        · rw [waits, Access.isParked_parked] at taken
          cases taken
  | stops there goes =>
      have mine : (Move.interrupt k).use = k := rfl
      refine placed.goes goes mine (fun j other => ?_) ?_
      · rw [getD_put there, if_neg other]
        rfl
      · rw [getD_put there, if_pos rfl]
        exact ReadWriteLock.stance_eq goes.outside_of_interrupt
  | works there =>
      refine ⟨placed.balanced, fun j => ?_⟩
      have fitted := placed.fits j
      rw [SharedCache.stage, getD_put there]
      split
      · next same =>
          subst same
          rw [stage_eq there] at fitted
          exact fitted.work _ _
      · exact fitted
  | leaves there goes =>
      refine placed.goes goes (use_leaveBlock _ _) (fun j other => ?_) ?_
      · rw [getD_put there, if_neg other]
        rfl
      · rw [getD_put there, if_pos rfl]
        exact goes.stance_leaveBlock

end BucketRegion.SharedCache

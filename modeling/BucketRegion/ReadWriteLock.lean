/-!
# A lock for readers and writers

Many threads may read at once, or one may write. A waiting writer keeps new readers out. A thread
that cannot go on is parked until it is notified; it then checks again whether it may go on, and
is parked anew if not. Parked threads are notified when the last reader leaves, when a writer
leaves, and when a waiting writer gives up.

A use of the lock lasts from the call that acquires to the one that releases. The lock does not
know its threads: one that acquires it again while it holds it makes another use.
-/

set_option autoImplicit false

namespace BucketRegion

/-- What the lock counts. Leaving is not checked against entering, so the number of readers may
become negative. -/
structure LockCounts where
  readers : Int
  writer : Bool
  writersWaiting : Nat
  deriving Repr, DecidableEq

namespace LockCounts

/-- A lock that nobody holds. -/
def free : LockCounts := ⟨0, false, 0⟩

def canRead (c : LockCounts) : Bool := !c.writer && c.writersWaiting == 0

def canWrite (c : LockCounts) : Bool := !c.writer && c.readers == 0

end LockCounts

/-- How far a use of the lock has come; one that is parked may have been notified since. -/
inductive Stance where
  | outside
  | reading
  | writing
  | parkedReader (notified : Bool)
  | parkedWriter (notified : Bool)
  deriving Repr, DecidableEq

namespace Stance

/-- Notifies a use; only parked ones take notice. -/
def notify : Stance → Stance
  | parkedReader _ => parkedReader true
  | parkedWriter _ => parkedWriter true
  | stance => stance

@[simp] def reads : Stance → Bool
  | reading => true
  | _ => false

@[simp] def writes : Stance → Bool
  | writing => true
  | _ => false

@[simp] def waitsToWrite : Stance → Bool
  | parkedWriter _ => true
  | _ => false

@[simp] def isParked : Stance → Bool
  | parkedReader _ => true
  | parkedWriter _ => true
  | _ => false

end Stance

/-- The lock and the uses that are made of it, by their numbers. -/
structure ReadWriteLock where
  counts : LockCounts
  uses : List Stance
  deriving Repr, DecidableEq

namespace ReadWriteLock

/-- A free lock that nobody uses. -/
def new : ReadWriteLock := ⟨.free, []⟩

def notifyAll (l : ReadWriteLock) : ReadWriteLock :=
  { l with uses := l.uses.map Stance.notify }

/-- How a thread comes out of an attempt to read: it reads, or is parked. -/
def enterRead (c : LockCounts) : LockCounts × Stance :=
  if c.canRead then ({ c with readers := c.readers + 1 }, .reading)
  else (c, .parkedReader false)

/-- How a thread comes out of an attempt to write: it writes, or is parked and counted. -/
def enterWrite (c : LockCounts) : LockCounts × Stance :=
  if c.canWrite then ({ c with writer := true }, .writing)
  else ({ c with writersWaiting := c.writersWaiting + 1 }, .parkedWriter false)

/-- A notified thread checks again; any other is left as it is. -/
def recheck (c : LockCounts) : Stance → LockCounts × Stance
  | .parkedReader true => enterRead c
  | .parkedWriter true =>
      if c.canWrite then
        ({ c with writer := true, writersWaiting := c.writersWaiting - 1 }, .writing)
      else (c, .parkedWriter false)
  | stance => (c, stance)

/-- A reader leaves; the last one notifies all. -/
def leaveRead (l : ReadWriteLock) : ReadWriteLock :=
  let l := { l with counts := { l.counts with readers := l.counts.readers - 1 } }
  if l.counts.readers == 0 then l.notifyAll else l

/-- A writer leaves and notifies all. -/
def leaveWrite (l : ReadWriteLock) : ReadWriteLock :=
  { l with counts := { l.counts with writer := false } }.notifyAll

/-- A waiting writer gives up and notifies all: readers may be parked behind it. -/
def abandonWrite (l : ReadWriteLock) : ReadWriteLock :=
  { l with counts := { l.counts with writersWaiting := l.counts.writersWaiting - 1 } }.notifyAll

/-- The stance of a use; one that was never made is outside. -/
def stance (l : ReadWriteLock) (i : Nat) : Stance := l.uses.getD i .outside

/-- Puts use `i` into the state that it came out with. -/
def place (l : ReadWriteLock) (i : Nat) (result : LockCounts × Stance) : ReadWriteLock :=
  ⟨result.1, l.uses.set i result.2⟩

/-- One indivisible step of a use of the lock. -/
inductive Move where
  | acquireRead (use : Nat)
  | acquireWrite (use : Nat)
  | recheck (use : Nat)
  | interrupt (use : Nat)
  | releaseRead (use : Nat)
  | releaseWrite (use : Nat)
  deriving Repr, DecidableEq

/-- The lock after a move, if the use is in a position to make it: it enters from outside, leaves
what it holds, and is interrupted while it is parked. -/
def move? (l : ReadWriteLock) : Move → Option ReadWriteLock
  | .acquireRead i =>
      if i < l.uses.length && l.stance i == .outside then
        some (l.place i (enterRead l.counts))
      else none
  | .acquireWrite i =>
      if i < l.uses.length && l.stance i == .outside then
        some (l.place i (enterWrite l.counts))
      else none
  | .recheck i =>
      match l.stance i with
      | .parkedReader true => some (l.place i (ReadWriteLock.recheck l.counts (.parkedReader true)))
      | .parkedWriter true => some (l.place i (ReadWriteLock.recheck l.counts (.parkedWriter true)))
      | _ => none
  | .interrupt i =>
      match l.stance i with
      | .parkedReader _ => some (l.place i (l.counts, .outside))
      | .parkedWriter _ => some (l.place i (l.counts, .outside)).abandonWrite
      | _ => none
  | .releaseRead i =>
      if l.stance i == .reading then some (l.place i (l.counts, .outside)).leaveRead else none
  | .releaseWrite i =>
      if l.stance i == .writing then some (l.place i (l.counts, .outside)).leaveWrite else none

/-- Lets the uses of a list check again, one after the other. -/
def recheckAll : LockCounts → List Stance → LockCounts × List Stance
  | c, [] => (c, [])
  | c, stance :: rest =>
      let (c, stance) := recheck c stance
      let (c, rest) := recheckAll c rest
      (c, stance :: rest)

/-- Lets every notified use check again. A check notifies nobody, so afterwards every waiting one
is parked. -/
def settle (l : ReadWriteLock) : ReadWriteLock :=
  let (counts, uses) := recheckAll l.counts l.uses
  ⟨counts, uses⟩

/-- A new thread enters and reads, or waits. -/
def spawnReader (l : ReadWriteLock) : ReadWriteLock :=
  let (counts, stance) := enterRead l.counts
  ⟨counts, l.uses ++ [stance]⟩

/-- A new thread enters and writes, or waits. -/
def spawnWriter (l : ReadWriteLock) : ReadWriteLock :=
  let (counts, stance) := enterWrite l.counts
  ⟨counts, l.uses ++ [stance]⟩

/-- Reads for a caller that does not wait: none if it would have to. -/
def tryRead? (l : ReadWriteLock) : Option ReadWriteLock :=
  if l.counts.canRead then some { l with counts := (enterRead l.counts).1 } else none

/-- Writes for a caller whose wait is interrupted at once: it writes, or gives up; the second part
says which. -/
def tryWrite (l : ReadWriteLock) : ReadWriteLock × Bool :=
  let (counts, stance) := enterWrite l.counts
  let entered := { l with counts := counts }
  if stance == .writing then (entered, true) else (entered.abandonWrite, false)

/-- How many uses are in a given stance. -/
def count (p : Stance → Bool) (l : ReadWriteLock) : Nat := l.uses.countP p

/-! ## Threads -/

/-- What a lock is taken for. -/
inductive Access where
  | read
  | write
  deriving Repr, DecidableEq

/-- What a thread does next at one of its uses. -/
inductive Act where
  | acquire (access : Access)
  | release (access : Access)
  /-- A block under the lock begins. -/
  | enterBlock (access : Access)
  /-- A block under the lock ends, by itself or because an error is raised in it. -/
  | leaveBlock (access : Access) (raised : Bool)
  | recheck
  /-- An error is raised while the thread waits. -/
  | interrupt
  deriving Repr, DecidableEq

/-- The move that an act makes: a block is entered by acquiring the lock and left by releasing it,
however it ends. -/
def Act.move (use : Nat) : Act → Move
  | acquire .read => .acquireRead use
  | acquire .write => .acquireWrite use
  | release .read => .releaseRead use
  | release .write => .releaseWrite use
  | enterBlock .read => .acquireRead use
  | enterBlock .write => .acquireWrite use
  | leaveBlock .read _ => .releaseRead use
  | leaveBlock .write _ => .releaseWrite use
  | recheck => .recheck use
  | interrupt => .interrupt use

/-- Whether the thread that makes a use waits at another one; `owner` tells which thread makes a
use. -/
def isHeldUp (owner : Nat → Nat) (l : ReadWriteLock) (use : Nat) : Bool :=
  (List.range l.uses.length).any fun other =>
    other != use && owner other == owner use && (l.stance other).isParked

/-- The lock after an act. A thread that waits at one use does nothing at another, and an act that
the use is in no position for does nothing. -/
def act (owner : Nat → Nat) (l : ReadWriteLock) (step : Nat × Act) : ReadWriteLock :=
  if l.isHeldUp owner step.1 then l else (l.move? (step.2.move step.1)).getD l

/-- The lock after the acts of a schedule. -/
def run (owner : Nat → Nat) (l : ReadWriteLock) (schedule : List (Nat × Act)) : ReadWriteLock :=
  schedule.foldl (act owner) l

/-- A free lock of which as many uses may be made at a time. -/
def withUses (n : Nat) : ReadWriteLock := ⟨.free, List.replicate n .outside⟩

end ReadWriteLock

end BucketRegion

import BucketRegion.LocationCache
import BucketRegion.ReadWriteLock

/-!
# The location cache under its lock

Calls of many threads on one cache. A call waits for the lock, does its work in a few steps while
others that read may do theirs, and leaves the lock. Looking a bucket up tests first whether it is
there and reads its region afterwards; a snapshot is copied entry by entry.
-/

set_option autoImplicit false

namespace BucketRegion

namespace SharedCache

open ReadWriteLock (Access)

/-- What a thread asks of the cache. -/
inductive Call where
  | get (bucket : String)
  | set (bucket region : String)
  | delete (bucket : String)
  | snapshot
  | size
  deriving Repr, DecidableEq

/-- What a call comes back with. -/
inductive Answer where
  | region (region : String) (present : Bool)
  | done
  | entries (entries : List (String × String))
  | size (size : Nat)
  /-- A key has been read that is not there. -/
  | missingKey (key : String)
  deriving Repr, DecidableEq

/-- How far a call has come. -/
inductive Stage where
  | ahead
  | begun
  | entered
  /-- The bucket is there, and its region is read next. -/
  | found
  | copying (copied : List (String × String))
  /-- The lock is left next. -/
  | answered (answer : Answer)
  | returned (answer : Answer)
  | interrupted
  deriving Repr, DecidableEq

/-- What a call can do next. -/
inductive Deed where
  | begin
  | acquire
  | recheck
  | interrupt
  | work
  | release
  deriving Repr, DecidableEq

def Call.access : Call → Access
  | get _ => .read
  | set _ _ => .write
  | delete _ => .write
  | snapshot => .read
  | size => .read

def Answer.isError : Answer → Bool
  | missingKey _ => true
  | _ => false

/-- One step of a call that holds the lock. -/
def work (call : Call) (cache : LocationCache) : Stage → LocationCache × Stage
  | .entered =>
      match call with
      | .get bucket =>
          if (cache.get? bucket).isSome then (cache, .found)
          else (cache, .answered (.region "" false))
      | .set bucket region => (cache.set bucket region, .answered .done)
      | .delete bucket => (cache.delete bucket, .answered .done)
      | .snapshot => (cache, .copying [])
      | .size => (cache, .answered (.size cache.size))
  | .found =>
      match call with
      | .get bucket =>
          match cache.get? bucket with
          | some region => (cache, .answered (.region region true))
          | none => (cache, .answered (.missingKey bucket))
      | _ => (cache, .found)
  | .copying copied =>
      match cache.entries[copied.length]? with
      | some entry => (cache, .copying (copied ++ [entry]))
      | none => (cache, .answered (.entries copied))
  | stage => (cache, stage)

end SharedCache

/-- A cache in use. Each call makes one use of the lock; `entered` has the calls that have come to
hold the lock, in the order in which they did. -/
structure SharedCache where
  lock : ReadWriteLock
  cache : LocationCache
  stages : List SharedCache.Stage
  entered : List Nat
  deriving Repr, DecidableEq

namespace SharedCache

open ReadWriteLock (Act)

/-- An empty cache and a number of calls that are yet to be made. -/
def start (n : Nat) : SharedCache := ⟨.withUses n, .empty, List.replicate n .ahead, []⟩

def stage (s : SharedCache) (k : Nat) : Stage := s.stages.getD k .ahead

/-- A call comes out of an attempt to take the lock: it holds the lock, or is parked. -/
def enter (s : SharedCache) (k : Nat) : Option ReadWriteLock → SharedCache
  | none => s
  | some lock =>
      if (lock.stance k).isParked then { s with lock := lock }
      else
        { s with
          lock := lock
          stages := s.stages.set k .entered
          entered := s.entered ++ [k] }

/-- A call has nothing more to do with the lock. -/
def leave (s : SharedCache) (k : Nat) (last : Stage) : Option ReadWriteLock → SharedCache
  | none => s
  | some lock => { s with lock := lock, stages := s.stages.set k last }

/-- The cache after a deed of a call. A deed that the call is in no position for does nothing. -/
def step (calls : Nat → Call) (s : SharedCache) (k : Nat) (deed : Deed) : SharedCache :=
  match deed, s.stages[k]? with
  | .begin, some .ahead => { s with stages := s.stages.set k .begun }
  | .acquire, some .begun =>
      s.enter k (s.lock.move? ((Act.enterBlock (calls k).access).move k))
  | .recheck, some .begun => s.enter k (s.lock.move? (Act.recheck.move k))
  | .interrupt, some .begun => s.leave k .interrupted (s.lock.move? (Act.interrupt.move k))
  | .work, some stage =>
      { s with
        cache := (work (calls k) s.cache stage).1
        stages := s.stages.set k (work (calls k) s.cache stage).2 }
  | .release, some (.answered answer) =>
      s.leave k (.returned answer)
        (s.lock.move? ((Act.leaveBlock (calls k).access answer.isError).move k))
  | _, _ => s

/-- The cache after the deeds of a schedule. -/
def run (calls : Nat → Call) (s : SharedCache) (schedule : List (Nat × Deed)) : SharedCache :=
  schedule.foldl (fun s turn => s.step calls turn.1 turn.2) s

/-! ## One call at a time -/

/-- What a call makes of a cache that it has to itself. -/
def Call.after : Call → LocationCache → LocationCache
  | set bucket region, cache => cache.set bucket region
  | delete bucket, cache => cache.delete bucket
  | _, cache => cache

/-- What a call tells of a cache that it has to itself. -/
def Call.answer : Call → LocationCache → Answer
  | get bucket, cache =>
      match cache.get? bucket with
      | some region => .region region true
      | none => .region "" false
  | set _ _, _ => .done
  | delete _, _ => .done
  | snapshot, cache => .entries cache.entries
  | size, cache => .size cache.size

/-- The cache after some calls, made one after the other. -/
def replay (calls : Nat → Call) (order : List Nat) : LocationCache :=
  order.foldl (fun cache k => (calls k).after cache) .empty

/-- The calls of an order that come before one. -/
def before (k : Nat) (order : List Nat) : List Nat := order.takeWhile (· != k)

end SharedCache

end BucketRegion

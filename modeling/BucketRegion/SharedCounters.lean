import BucketRegion.Counters

/-!
# Counters under their mutex

Calls of many threads on one registry of counters. A call takes the mutex, does its work in a few
steps and gives the mutex back. Adding an amount reads the count first and writes the sum
afterwards; a snapshot is copied entry by entry.
-/

set_option autoImplicit false

namespace BucketRegion

namespace SharedCounters

/-- What a thread asks of the counters. -/
inductive Call where
  | incr (name : String) (amount : Int)
  | incrStatus (status : Int)
  | get (name : String)
  | snapshot
  deriving Repr, DecidableEq

/-- What a call comes back with. -/
inductive Answer where
  | done
  | value (n : Int)
  | entries (entries : List (String × Int))
  deriving Repr, DecidableEq

/-- How far a call has come. -/
inductive Stage where
  | ahead
  | begun
  | entered
  /-- The count has been read, and its sum with the amount is written next. -/
  | summed (sum : Int)
  | copying (copied : List (String × Int))
  /-- The mutex is given back next. -/
  | answered (answer : Answer)
  | returned (answer : Answer)
  deriving Repr, DecidableEq

/-- What a call can do next. -/
inductive Deed where
  | begin
  | acquire
  | work
  | release
  deriving Repr, DecidableEq

/-- The name that a call counts under and the amount that it adds. -/
def Call.increment? : Call → Option (String × Int)
  | incr name amount => some (name, amount)
  | incrStatus status => some (Counters.statusName status, 1)
  | get _ => none
  | snapshot => none

/-- One step of a call that holds the mutex. -/
def work (call : Call) (c : Counters) : Stage → Counters × Stage
  | .entered =>
      match call with
      | .incr name amount => (c, .summed (c.get name + amount))
      | .incrStatus status => (c, .summed (c.get (Counters.statusName status) + 1))
      | .get name => (c, .answered (.value (c.get name)))
      | .snapshot => (c, .copying [])
  | .summed sum =>
      match call.increment? with
      | some (name, _) => (⟨Fields.put name sum c.entries⟩, .answered .done)
      | none => (c, .summed sum)
  | .copying copied =>
      match c.entries[copied.length]? with
      | some entry => (c, .copying (copied ++ [entry]))
      | none => (c, .answered (.entries copied))
  | stage => (c, stage)

end SharedCounters

/-- Counters in use: the call that holds the mutex, the counts, and how far each call has come;
`entered` has the calls that have taken the mutex, in the order in which they did. -/
structure SharedCounters where
  holder : Option Nat
  counters : Counters
  stages : List SharedCounters.Stage
  entered : List Nat
  deriving Repr, DecidableEq

namespace SharedCounters

/-- New counters and a number of calls that are yet to be made. -/
def start (n : Nat) : SharedCounters := ⟨none, .initial, List.replicate n .ahead, []⟩

def stage (s : SharedCounters) (k : Nat) : Stage := s.stages.getD k .ahead

/-- The counters after a deed of a call. A deed that the call is in no position for does nothing:
so a call waits for the mutex as long as another one holds it. -/
def step (calls : Nat → Call) (s : SharedCounters) (k : Nat) (deed : Deed) : SharedCounters :=
  match deed, s.stages[k]? with
  | .begin, some .ahead => { s with stages := s.stages.set k .begun }
  | .acquire, some .begun =>
      match s.holder with
      | some _ => s
      | none =>
          { s with
            holder := some k
            stages := s.stages.set k .entered
            entered := s.entered ++ [k] }
  | .work, some stage =>
      { s with
        counters := (work (calls k) s.counters stage).1
        stages := s.stages.set k (work (calls k) s.counters stage).2 }
  | .release, some (.answered answer) =>
      { s with holder := none, stages := s.stages.set k (.returned answer) }
  | _, _ => s

/-- The counters after the deeds of a schedule. -/
def run (calls : Nat → Call) (s : SharedCounters) (schedule : List (Nat × Deed)) :
    SharedCounters :=
  schedule.foldl (fun s turn => s.step calls turn.1 turn.2) s

/-! ## One call at a time -/

/-- What a call makes of counters that it has to itself. -/
def Call.after : Call → Counters → Counters
  | incr name amount, c => c.add name amount
  | incrStatus status, c => c.incrStatus status
  | _, c => c

/-- What a call tells of counters that it has to itself. -/
def Call.answer : Call → Counters → Answer
  | get name, c => .value (c.get name)
  | snapshot, c => .entries c.entries
  | _, _ => .done

/-- The counters after some calls, made one after the other. -/
def replay (calls : Nat → Call) (order : List Nat) : Counters :=
  order.foldl (fun c k => (calls k).after c) .initial

end SharedCounters

end BucketRegion

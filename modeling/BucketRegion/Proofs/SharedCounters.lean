import Mathlib.Data.List.Perm.Basic
import BucketRegion.Proofs.Counters
import BucketRegion.Proofs.Places
import BucketRegion.Proofs.SharedCache.Order
import BucketRegion.SharedCounters

/-!
# No amount is lost

Whatever calls of many threads on one registry of counters are made, in whatever steps they take
turns, each has the counters to itself from the moment it takes the mutex. So the counters, and
what every call comes back with, are those of the calls made one after the other in the order in
which they took the mutex, and in the end every count is the sum of the amounts for its name.
-/

set_option autoImplicit false

namespace BucketRegion.SharedCounters

open SharedCache (before before_append before_concat_self sublist_of_prefix)

variable {calls : Nat → Call} {s s' : SharedCounters} {k : Nat}

/-! ## Stages -/

/-- Whether a call holds the mutex. -/
@[simp] def Stage.isInside : Stage → Bool
  | entered => true
  | summed _ => true
  | copying _ => true
  | answered _ => true
  | _ => false

/-- Whether a call has come to hold the mutex. -/
@[simp] def Stage.hasEntered : Stage → Bool
  | returned _ => true
  | stage => stage.isInside

/-- Whether a call may still have to write. -/
@[simp] def Stage.isPending : Stage → Bool
  | entered => true
  | summed _ => true
  | _ => false

theorem stage_eq {stage : Stage} (there : s.stages[k]? = some stage) : s.stage k = stage :=
  getD_of_getElem? there

theorem getElem?_of_stage {stage : Stage} (stands : s.stage k = stage) (made : stage ≠ .ahead) :
    s.stages[k]? = some stage :=
  getElem?_of_getD stands made

theorem stage_start (n k : Nat) : (start n).stage k = .ahead :=
  getD_replicate_default n k Stage.ahead

/-! ## Ways that a deed can go -/

/-- What a deed of a call can come to. -/
inductive Turns (calls : Nat → Call) (s : SharedCounters) (k : Nat) : SharedCounters → Prop where
  | idles : Turns calls s k s
  | begins (there : s.stages[k]? = some .ahead) :
      Turns calls s k { s with stages := s.stages.set k .begun }
  | enters (there : s.stages[k]? = some .begun) (free : s.holder = none) :
      Turns calls s k
        { s with
          holder := some k
          stages := s.stages.set k .entered
          entered := s.entered ++ [k] }
  | works {stage : Stage} (there : s.stages[k]? = some stage) (inside : stage.isInside = true) :
      Turns calls s k
        { s with
          counters := (work (calls k) s.counters stage).1
          stages := s.stages.set k (work (calls k) s.counters stage).2 }
  | leaves {answer : Answer} (there : s.stages[k]? = some (.answered answer)) :
      Turns calls s k { s with holder := none, stages := s.stages.set k (.returned answer) }

/-- A call that does not hold the mutex has no work to do. -/
theorem work_of_outside {stage : Stage} (outside : stage.isInside = false) (call : Call)
    (c : Counters) : work call c stage = (c, stage) := by
  cases stage with
  | ahead | begun | returned => rfl
  | _ => cases outside

/-- Every deed goes one of these ways. -/
theorem turns_step (calls : Nat → Call) (s : SharedCounters) (k : Nat) (deed : Deed) :
    Turns calls s k (s.step calls k deed) := by
  unfold step
  split
  · next there => exact .begins there
  · next there =>
      split
      · exact .idles
      · next free => exact .enters there free
  · next stage there =>
      cases inside : stage.isInside with
      | true => exact .works there inside
      | false =>
          obtain ⟨within, stands⟩ := List.getElem?_eq_some_iff.mp there
          have same : s.stages.set k stage = s.stages := by
            rw [← stands]
            exact List.set_getElem_self within
          rw [work_of_outside inside, same]
          exact .idles
  · next there => exact .leaves there
  · exact .idles

/-- What every deed keeps, holds after every schedule. -/
theorem run_keeps {P : SharedCounters → Prop} (holds : P s)
    (keeps : ∀ {s s' : SharedCounters} {k : Nat}, Turns calls s k s' → P s → P s')
    (schedule : List (Nat × Deed)) : P (s.run calls schedule) := by
  induction schedule generalizing s with
  | nil => exact holds
  | cons turn rest ih => exact ih (keeps (turns_step calls s turn.1 turn.2) holds)

/-! ## Calls in an order -/

theorem replay_concat (calls : Nat → Call) (order : List Nat) (k : Nat) :
    replay calls (order ++ [k]) = (calls k).after (replay calls order) := by
  simp [replay, List.foldl_append]

/-- The amounts that some calls add, with their names. -/
def amounts (calls : Nat → Call) (order : List Nat) : List (String × Int) :=
  order.filterMap fun k => (calls k).increment?

theorem after_eq (call : Call) (c : Counters) :
    call.after c = c.addAll call.increment?.toList := by
  cases call <;> rfl

/-- Calls one after the other add their amounts one after the other. -/
theorem replay_eq_addAll (calls : Nat → Call) (order : List Nat) :
    replay calls order = Counters.initial.addAll (amounts calls order) := by
  induction order using List.reverseRecOn with
  | nil => rfl
  | append_singleton order k ih =>
      have last : amounts calls [k] = (calls k).increment?.toList := by
        rw [amounts, List.filterMap_cons]
        cases (calls k).increment? <;> rfl
      have parts : amounts calls (order ++ [k]) =
          amounts calls order ++ (calls k).increment?.toList := by
        rw [← last]
        exact List.filterMap_append
      rw [replay_concat, after_eq, ih, parts, Counters.addAll, Counters.addAll, Counters.addAll,
        List.foldl_append]

/-! ## What a call has seen -/

/-- How a call stands to the counters that the calls before it leave, and to those that it finds. -/
def Consistent (call : Call) (now earlier : Counters) : Stage → Prop
  | .entered => earlier = now
  | .summed sum => earlier = now ∧
      ∃ name amount, call.increment? = some (name, amount) ∧ sum = now.get name + amount
  | .copying copied => earlier = now ∧ call = .snapshot ∧ ∃ rest, now.entries = copied ++ rest
  | .answered answer => answer = call.answer earlier
  | .returned answer => answer = call.answer earlier
  | _ => True

/-- What the counters will be when a call has written. -/
def due (call : Call) (c : Counters) (stage : Stage) : Counters :=
  if stage.isPending then call.after c else c

/-- What a step of work of a call keeps. -/
structure Keeps (call : Call) (now earlier : Counters) (stage : Stage) : Prop where
  consistent : Consistent call (work call now stage).1 earlier (work call now stage).2
  due : due call (work call now stage).1 (work call now stage).2 = due call now stage
  inside : (work call now stage).2.isInside = true

/-- Of the steps of work only the writing of a sum changes the counters, and the sum is that of the
count that is there. -/
theorem Consistent.work {call : Call} {now earlier : Counters} {stage : Stage}
    (consistent : Consistent call now earlier stage) (inside : stage.isInside = true) :
    Keeps call now earlier stage := by
  cases stage with
  | entered =>
      have same : earlier = now := consistent
      cases call with
      | incr name amount => exact ⟨⟨same, name, amount, rfl, rfl⟩, rfl, rfl⟩
      | incrStatus status => exact ⟨⟨same, _, _, rfl, rfl⟩, rfl, rfl⟩
      | get name => exact ⟨by rw [same]; rfl, rfl, rfl⟩
      | snapshot => exact ⟨⟨same, rfl, now.entries, rfl⟩, rfl, rfl⟩
  | summed sum =>
      obtain ⟨same, name, amount, adds, rfl⟩ := consistent
      cases call with
      | incr other n =>
          cases adds
          exact ⟨rfl, rfl, rfl⟩
      | incrStatus status =>
          cases adds
          exact ⟨rfl, rfl, rfl⟩
      | get other => cases adds
      | snapshot => cases adds
  | copying copied =>
      obtain ⟨same, rfl, rest, parts⟩ := consistent
      cases rest with
      | nil =>
          have ended : now.entries[copied.length]? = none := by simp [parts]
          have stepped : SharedCounters.work .snapshot now (.copying copied) =
              (now, .answered (.entries copied)) := by
            simp only [SharedCounters.work, ended]
          refine ⟨?_, by rw [stepped]; rfl, by rw [stepped]; rfl⟩
          rw [stepped, same]
          simp [Consistent, Call.answer, parts]
      | cons entry rest =>
          have next : now.entries[copied.length]? = some entry := by simp [parts]
          have stepped : SharedCounters.work .snapshot now (.copying copied) =
              (now, .copying (copied ++ [entry])) := by
            simp only [SharedCounters.work, next]
          refine ⟨?_, by rw [stepped]; rfl, by rw [stepped]; rfl⟩
          rw [stepped]
          exact ⟨same, rfl, rest, by simp [parts]⟩
  | answered answer => exact ⟨consistent, rfl, rfl⟩
  | _ => cases inside

/-- A call that does not hold the mutex does not look at the counters. -/
theorem Consistent.of_outside {call : Call} {now earlier : Counters} {stage : Stage}
    (consistent : Consistent call now earlier stage) (outside : stage.isInside = false)
    (later : Counters) : Consistent call later earlier stage := by
  cases stage with
  | ahead | begun | returned => exact consistent
  | _ => cases outside

theorem hasEntered_of_isInside {stage : Stage} (inside : stage.isInside = true) :
    stage.hasEntered = true := by
  cases stage with
  | entered | summed | copying | answered => rfl
  | _ => cases inside

/-! ## What all deeds keep -/

/-- The call that is inside holds the mutex, and the order in which calls took it explains the
counters and what each call has seen of them. -/
structure Ordered (calls : Nat → Call) (s : SharedCounters) : Prop where
  holds : ∀ k, (s.stage k).isInside = true ↔ s.holder = some k
  unique : s.entered.Nodup
  members : ∀ k, k ∈ s.entered ↔ (s.stage k).hasEntered = true
  seen : ∀ k, Consistent (calls k) s.counters (replay calls (before k s.entered)) (s.stage k)
  free : s.holder = none → s.counters = replay calls s.entered
  held : ∀ k, s.holder = some k → due (calls k) s.counters (s.stage k) = replay calls s.entered

theorem ordered_start (calls : Nat → Call) (n : Nat) : Ordered calls (start n) where
  holds k := by
    rw [stage_start]
    simp [start]
  unique := List.nodup_nil
  members k := by
    rw [stage_start]
    simp [start]
  seen k := by
    rw [stage_start]
    exact trivial
  free _ := rfl
  held k holder := by cases holder

/-- Only one call has the mutex. -/
theorem Ordered.alone (ordered : Ordered calls s) {j : Nat} (mine : (s.stage k).isInside = true)
    (other : (s.stage j).isInside = true) : j = k :=
  Option.some_inj.mp (((ordered.holds j).mp other).symm.trans ((ordered.holds k).mp mine))

theorem stage_put {old new : Stage} (there : s.stages[k]? = some old) (holder : Option Nat)
    (counters : Counters) (entered : List Nat) (j : Nat) :
    (⟨holder, counters, s.stages.set k new, entered⟩ : SharedCounters).stage j =
      if j = k then new else s.stage j :=
  getD_put there new j

theorem Ordered.begin (ordered : Ordered calls s) (there : s.stages[k]? = some .ahead) :
    Ordered calls { s with stages := s.stages.set k .begun } := by
  have standing := stage_eq there
  have outside : s.holder ≠ some k := by
    intro holder
    have inside := (ordered.holds k).mpr holder
    rw [standing] at inside
    cases inside
  refine ⟨fun j => ?_, ordered.unique, fun j => ?_, fun j => ?_, ordered.free, fun j holder => ?_⟩
  · rw [stage_put there]
    split
    · next same => simpa [same] using outside
    · exact ordered.holds j
  · rw [stage_put there]
    split
    · next same =>
        rw [same, ordered.members k, standing]
        rfl
    · exact ordered.members j
  · rw [stage_put there]
    split
    · trivial
    · exact ordered.seen j
  · have different : j ≠ k := by
      rintro rfl
      exact outside holder
    rw [stage_put there, if_neg different]
    exact ordered.held j holder

/-- A call takes the mutex: it is the last in the order. -/
theorem Ordered.enter (ordered : Ordered calls s) (there : s.stages[k]? = some .begun)
    (free : s.holder = none) :
    Ordered calls ⟨some k, s.counters, s.stages.set k .entered, s.entered ++ [k]⟩ := by
  have standing := stage_eq there
  have current := ordered.free free
  have fresh : k ∉ s.entered := by
    rw [ordered.members, standing]
    simp
  refine ⟨fun j => ?_, ?_, fun j => ?_, fun j => ?_, by rintro ⟨⟩, ?_⟩
  · rw [stage_put there]
    split
    · next same => simp [same]
    · next other =>
        have nobody := ordered.holds j
        rw [free] at nobody
        rw [nobody]
        simpa using Ne.symm other
  · simpa using ordered.unique.concat fresh
  · rw [stage_put there, List.mem_append, List.mem_singleton]
    split
    · next same => simp [same]
    · next other =>
        rw [ordered.members j]
        simp [other]
  · rw [stage_put there]
    split
    · next same =>
        subst same
        change replay calls (before j (s.entered ++ [j])) = s.counters
        rw [before_concat_self fresh, current]
    · cases entered : (s.stage j).hasEntered with
      | true =>
          change Consistent _ _ (replay calls (before j (s.entered ++ [k]))) _
          rw [before_append ((ordered.members j).mpr entered)]
          exact ordered.seen j
      | false =>
          cases standsAt : s.stage j with
          | ahead | begun => trivial
          | _ => simp [standsAt] at entered
  · rintro _ ⟨rfl⟩
    rw [stage_put there, if_pos rfl, replay_concat, ← current]
    rfl

/-- The call that holds the mutex does a step of its work. -/
theorem Ordered.work (ordered : Ordered calls s) {stage : Stage}
    (there : s.stages[k]? = some stage) (inside : stage.isInside = true) :
    Ordered calls
      { s with
        counters := (work (calls k) s.counters stage).1
        stages := s.stages.set k (work (calls k) s.counters stage).2 } := by
  have standing := stage_eq there
  have mine : (s.stage k).isInside = true := by rw [standing, inside]
  have holder := (ordered.holds k).mp mine
  have seen := ordered.seen k
  have due := ordered.held k holder
  rw [standing] at seen due
  have keeps := seen.work inside
  refine ⟨fun j => ?_, ordered.unique, fun j => ?_, fun j => ?_, fun none => ?_, fun j held => ?_⟩
  · rw [stage_put there]
    split
    · next same => exact ⟨fun _ => same ▸ holder, fun _ => keeps.inside⟩
    · exact ordered.holds j
  · rw [stage_put there]
    split
    · next same =>
        rw [same, ordered.members k, hasEntered_of_isInside mine,
          hasEntered_of_isInside keeps.inside]
    · exact ordered.members j
  · rw [stage_put there]
    split
    · next same =>
        subst same
        exact keeps.consistent
    · next other =>
        refine (ordered.seen j).of_outside (Bool.eq_false_iff.mpr fun holds => ?_) _
        exact other (ordered.alone mine holds)
  · rw [holder] at none
    cases none
  · have same : j = k := by
      rw [holder] at held
      exact (Option.some_inj.mp held).symm
    subst same
    rw [stage_put there, if_pos rfl, keeps.due]
    exact due

/-- A call gives the mutex back. -/
theorem Ordered.leave (ordered : Ordered calls s) {answer : Answer}
    (there : s.stages[k]? = some (.answered answer)) :
    Ordered calls { s with holder := none, stages := s.stages.set k (.returned answer) } := by
  have standing := stage_eq there
  have mine : (s.stage k).isInside = true := by rw [standing]; rfl
  have due := ordered.held k ((ordered.holds k).mp mine)
  rw [standing] at due
  refine ⟨fun j => ?_, ordered.unique, fun j => ?_, fun j => ?_, fun _ => due, by rintro j ⟨⟩⟩
  · rw [stage_put there]
    split
    · simp
    · next other =>
        have outside : ¬ (s.stage j).isInside = true := fun holds =>
          other (ordered.alone mine holds)
        exact ⟨fun holds => absurd holds outside, by rintro ⟨⟩⟩
  · rw [stage_put there]
    split
    · next same =>
        rw [same, ordered.members k, hasEntered_of_isInside mine]
        rfl
    · exact ordered.members j
  · rw [stage_put there]
    split
    · next same =>
        subst same
        have seen := ordered.seen j
        rw [standing] at seen
        exact seen
    · exact ordered.seen j

theorem Ordered.turns (ordered : Ordered calls s) (turns : Turns calls s k s') :
    Ordered calls s' := by
  cases turns with
  | idles => exact ordered
  | begins there => exact ordered.begin there
  | enters there free => exact ordered.enter there free
  | works there inside => exact ordered.work there inside
  | leaves there => exact ordered.leave there

theorem ordered_run (calls : Nat → Call) (n : Nat) (schedule : List (Nat × Deed)) :
    Ordered calls ((start n).run calls schedule) :=
  run_keeps (ordered_start calls n) (fun turns ordered => ordered.turns turns) schedule

/-! ## Earlier and later -/

theorem run_append (calls : Nat → Call) (s : SharedCounters) (first second : List (Nat × Deed)) :
    s.run calls (first ++ second) = (s.run calls first).run calls second :=
  List.foldl_append

/-- The order grows at its end. -/
theorem entered_isPrefix_run (calls : Nat → Call) (s : SharedCounters)
    (schedule : List (Nat × Deed)) : s.entered <+: (s.run calls schedule).entered := by
  refine run_keeps (P := fun later => s.entered <+: later.entered) List.prefix_rfl ?_ schedule
  intro s₁ s₂ k turns grown
  cases turns with
  | enters _ _ => exact grown.trans (List.prefix_append _ _)
  | _ => exact grown

/-- The calls before one are where the order begins. -/
theorem exists_after {order : List Nat} (member : k ∈ order) :
    ∃ later, order = before k order ++ k :: later := by
  induction order with
  | nil => cases member
  | cons first rest ih =>
      by_cases same : first = k
      · exact ⟨rest, by simp [before, same]⟩
      · have among : k ∈ rest := (List.mem_cons.mp member).resolve_left fun equal => same equal.symm
        obtain ⟨later, parts⟩ := ih among
        have front : before k (first :: rest) = first :: before k rest := by simp [before, same]
        exact ⟨later, by rw [front, List.cons_append, ← parts]⟩

/-! ## When all calls have come back -/

theorem length_stages_run (calls : Nat → Call) (n : Nat) (schedule : List (Nat × Deed)) :
    ((start n).run calls schedule).stages.length = n := by
  refine run_keeps (P := fun s => s.stages.length = n) List.length_replicate ?_ schedule
  intro s s' k turns made
  cases turns with
  | idles => exact made
  | _ => exact List.length_set.trans made

theorem stage_of_le {n : Nat} (made : s.stages.length = n) (beyond : n ≤ k) :
    s.stage k = .ahead := by
  rw [stage, List.getD_eq_getElem?_getD, List.getElem?_eq_none (made ▸ beyond)]
  rfl

/-- Once all calls have come back, each of them is in the order. -/
theorem Ordered.perm_range (ordered : Ordered calls s) {n : Nat} (made : s.stages.length = n)
    (all : ∀ k < n, ∃ answer, s.stage k = .returned answer) :
    s.entered.Perm (List.range n) := by
  refine (List.perm_ext_iff_of_nodup ordered.unique List.nodup_range).mpr fun k => ?_
  rw [ordered.members, List.mem_range]
  rcases Nat.lt_or_ge k n with within | beyond
  · obtain ⟨answer, returned⟩ := all k within
    simp [returned, within]
  · simp [stage_of_le made beyond, Nat.not_lt.mpr beyond]

/-- Once all calls have come back, the mutex is free. -/
theorem Ordered.free_of_all (ordered : Ordered calls s) {n : Nat} (made : s.stages.length = n)
    (all : ∀ k < n, ∃ answer, s.stage k = .returned answer) : s.holder = none := by
  cases held : s.holder with
  | none => rfl
  | some k =>
      have inside := (ordered.holds k).mpr held
      rcases Nat.lt_or_ge k n with within | beyond
      · obtain ⟨answer, returned⟩ := all k within
        rw [returned] at inside
        cases inside
      · rw [stage_of_le made beyond] at inside
        cases inside

/-! ## Going on -/

theorem stage_work {stage : Stage} (there : s.stages[k]? = some stage) :
    (s.step calls k .work).stage k = (work (calls k) s.counters stage).2 := by
  have stepped : s.step calls k .work =
      { s with
        counters := (work (calls k) s.counters stage).1
        stages := s.stages.set k (work (calls k) s.counters stage).2 } := by
    simp only [step, there]
  rw [stepped, stage_put there, if_pos rfl]

/-- A call that holds the mutex can go on. -/
theorem Ordered.goesOn_inside (ordered : Ordered calls s) (inside : (s.stage k).isInside = true) :
    ∃ deed, (s.step calls k deed).stage k ≠ s.stage k := by
  have seen := ordered.seen k
  cases stands : s.stage k with
  | entered =>
      refine ⟨.work, ?_⟩
      rw [stage_work (getElem?_of_stage stands (by simp))]
      cases calls k <;> simp [SharedCounters.work]
  | summed sum =>
      rw [stands] at seen
      obtain ⟨_, name, amount, adds, _⟩ := seen
      refine ⟨.work, ?_⟩
      rw [stage_work (getElem?_of_stage stands (by simp))]
      simp [SharedCounters.work, adds]
  | copying copied =>
      refine ⟨.work, ?_⟩
      rw [stage_work (getElem?_of_stage stands (by simp))]
      simp only [SharedCounters.work]
      split <;> simp
  | answered answer =>
      have there := getElem?_of_stage stands (by simp)
      have stepped : s.step calls k .release =
          { s with holder := none, stages := s.stages.set k (.returned answer) } := by
        simp only [step, there]
      refine ⟨.release, ?_⟩
      rw [stepped, stage_put there, if_pos rfl]
      simp
  | _ => simp [stands] at inside

/-- A call that has begun can take the mutex if it is free. -/
theorem goesOn_outside (free : s.holder = none) (begun : s.stage k = .begun) :
    (s.step calls k .acquire).stage k ≠ s.stage k := by
  have there := getElem?_of_stage begun (by simp)
  have stepped : s.step calls k .acquire =
      ⟨some k, s.counters, s.stages.set k .entered, s.entered ++ [k]⟩ := by
    simp only [step, there, free]
  rw [stepped, stage_put there, if_pos rfl, begun]
  simp

/-! ## The whole schedule -/

open Counters (Sums total)

/-- The calls of a schedule, after which the counters in use are `s`, lose no amount. -/
structure LosesNone (calls : Nat → Call) (n : Nat) (schedule : List (Nat × Deed))
    (s : SharedCounters) : Prop where
  alone : ∀ j k, (s.stage j).isInside = true → (s.stage k).isInside = true → j = k
  once : s.entered.Nodup
  members : ∀ k, k ∈ s.entered ↔ (s.stage k).hasEntered = true
  /-- The order is that of the critical sections. -/
  sections : ∀ first second j k, schedule = first ++ second →
    j ∈ ((start n).run calls first).entered → k ∉ ((start n).run calls first).entered →
    k ∈ s.entered → [j, k].Sublist s.entered
  /-- A count that is read is the sum of the amounts of the calls before. -/
  gets : ∀ k name answer, calls k = .get name → s.stage k = .returned answer →
    ∃ earlier later, s.entered = earlier ++ k :: later ∧
      answer = .value (total name (amounts calls earlier))
  /-- So are all counts of a snapshot. -/
  snapshots : ∀ k answer, calls k = .snapshot → s.stage k = .returned answer →
    ∃ earlier later entries, s.entered = earlier ++ k :: later ∧
      answer = .entries entries ∧ Sums entries (amounts calls earlier)
  /-- In the end every count is the sum of all amounts for its name. -/
  finished : (∀ k < n, ∃ answer, s.stage k = .returned answer) →
    s.holder = none ∧ Sums s.counters.entries (amounts calls (List.range n))
  goesOn : (∃ k, s.stage k = .begun ∨ (s.stage k).isInside = true) →
    ∃ k deed, (s.step calls k deed).stage k ≠ s.stage k

/-- What a call has come back with is what the calls before it explain. -/
theorem Ordered.answer_eq (ordered : Ordered calls s) {answer : Answer}
    (returned : s.stage k = .returned answer) :
    ∃ earlier later, s.entered = earlier ++ k :: later ∧
      answer = (calls k).answer (Counters.initial.addAll (amounts calls earlier)) := by
  have member : k ∈ s.entered := (ordered.members k).mpr (by rw [returned]; rfl)
  obtain ⟨later, parts⟩ := exists_after member
  have seen := ordered.seen k
  rw [returned, replay_eq_addAll] at seen
  exact ⟨_, later, parts, seen⟩

theorem losesNone_run (calls : Nat → Call) (n : Nat) (schedule : List (Nat × Deed)) :
    LosesNone calls n schedule ((start n).run calls schedule) := by
  have ordered := ordered_run calls n schedule
  have made := length_stages_run calls n schedule
  refine ⟨fun j k mine other => ordered.alone other mine, ordered.unique, ordered.members,
    ?_, ?_, ?_, fun all => ?_, ?_⟩
  · rintro first second j k rfl earlier fresh later
    have grown := entered_isPrefix_run calls ((start n).run calls first) second
    rw [← run_append] at grown
    exact sublist_of_prefix grown earlier fresh later
  · intro k name answer asks returned
    obtain ⟨earlier, later, parts, told⟩ := ordered.answer_eq returned
    rw [asks, Call.answer, (Counters.sums_addAll _).counts] at told
    exact ⟨earlier, later, parts, told⟩
  · intro k answer asks returned
    obtain ⟨earlier, later, parts, told⟩ := ordered.answer_eq returned
    rw [asks] at told
    exact ⟨earlier, later, _, parts, told, Counters.sums_addAll _⟩
  · have free := ordered.free_of_all made all
    have sums := Counters.sums_addAll (amounts calls ((start n).run calls schedule).entered)
    rw [← replay_eq_addAll, ← ordered.free free] at sums
    exact ⟨free, sums.perm ((ordered.perm_range made all).filterMap _)⟩
  · rintro ⟨k, stands⟩
    cases held : ((start n).run calls schedule).holder with
    | some j => exact ⟨j, ordered.goesOn_inside ((ordered.holds j).mpr held)⟩
    | none =>
        have begun : ((start n).run calls schedule).stage k = .begun := by
          refine stands.resolve_right fun inside => ?_
          rw [(ordered.holds k).mp inside] at held
          cases held
        exact ⟨k, .acquire, goesOn_outside held begun⟩

/-- Two calls that count under one name: the second one waits until the first one has written. -/
example :
    ((start 2).run (fun k => if k = 0 then .incr "http_4xx" 2 else .incr "http_4xx" 1)
      [(0, .begin), (1, .begin), (0, .acquire), (1, .acquire), (0, .work), (1, .work), (0, .work),
        (0, .release), (1, .acquire), (1, .work), (1, .work), (1, .release)]).counters.get
      "http_4xx" = 3 := by
  decide

end BucketRegion.SharedCounters

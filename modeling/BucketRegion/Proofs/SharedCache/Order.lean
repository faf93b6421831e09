import BucketRegion.Proofs.LocationCache
import BucketRegion.Proofs.SharedCache.Sections

/-!
# One call after the other

Whatever the calls of many threads come back with, they would have come back with if they had been
made one after the other in the order in which they came to hold the lock. Calls that read at the
same time may stand in any order, since none of them changes the cache; one that writes has the
cache to itself from the moment it holds the lock.
-/

set_option autoImplicit false

namespace BucketRegion.SharedCache

open ReadWriteLock (Access Move Goes)

variable {calls : Nat → Call} {s s' : SharedCache} {k : Nat}

/-! ## Orders of calls -/

theorem replay_concat (calls : Nat → Call) (order : List Nat) (k : Nat) :
    replay calls (order ++ [k]) = (calls k).after (replay calls order) := by
  simp [replay, List.foldl_append]

/-- What comes later does not change what came before. -/
theorem before_append {order : List Nat} (member : k ∈ order) (later : List Nat) :
    before k (order ++ later) = before k order := by
  induction order with
  | nil => cases member
  | cons first rest ih =>
      by_cases same : first = k
      · simp [before, same]
      · have among : k ∈ rest := (List.mem_cons.mp member).resolve_left fun equal => same equal.symm
        have kept := ih among
        simp only [before] at kept
        simp [before, same, kept]

theorem before_concat_self {order : List Nat} (fresh : k ∉ order) :
    before k (order ++ [k]) = order := by
  induction order with
  | nil => simp [before]
  | cons first rest ih =>
      obtain ⟨different, fresh⟩ := not_or.mp fun held => fresh (List.mem_cons.mpr held)
      have kept := ih fresh
      have apart : ¬ first = k := fun equal => different equal.symm
      simp only [before] at kept
      simp [before, apart, kept]

/-- What an order has from the start comes before what it has gained. -/
theorem sublist_of_prefix {first order : List Nat} (grown : first <+: order) {j : Nat}
    (earlier : j ∈ first) (fresh : k ∉ first) (later : k ∈ order) : [j, k].Sublist order := by
  obtain ⟨rest, rfl⟩ := grown
  have among : k ∈ rest := (List.mem_append.mp later).resolve_left fresh
  exact (List.singleton_sublist.mpr earlier).append (List.singleton_sublist.mpr among)

/-! ## What an order leaves -/

/-- Whether a call stores or forgets a bucket. -/
def Call.changes (bucket : String) : Call → Bool
  | set name _ => bucket == name
  | delete name => bucket == name
  | _ => false

/-- The region that a call stores. -/
def Call.stored? : Call → Option String
  | set _ region => some region
  | _ => none

/-- The region that the last call of an order to change a bucket has left of it. -/
def left? (calls : Nat → Call) (bucket : String) (order : List Nat) : Option String :=
  (order.reverse.find? fun k => (calls k).changes bucket).bind fun k => (calls k).stored?

/-- How a call stands to the cache that the calls before it leave, and to the cache as it is. -/
def Consistent (call : Call) (now earlier : LocationCache) : Stage → Prop
  | .entered => earlier = now
  | .found => earlier = now ∧ ∃ bucket, call = .get bucket ∧ (now.get? bucket).isSome = true
  | .copying copied => earlier = now ∧ call = .snapshot ∧ ∃ rest, now.entries = copied ++ rest
  | .answered answer => answer = call.answer earlier
  | .returned answer => answer = call.answer earlier
  | _ => True

/-- A step of work brings a call nearer to the answer that it would give by itself. -/
theorem Consistent.work {call : Call} {now earlier : LocationCache} {stage : Stage}
    (consistent : Consistent call now earlier stage) :
    Consistent call (work call now stage).1 earlier (work call now stage).2 := by
  cases stage with
  | entered =>
      have same : earlier = now := consistent
      subst same
      cases call with
      | get bucket =>
          cases held : earlier.get? bucket with
          | none => simp [SharedCache.work, Consistent, Call.answer, held]
          | some region => simp [SharedCache.work, Consistent, held]
      | set bucket region => rfl
      | delete bucket => rfl
      | snapshot => exact ⟨rfl, rfl, earlier.entries, rfl⟩
      | size => rfl
  | found =>
      obtain ⟨same, bucket, asked, present⟩ := consistent
      subst same asked
      obtain ⟨region, held⟩ := Option.isSome_iff_exists.mp present
      simp [SharedCache.work, Consistent, Call.answer, held]
  | copying copied =>
      obtain ⟨same, asked, rest, parts⟩ := consistent
      subst same asked
      cases rest with
      | nil =>
          have ended : earlier.entries[copied.length]? = none := by rw [parts]; simp
          simp only [SharedCache.work, ended]
          simp [Consistent, Call.answer, parts]
      | cons entry rest =>
          have next : earlier.entries[copied.length]? = some entry := by rw [parts]; simp
          simp only [SharedCache.work, next]
          exact ⟨rfl, rfl, rest, by simp [parts]⟩
  | _ => exact consistent

/-- A call that does not hold the lock does not look at the cache. -/
theorem Consistent.of_outside {call : Call} {now earlier : LocationCache} {stage : Stage}
    (consistent : Consistent call now earlier stage) (outside : stage.isInside = false)
    (later : LocationCache) : Consistent call later earlier stage := by
  cases stage <;> first | exact consistent | cases outside

/-! ## What all deeds keep -/

/-- The calls are in the order in which they came to hold the lock, and that order explains the
cache and what each of them has seen of it. -/
structure Ordered (calls : Nat → Call) (s : SharedCache) : Prop where
  placed : Placed calls s
  unique : s.entered.Nodup
  members : ∀ k, k ∈ s.entered ↔ (s.stage k).hasEntered = true
  seen : ∀ k, Consistent (calls k) s.cache (replay calls (before k s.entered)) (s.stage k)
  settled : (∀ k, s.stage k = .entered → (calls k).access = .read) →
    s.cache = replay calls s.entered
  pending : ∀ k, s.stage k = .entered → (calls k).access = .write →
    replay calls s.entered = (calls k).after s.cache

theorem ordered_start (calls : Nat → Call) (n : Nat) : Ordered calls (start n) where
  placed := placed_start calls n
  unique := List.nodup_nil
  members k := by rw [stage_start]; simp [start]
  seen k := by rw [stage_start]; exact trivial
  settled _ := rfl
  pending k entered := by rw [stage_start] at entered; cases entered

/-- A call comes into another stage, and neither has it come to hold the lock nor has the cache
changed. -/
theorem Ordered.place (ordered : Ordered calls s) {old new : Stage}
    (there : s.stages[k]? = some old) {lock : ReadWriteLock}
    (placed : Placed calls ⟨lock, s.cache, s.stages.set k new, s.entered⟩)
    (unmoved : old ≠ .entered ∧ new ≠ .entered) (same : new.hasEntered = old.hasEntered)
    (consistent : Consistent (calls k) s.cache (replay calls (before k s.entered)) old →
      Consistent (calls k) s.cache (replay calls (before k s.entered)) new) :
    Ordered calls ⟨lock, s.cache, s.stages.set k new, s.entered⟩ := by
  have stages : ∀ j, (⟨lock, s.cache, s.stages.set k new, s.entered⟩ : SharedCache).stage j =
      if j = k then new else s.stage j := getD_put there new
  have standing := stage_eq there
  refine ⟨placed, ordered.unique, fun j => ?_, fun j => ?_, fun reads => ?_, fun j => ?_⟩
  · rw [stages]
    split
    · next equal => rw [equal, same, ← standing]; exact ordered.members k
    · exact ordered.members j
  · rw [stages]
    split
    · next equal =>
        subst equal
        have seen := ordered.seen j
        rw [standing] at seen
        exact consistent seen
    · exact ordered.seen j
  · refine ordered.settled fun j entered => reads j ?_
    rw [stages]
    split
    · next equal =>
        rw [equal, standing] at entered
        exact absurd entered unmoved.1
    · exact entered
  · rw [stages]
    split
    · intro entered
      exact absurd entered unmoved.2
    · exact ordered.pending j

/-- A call that comes to hold the lock while another one holds it reads, and so does the other. -/
theorem reads_beside (there : s.stages[k]? = some .begun) {lock : ReadWriteLock}
    (placed : Placed calls ⟨lock, s.cache, s.stages.set k .entered,
      s.entered ++ [k]⟩) {j : Nat} (inside : (s.stage j).isInside = true) :
    (calls j).access = .read ∧ (calls k).access = .read := by
  have stages : ∀ j, (⟨lock, s.cache, s.stages.set k .entered, s.entered ++ [k]⟩ :
      SharedCache).stage j = if j = k then .entered else s.stage j := getD_put there .entered
  have different : j ≠ k := by
    rintro rfl
    rw [stage_eq there] at inside
    cases inside
  have mine : ((⟨lock, s.cache, s.stages.set k .entered, s.entered ++ [k]⟩ :
      SharedCache).stage k).isInside = true := by rw [stages, if_pos rfl]; rfl
  have other : ((⟨lock, s.cache, s.stages.set k .entered, s.entered ++ [k]⟩ :
      SharedCache).stage j).isInside = true := by rw [stages, if_neg different]; exact inside
  constructor
  · cases writes : (calls j).access with
    | read => rfl
    | write => exact absurd (placed.alone writes other mine) different
  · cases writes : (calls k).access with
    | read => rfl
    | write => exact absurd (placed.alone writes mine other).symm different

/-- A call comes to hold the lock: it is the last in the order. -/
theorem Ordered.enter (ordered : Ordered calls s) (there : s.stages[k]? = some .begun)
    {lock : ReadWriteLock} (placed : Placed calls ⟨lock, s.cache, s.stages.set k .entered,
      s.entered ++ [k]⟩) :
    Ordered calls ⟨lock, s.cache, s.stages.set k .entered, s.entered ++ [k]⟩ := by
  have stages : ∀ j, (⟨lock, s.cache, s.stages.set k .entered, s.entered ++ [k]⟩ :
      SharedCache).stage j = if j = k then .entered else s.stage j := getD_put there .entered
  have standing := stage_eq there
  have fresh : k ∉ s.entered := by
    rw [ordered.members, standing]
    simp
  -- A call about to write would hold the lock, and then this one could not have come in.
  have current : s.cache = replay calls s.entered :=
    ordered.settled fun j entered =>
      (reads_beside there placed (by rw [entered]; rfl)).1
  refine ⟨placed, ?_, fun j => ?_, fun j => ?_, fun reads => ?_, fun j => ?_⟩
  · rw [List.nodup_append]
    exact ⟨ordered.unique, by simp, by rintro a member b added rfl; simp_all⟩
  · rw [stages, List.mem_append, List.mem_singleton]
    split
    · next equal => simp [equal]
    · next other =>
        rw [ordered.members j]
        simp [other]
  · rw [stages]
    split
    · next equal =>
        subst equal
        change replay calls (before j (s.entered ++ [j])) = s.cache
        rw [before_concat_self fresh, current]
    · cases entered : (s.stage j).hasEntered with
      | true =>
          change Consistent _ _ (replay calls (before j (s.entered ++ [k]))) _
          rw [before_append ((ordered.members j).mpr entered)]
          exact ordered.seen j
      | false => cases standsAt : s.stage j <;> first | trivial | simp [standsAt] at entered
  · have read := reads k (by rw [stages, if_pos rfl])
    change s.cache = replay calls (s.entered ++ [k])
    rw [replay_concat, after_of_reads read, current]
  · rw [stages]
    split
    · next equal =>
        intro _ _
        subst equal
        change replay calls (s.entered ++ [j]) = (calls j).after s.cache
        rw [replay_concat, current]
    · intro entered writes
      have reads := (reads_beside there placed (by rw [entered]; rfl)).1
      rw [writes] at reads
      cases reads

/-- A call does the first step of its work, the only one that may change the cache. -/
theorem Ordered.work (ordered : Ordered calls s) (there : s.stages[k]? = some .entered)
    (placed : Placed calls ⟨s.lock, (work (calls k) s.cache .entered).1,
      s.stages.set k (work (calls k) s.cache .entered).2, s.entered⟩) :
    Ordered calls ⟨s.lock, (work (calls k) s.cache .entered).1,
      s.stages.set k (work (calls k) s.cache .entered).2, s.entered⟩ := by
  have standing := stage_eq there
  have inside : (s.stage k).isInside = true := by rw [standing]; rfl
  obtain ⟨moved, kept⟩ := work_stage (calls k) s.cache .entered
  have cached := work_cache (calls k) s.cache .entered
  rw [if_pos rfl] at cached
  have seen := ordered.seen k
  rw [standing] at seen
  have mine := seen.work
  generalize (SharedCache.work (calls k) s.cache .entered).2 = new at placed moved kept mine ⊢
  rw [cached] at placed mine ⊢
  have stages : ∀ j, (⟨s.lock, (calls k).after s.cache, s.stages.set k new, s.entered⟩ :
      SharedCache).stage j = if j = k then new else s.stage j := getD_put there new
  refine ⟨placed, ordered.unique, fun j => ?_, fun j => ?_, fun reads => ?_, fun j => ?_⟩
  · rw [stages]
    split
    · next equal =>
        rw [equal, kept, ← standing]
        exact ordered.members k
    · exact ordered.members j
  · rw [stages]
    split
    · next equal =>
        subst equal
        exact mine
    · next other =>
        have before := ordered.seen j
        cases access : (calls k).access with
        | read =>
            rw [after_of_reads access]
            exact before
        | write =>
            -- Nobody else holds the lock now, so nobody has seen the cache that is gone.
            refine before.of_outside (Bool.eq_false_iff.mpr fun holds => ?_) _
            exact other (ordered.placed.alone access inside holds).symm
  · change (calls k).after s.cache = replay calls s.entered
    cases access : (calls k).access with
    | read =>
        rw [after_of_reads access]
        refine ordered.settled fun j entered => ?_
        by_cases same : j = k
        · rw [same, access]
        · exact reads j (by rw [stages, if_neg same, entered])
    | write => exact (ordered.pending k standing access).symm
  · rw [stages]
    split
    · intro entered
      exact absurd entered moved
    · next other =>
        intro entered writes
        have holds : (s.stage j).isInside = true := by rw [entered]; rfl
        exact absurd (ordered.placed.alone writes holds inside) other

theorem Ordered.turns (ordered : Ordered calls s) (turns : Turns calls s k s') :
    Ordered calls s' := by
  have placed := ordered.placed.turns turns
  cases turns with
  | idles => exact ordered
  | begins there =>
      exact ordered.place there placed ⟨by simp, by simp⟩ rfl fun _ => trivial
  | waits _ _ _ _ =>
      exact ⟨placed, ordered.unique, ordered.members, ordered.seen, ordered.settled,
        ordered.pending⟩
  | enters there _ _ _ => exact ordered.enter there placed
  | stops there _ => exact ordered.place there placed ⟨by simp, by simp⟩ rfl fun _ => trivial
  | @works stage there =>
      by_cases first : stage = .entered
      · subst first
        exact ordered.work there placed
      · obtain ⟨moved, kept⟩ := work_stage (calls k) s.cache stage
        have cached := work_cache (calls k) s.cache stage
        rw [if_neg first] at cached
        have consistent := fun seen : Consistent (calls k) s.cache
          (replay calls (before k s.entered)) stage => seen.work
        rw [cached] at placed consistent ⊢
        exact ordered.place there placed ⟨first, moved⟩ kept consistent
  | leaves there _ =>
      exact ordered.place there placed ⟨by simp, by simp⟩ rfl fun seen => seen

theorem ordered_run (calls : Nat → Call) (n : Nat) (schedule : List (Nat × Deed)) :
    Ordered calls ((start n).run calls schedule) :=
  run_keeps (ordered_start calls n) (fun turns ordered => ordered.turns turns) schedule

end BucketRegion.SharedCache

import Mathlib.Algebra.Ring.Nat
import Mathlib.Data.List.Nodup
import BucketRegion.Proofs.Batch.Pool
import BucketRegion.Proofs.Places

/-!
# Batches come to their end

However many workers a pool has and in whatever order they go, its batch comes to an end, and its
report is then complete. Where the answers depend on the buckets alone, neither the order nor the
number of workers can be seen from the report or from the cache that is left.
-/

set_option autoImplicit false

namespace BucketRegion

open Http (Transport)

namespace Shared

theorem asked_begin (s : Shared) (bucket : String) :
    (s.step (.begin bucket)).asked = s.asked ++ [bucket] := by
  simp [step, asked]

theorem asked_advance (s : Shared) (errand : Nat) (transport : Transport)
    (clock : Calendar.Reading) : (s.step (.advance errand transport clock)).asked = s.asked := by
  cases there : s.errands[errand]? with
  | none => simp only [step, there]
  | some held =>
      obtain ⟨bucket, phase⟩ := held
      rw [step_advance transport clock there]
      exact map_bucket_set there _

theorem length_asked (s : Shared) : s.asked.length = s.errands.length := List.length_map _

theorem Found.step {s : Shared} {bucket : String} {result : Except LookupError String}
    (found : s.Found bucket result) (next : Step) : (s.step next).Found bucket result := by
  obtain ⟨errand, there⟩ := found
  exact ⟨errand, (shift_step s next).ended there⟩

end Shared

namespace Batch.Pool

/-! ## What the pool keeps -/

/-- What holds of a pool in every state. -/
structure Sane (buckets : List String) (p : Pool) : Prop where
  order : p.shared.asked ++ p.waiting <+: buckets
  whole : p.failure? = none → p.shared.asked ++ p.waiting = buckets
  unique : p.filed.Nodup
  done : ∀ errand ∈ p.filed, ∃ bucket result,
    p.shared.errands[errand]? = some ⟨bucket, .ended result⟩
  seen : ∀ errand < p.seen, ∃ bucket result,
    p.shared.errands[errand]? = some ⟨bucket, .ended result⟩ ∧ isReported result = true
  stopped : ∀ e, p.failure? = some e →
    e.isExpected = false ∧ ∃ bucket, p.shared.Found bucket (.error e)
  tells : p.report.Tells p.Filed

variable {c : Client} {answers : Answers} {buckets : List String} {workers : Nat} {p p' : Pool}
  {act : Act}

theorem sane_start (c : Client) (buckets : List String) : Sane buckets (start c buckets) where
  order := List.prefix_rfl
  whole := fun _ => rfl
  unique := List.nodup_nil
  done := by
    intro errand member
    cases member
  seen := by
    intro errand earlier
    cases earlier
  stopped := by
    intro e failed
    cases failed
  tells := tells_empty.of_iff fun bucket result =>
    iff_of_false (fun nothing => nothing) (by rintro ⟨errand, member, _⟩; cases member)

/-- A step of the lookups, where the batch goes on otherwise as it was. -/
theorem Sane.shared_step (sane : Sane buckets p) (next : Step) (waiting : List String)
    (kept : (p.shared.step next).asked ++ waiting = p.shared.asked ++ p.waiting) :
    Sane buckets { p with shared := p.shared.step next, waiting := waiting } where
  order := by
    rw [kept]
    exact sane.order
  whole := by
    intro going
    rw [kept]
    exact sane.whole going
  unique := sane.unique
  done := by
    intro errand member
    obtain ⟨bucket, result, there⟩ := sane.done errand member
    exact ⟨bucket, result, (Shared.shift_step p.shared next).ended there⟩
  seen := by
    intro errand earlier
    obtain ⟨bucket, result, there, reported⟩ := sane.seen errand earlier
    exact ⟨bucket, result, (Shared.shift_step p.shared next).ended there, reported⟩
  stopped := by
    intro e failed
    obtain ⟨unexpected, bucket, found⟩ := sane.stopped e failed
    exact ⟨unexpected, bucket, found.step next⟩
  tells := by
    refine sane.tells.of_iff fun bucket result => ?_
    constructor
    · rintro ⟨errand, member, there⟩
      exact ⟨errand, member, (Shared.shift_step p.shared next).ended there⟩
    · rintro ⟨errand, member, there⟩
      obtain ⟨named, outcome, before⟩ := sane.done errand member
      -- What has been filed has ended before, and stays so.
      rw [(Shared.shift_step p.shared next).ended before] at there
      cases there
      exact ⟨errand, member, before⟩

theorem Sane.goes (sane : Sane buckets p) (goes : Goes workers p act p') : Sane buckets p' := by
  cases goes with
  | took ahead _ =>
      refine sane.shared_step _ _ ?_
      rw [Shared.asked_begin, ahead, List.append_assoc, List.singleton_append]
  | advanced =>
      refine sane.shared_step _ _ ?_
      rw [Shared.asked_advance]
  | @filed errand bucket result there unfiled =>
      refine ⟨sane.order, sane.whole, ?_, ?_, sane.seen, sane.stopped, ?_⟩
      · exact List.Nodup.append sane.unique (List.nodup_singleton errand) (by simpa using unfiled)
      · intro other member
        rcases List.mem_append.mp member with earlier | now
        · exact sane.done other earlier
        · cases List.mem_singleton.mp now
          exact ⟨bucket, result, there⟩
      · refine (sane.tells.entered bucket result).of_iff fun named outcome => ?_
        constructor
        · rintro (⟨other, member, here⟩ | ⟨rfl, rfl⟩)
          · exact ⟨other, List.mem_append_left _ member, here⟩
          · exact ⟨errand, List.mem_append_right _ (List.mem_singleton.mpr rfl), there⟩
        · rintro ⟨other, member, here⟩
          rcases List.mem_append.mp member with earlier | now
          · exact .inl ⟨other, earlier, here⟩
          · cases List.mem_singleton.mp now
            have same := here.symm.trans there
            cases same
            exact .inr ⟨rfl, rfl⟩
  | saw _ there _ reported =>
      refine ⟨sane.order, sane.whole, sane.unique, sane.done, ?_, sane.stopped, sane.tells⟩
      intro errand earlier
      rcases Nat.lt_succ_iff_lt_or_eq.mp earlier with before | now
      · exact sane.seen errand before
      · subst now
        exact ⟨_, _, there, reported⟩
  | stopped _ there _ unexpected =>
      refine ⟨sane.order, ?_, sane.unique, sane.done, sane.seen, ?_, sane.tells⟩
      · intro going
        cases going
      · intro e failed
        cases failed
        exact ⟨unexpected, _, _, there⟩
  | withdrew failed _ =>
      refine ⟨?_, ?_, sane.unique, sane.done, sane.seen, sane.stopped, sane.tells⟩
      · have shorter := (List.prefix_append_right_inj p.shared.asked).mpr
          (List.dropLast_prefix p.waiting)
        exact shorter.trans sane.order
      · intro going
        rw [failed] at going
        cases going

theorem Sane.bucket_eq (sane : Sane buckets p) {errand : Nat} {bucket : String} {phase : Phase}
    (there : p.shared.errands[errand]? = some ⟨bucket, phase⟩) :
    buckets[errand]? = some bucket := by
  obtain ⟨rest, equal⟩ := sane.order
  have asked : p.shared.asked[errand]? = some bucket := by
    simp [Shared.asked, there]
  obtain ⟨within, _⟩ := List.getElem?_eq_some_iff.mp asked
  rw [← equal, List.append_assoc, List.getElem?_append_left within, asked]

/-! ## Workers that are busy -/

theorem Sane.filed_lt (sane : Sane buckets p) {errand : Nat} (member : errand ∈ p.filed) :
    errand < p.shared.errands.length := by
  obtain ⟨bucket, result, there⟩ := sane.done errand member
  exact (List.getElem?_eq_some_iff.mp there).1

theorem Sane.filed_subperm (sane : Sane buckets p) :
    p.filed.Subperm (List.range p.shared.errands.length) :=
  List.subperm_of_subset sane.unique fun _ member => List.mem_range.mpr (sane.filed_lt member)

theorem Sane.length_filed_le (sane : Sane buckets p) :
    p.filed.length ≤ p.shared.errands.length := by
  have shorter := sane.filed_subperm.length_le
  rwa [List.length_range] at shorter

theorem Sane.seen_le (sane : Sane buckets p) : p.seen ≤ p.shared.errands.length := by
  by_contra beyond
  obtain ⟨bucket, result, there, _⟩ := sane.seen p.shared.errands.length (by omega)
  exact Nat.lt_irrefl _ (List.getElem?_eq_some_iff.mp there).1

theorem exists_unfiled (busy : p.busy ≠ 0) :
    ∃ errand < p.shared.errands.length, errand ∉ p.filed := by
  by_contra all
  have covered : List.range p.shared.errands.length ⊆ p.filed := by
    intro errand member
    by_contra unfiled
    exact all ⟨errand, List.mem_range.mp member, unfiled⟩
  have longer := (List.subperm_of_subset List.nodup_range covered).length_le
  rw [List.length_range] at longer
  exact busy (Nat.sub_eq_zero_of_le longer)

theorem Sane.filed_of_idle (sane : Sane buckets p) (idle : p.busy = 0) {errand : Nat}
    (within : errand < p.shared.errands.length) : errand ∈ p.filed := by
  have many : (List.range p.shared.errands.length).length ≤ p.filed.length := by
    rw [List.length_range]
    exact Nat.sub_eq_zero_iff_le.mp idle
  have same := sane.filed_subperm.perm_of_length_le many
  exact same.mem_iff.mpr (List.mem_range.mpr within)

/-! ## Progress -/

/-- The acts that a pool has before it at most. A bucket that waits has seven: it is taken or
withdrawn, its lookup has five steps, its result is filed, and the caller looks at it. -/
def remaining (p : Pool) : Nat :=
  7 * p.waiting.length + (p.shared.errands.map fun errand => errand.phase.stepsLeft).sum + p.busy +
    if p.failure?.isSome then 0 else p.waiting.length + p.shared.errands.length - p.seen

theorem stepsLeft_advance (transport : Transport) (clock : Calendar.Reading) {s : Shared}
    {errand : Nat} {bucket : String} {phase : Phase}
    (there : s.errands[errand]? = some ⟨bucket, phase⟩) (unended : phase.stepsLeft ≠ 0) :
    ((s.step (.advance errand transport clock)).errands.map fun e => e.phase.stepsLeft).sum <
      (s.errands.map fun e => e.phase.stepsLeft).sum := by
  have nearer := Client.stepsLeft_advance_le s.client transport clock bucket phase
  have exchanged := sum_map_put (fun e : Errand => e.phase.stepsLeft) there
    ⟨bucket, (s.client.advance transport clock bucket phase).phase⟩
  rw [Shared.step_advance transport clock there]
  dsimp only at exchanged ⊢
  omega

/-- An act that does anything brings the batch nearer to its end. -/
theorem Sane.remaining_lt (sane : Sane buckets p) (goes : Goes workers p act p') :
    p'.remaining < p.remaining := by
  have filed := sane.length_filed_le
  have seen := sane.seen_le
  cases goes with
  | took ahead _ =>
      simp only [remaining, busy, Shared.step, ahead, List.length_cons, List.map_append,
        List.sum_append, List.map_singleton, List.sum_singleton, List.length_append,
        List.length_nil, Phase.stepsLeft]
      split <;> omega
  | @advanced errand bucket phase transport clock there unended =>
      have nearer := stepsLeft_advance transport clock there unended
      have many : (p.shared.step (.advance errand transport clock)).errands.length =
          p.shared.errands.length := by
        rw [← Shared.length_asked, Shared.asked_advance, Shared.length_asked]
      simp only [remaining, busy, many]
      omega
  | @filed errand _ _ there unfiled =>
      have within := (List.getElem?_eq_some_iff.mp there).1
      have fewer : p.filed.length < p.shared.errands.length := by
        by_contra full
        exact unfiled (sane.filed_of_idle (Nat.sub_eq_zero_of_le (Nat.le_of_not_lt full)) within)
      simp only [remaining, busy, List.length_append, List.length_singleton]
      omega
  | saw going there =>
      have within := (List.getElem?_eq_some_iff.mp there).1
      simp only [remaining, busy, going, Option.isSome_none, Bool.false_eq_true, if_false]
      omega
  | stopped going there =>
      have within := (List.getElem?_eq_some_iff.mp there).1
      simp only [remaining, busy, going, Option.isSome_none, Option.isSome_some,
        Bool.false_eq_true, if_false, if_true]
      omega
  | withdrew failed ahead =>
      have several := List.length_pos_iff.mpr ahead
      simp only [remaining, busy, failed, Option.isSome_some, if_true, List.length_dropLast]
      omega

/-- As long as the batch is not over something can happen, whatever transport comes next. -/
theorem Sane.exists_goes (sane : Sane buckets p) (staffed : 0 < workers)
    (unreturned : p.returned? = none) (transport : Transport) (clock : Calendar.Reading) :
    ∃ act, act.Uses transport clock ∧ Goes workers p act (p.step workers act) := by
  by_cases busy : p.busy = 0
  · cases failed : p.failure? with
    | some e =>
        have ahead : p.waiting ≠ [] := by
          intro empty
          simp [returned?, empty, busy, failed] at unreturned
        refine ⟨.withdraw, trivial, ?_⟩
        rw [step_withdraw failed]
        exact .withdrew failed ahead
    | none =>
        cases ahead : p.waiting with
        | cons bucket rest =>
            have free : p.busy < workers := busy ▸ staffed
            refine ⟨.take, trivial, ?_⟩
            rw [step_take ahead free]
            exact .took ahead free
        | nil =>
            have before : p.seen ≠ p.shared.errands.length := by
              intro last
              simp [returned?, ahead, busy, failed, last] at unreturned
            have within := Nat.lt_of_le_of_ne sane.seen_le before
            have done := sane.filed_of_idle busy within
            obtain ⟨bucket, result, there⟩ := sane.done p.seen done
            exact ⟨.look, trivial, goes_look failed there done⟩
  · obtain ⟨errand, within, unfiled⟩ := exists_unfiled busy
    have there : p.shared.errands[errand]? = some _ := List.getElem?_eq_getElem within
    generalize p.shared.errands[errand] = held at there
    obtain ⟨bucket, phase⟩ := held
    by_cases ended : phase.stepsLeft = 0
    · cases phase with
      | ended result =>
          refine ⟨.file errand, trivial, ?_⟩
          rw [step_file there unfiled]
          exact .filed there unfiled
      | _ => cases ended
    · refine ⟨.advance errand transport clock, ⟨rfl, rfl⟩, ?_⟩
      rw [step_advance there ended]
      exact .advanced there ended

theorem Sane.step (sane : Sane buckets p) (workers : Nat) (act : Act) :
    Sane buckets (p.step workers act) := by
  rcases goes_step workers p act with same | goes
  · rw [same]
    exact sane
  · exact sane.goes goes

theorem Sane.run (sane : Sane buckets p) (workers : Nat) (acts : List Act) :
    Sane buckets (p.run workers acts) := by
  induction acts generalizing p with
  | nil => exact sane
  | cons first rest ih => exact ih (sane.step workers first)

/-- From every state the batch can come to its end, and the transports do not matter for it. -/
theorem Sane.exists_returned (sane : Sane buckets p) (staffed : 0 < workers) (transport : Transport)
    (clock : Calendar.Reading) :
    ∃ rest : List Act, (∀ act ∈ rest, act.Uses transport clock) ∧
      ((p.run workers rest).returned?).isSome = true := by
  -- Each act that is found brings the pool nearer to its end, so no more than `remaining` follow.
  induction left : p.remaining using Nat.strong_induction_on generalizing p with
  | h left' ih =>
      cases returned : p.returned? with
      | some result => exact ⟨[], by simp, by rw [Pool.run, List.foldl_nil, returned]; rfl⟩
      | none =>
          obtain ⟨act, uses, goes⟩ := sane.exists_goes staffed returned transport clock
          obtain ⟨rest, used, finished⟩ :=
            ih _ (left ▸ sane.remaining_lt goes) (sane.goes goes) rfl
          refine ⟨act :: rest, ?_, finished⟩
          intro other member
          rcases List.mem_cons.mp member with first | later
          · exact first ▸ uses
          · exact used other later

/-! ## Results -/

theorem Sane.filed_of_returned (sane : Sane buckets p) {result : Except LookupError Report}
    (returned : p.returned? = some result) : p.waiting = [] ∧
      ∀ errand < p.shared.errands.length, errand ∈ p.filed := by
  unfold returned? at returned
  split at returned
  · next finished => exact ⟨finished.1, fun errand within => sane.filed_of_idle finished.2 within⟩
  · cases returned

theorem Sane.unexpected_of_returned (sane : Sane buckets p) {e : LookupError}
    (returned : p.returned? = some (.error e)) :
    e.isExpected = false ∧ ∃ bucket, p.shared.Found bucket (.error e) := by
  unfold returned? at returned
  split at returned
  · split at returned
    · next failed =>
        cases returned
        exact sane.stopped e failed
    · split at returned <;> cases returned
  · cases returned

/-- A batch that ends with a report has it from all its lookups. -/
theorem Sane.of_report (sane : Sane buckets p) {report : Report}
    (returned : p.returned? = some (.ok report)) :
    report = p.report ∧ p.shared.asked = buckets ∧ p.shared.AllReported ∧
      report.Tells p.shared.Found := by
  obtain ⟨empty, filed⟩ := sane.filed_of_returned returned
  have tells : p.report.Tells p.shared.Found := by
    refine sane.tells.of_iff fun bucket result => ?_
    constructor
    · rintro ⟨errand, _, there⟩
      exact ⟨errand, there⟩
    · rintro ⟨errand, there⟩
      exact ⟨errand, filed errand (List.getElem?_eq_some_iff.mp there).1, there⟩
  unfold returned? at returned
  split at returned
  · split at returned
    · cases returned
    · next going =>
        split at returned
        · next last =>
            cases returned
            have whole := sane.whole going
            rw [empty, List.append_nil] at whole
            refine ⟨rfl, whole, ?_, tells⟩
            intro errand bucket phase there
            have within := (List.getElem?_eq_some_iff.mp there).1
            obtain ⟨named, result, here, reported⟩ := sane.seen errand (last ▸ within)
            have same := there.symm.trans here
            cases same
            exact ⟨result, rfl, reported⟩
        · cases returned
  · cases returned

/-! ## Answers that depend on the buckets alone -/

theorem fated_step (workers : Nat) (sane : Sane buckets p) (fated : p.shared.Fated c answers)
    (proper : act.Proper c answers buckets) : (p.step workers act).shared.Fated c answers := by
  rcases goes_step workers p act with same | goes
  · rw [same]
    exact fated
  · generalize p.step workers act = after at goes
    cases goes with
    | @took bucket => exact fated.shift (Shared.shift_step p.shared (.begin bucket)) trivial
    | @advanced errand bucket phase transport clock there _ =>
        refine fated.shift (Shared.shift_step p.shared (.advance errand transport clock)) ?_
        -- An act tells the place of a lookup, and in a pool the place tells the bucket.
        intro named _ here
        exact proper named (sane.bucket_eq here)
    | _ => exact fated

theorem fated_run (workers : Nat) (sane : Sane buckets p) (fated : p.shared.Fated c answers)
    {acts : List Act} (proper : ∀ act ∈ acts, act.Proper c answers buckets) :
    (p.run workers acts).shared.Fated c answers := by
  induction acts generalizing p with
  | nil => exact fated
  | cons first rest ih =>
      have after := fated_step workers sane fated (proper first List.mem_cons_self)
      exact ih (sane.step workers first) after
        fun act member => proper act (List.mem_cons_of_mem first member)

theorem settled_run (workers : Nat) {acts : List Act}
    (proper : ∀ act ∈ acts, act.Proper c answers buckets) {report : Report}
    (returned : ((start c buckets).run workers acts).returned? = some (.ok report)) :
    Settled c answers buckets report
      ((start c buckets).run workers acts).shared.client.cache := by
  have sane := (sane_start c buckets).run workers acts
  have fated := fated_run workers (sane_start c buckets)
    (Shared.fated_start c answers) proper
  obtain ⟨_, asked, finished, tells⟩ := sane.of_report returned
  exact .intro fated finished tells asked rfl

end Batch.Pool

namespace Batch

/-- Two reports and the two caches that were left with them say the same of all buckets. -/
structure Alike (report report' : Report) (cache cache' : LocationCache) : Prop where
  locations : ∀ bucket,
    Fields.get? bucket report.locations = Fields.get? bucket report'.locations
  errors : ∀ bucket, Fields.get? bucket report.errors = Fields.get? bucket report'.errors
  cached : ∀ bucket, cache.get? bucket = cache'.get? bucket

theorem Settled.alike {c : Client} {answers : Answers} {buckets : List String}
    {report report' : Report} {cache cache' : LocationCache}
    (settled : Settled c answers buckets report cache)
    (settled' : Settled c answers buckets report' cache') : Alike report report' cache cache' where
  locations := fun bucket =>
    (settled.told bucket).location.trans (settled'.told bucket).location.symm
  errors := fun bucket => (settled.told bucket).error.trans (settled'.told bucket).error.symm
  cached := fun bucket => (settled.told bucket).cached.trans (settled'.told bucket).cached.symm

/-- What holds of a pool after any acts, where it has been given some buckets and is told how many
lookups may run at a time. -/
structure Serves (c : Client) (buckets : List String) (concurrency : Int) (acts : List Act)
    (p : Pool) : Prop where
  progress : ∀ act, p.step (workersFor concurrency) act = p ∨
    (p.step (workersFor concurrency) act).remaining < p.remaining
  lively : ∀ transport clock, p.returned? = none → ∃ act : Act, act.Uses transport clock ∧
    (p.step (workersFor concurrency) act).remaining < p.remaining
  returns : ∀ transport clock, ∃ rest : List Act, (∀ act ∈ rest, act.Uses transport clock) ∧
    ((p.run (workersFor concurrency) rest).returned?).isSome = true
  /-- If callers are told to expect what all lookups come to, there is a report. -/
  reports : ∀ result, p.returned? = some result →
    (∀ bucket outcome, p.shared.Found bucket outcome → isReported outcome = true) →
      result = .ok p.report
  complete : ∀ report, p.returned? = some (.ok report) → ∀ bucket,
    (bucket ∈ Fields.keys report.locations ∨ bucket ∈ Fields.keys report.errors ↔
      bucket ∈ buckets)
  located : ∀ report, p.returned? = some (.ok report) → ∀ bucket region,
    Fields.get? bucket report.locations = some region → p.shared.Found bucket (.ok region)
  explained : ∀ report, p.returned? = some (.ok report) → ∀ bucket entry,
    Fields.get? bucket report.errors = some entry → ∃ e, p.shared.Found bucket (.error e) ∧
      e.isExpected = true ∧ entry = description e
  /-- Cookies may make one order of the lookups fail and another one not: such failures are none
  that callers are told to expect, and a batch that meets one has no report. -/
  determined : ∀ answers, (∀ act ∈ acts, act.Proper c answers buckets) →
    ∀ report, p.returned? = some (.ok report) →
      (∀ bucket ∈ Fields.keys report.locations, bucket ∉ Fields.keys report.errors) ∧
      (∀ (concurrency' : Int) (acts' : List Act) (report' : Report),
        (∀ act ∈ acts', act.Proper c answers buckets) →
        ((Pool.start c buckets).run (workersFor concurrency') acts').returned? =
            some (.ok report') →
          Alike report report' p.shared.client.cache
            ((Pool.start c buckets).run (workersFor concurrency') acts').shared.client.cache) ∧
      ∀ (transport : Transport) (clock : Calendar.Reading) (report' : Report),
        (∀ bucket ∈ buckets, transport.Gives c.endpoint bucket (answers bucket)) →
        (resolve c transport clock buckets).result = .ok report' →
          Alike report report' p.shared.client.cache
            (resolve c transport clock buckets).client.cache

/-- A batch comes to its end and its report is complete, whatever its workers do. -/
theorem serves_run (c : Client) (buckets : List String) (concurrency : Int) (acts : List Act) :
    Serves c buckets concurrency acts
      ((Pool.start c buckets).run (workersFor concurrency) acts) := by
  have staffed : 0 < workersFor concurrency := by
    unfold workersFor
    omega
  have sane := (Pool.sane_start c buckets).run (workersFor concurrency) acts
  have settled : ∀ answers, (∀ act ∈ acts, act.Proper c answers buckets) → ∀ report, _ →
      Settled c answers buckets report _ := fun answers proper report returned =>
    Pool.settled_run (workersFor concurrency) proper returned
  generalize (Pool.start c buckets).run (workersFor concurrency) acts = p at *
  exact {
    progress := by
      intro act
      rcases Pool.goes_step (workersFor concurrency) p act with same | goes
      · exact .inl same
      · exact .inr (sane.remaining_lt goes)
    lively := by
      intro transport clock unreturned
      obtain ⟨act, uses, goes⟩ := sane.exists_goes staffed unreturned transport clock
      exact ⟨act, uses, sane.remaining_lt goes⟩
    returns := fun transport clock => sane.exists_returned staffed transport clock
    reports := by
      intro result returned reported
      cases result with
      | ok report => rw [(sane.of_report returned).1]
      | error e =>
          obtain ⟨unexpected, bucket, found⟩ := sane.unexpected_of_returned returned
          have expected := reported bucket _ found
          rw [isReported, unexpected] at expected
          cases expected
    complete := by
      intro report returned bucket
      obtain ⟨_, asked, finished, tells⟩ := sane.of_report returned
      rw [tells.mem_keys_iff fun named outcome => finished.reported, ← finished.found_iff, asked]
    located := fun report returned => (sane.of_report returned).2.2.2.located
    explained := fun report returned => (sane.of_report returned).2.2.2.explained
    determined := by
      intro answers proper report returned
      have here := settled answers proper report returned
      refine ⟨fun bucket located => here.disjoint located, ?_, ?_⟩
      · intro concurrency' acts' report' proper' returned'
        exact here.alike (Pool.settled_run (workersFor concurrency') proper' returned')
      · intro transport clock report' gives resolved
        exact here.alike (settled_resolve transport clock gives resolved) }

/-- The acts of lookups that all meet one transport are answered by their buckets alone, if that
transport goes by the bucket alone. -/
theorem Act.Uses.proper {c : Client} {answers : Answers} {buckets : List String} {act : Act}
    {transport : Transport} {clock : Calendar.Reading} (uses : act.Uses transport clock)
    (gives : ∀ bucket ∈ buckets, transport.Gives c.endpoint bucket (answers bucket)) :
    act.Proper c answers buckets := by
  cases act with
  | advance errand met read =>
      obtain ⟨rfl, rfl⟩ := uses
      exact fun bucket there => gives bucket (List.mem_of_getElem? there)
  | _ => trivial

end Batch

/-! ## A bucket that is found and one that is refused -/

namespace Sample

open Batch (Act)

/-- The answer to the query for a bucket: its region if it is the one for photos, and a refusal
otherwise. -/
def pairAnswers : Answers := fun bucket =>
  .ok (.make (if bucket == "photos" then 200 else 403) none (.ofLines []) [])

def pairTransport : Transport := fun request =>
  pairAnswers (if request.url.path == "/photos" then "photos" else "films")

theorem gives_pairTransport :
    ∀ bucket ∈ ["photos", "films"], pairTransport.Gives client.endpoint bucket (pairAnswers bucket) := by
  have photos : (Endpoint.locationUrl client.endpoint "photos").toOption.map (·.path) =
      some "/photos" := by decide +kernel
  have films : (Endpoint.locationUrl client.endpoint "films").toOption.map (·.path) =
      some "/films" := by decide +kernel
  intro bucket member request located
  simp only [List.mem_cons, List.not_mem_nil, or_false] at member
  rcases member with rfl | rfl
  · rw [located] at photos
    have path : request.url.path = "/photos" := Option.some.inj photos
    rw [pairTransport, path]
    rfl
  · rw [located] at films
    have path : request.url.path = "/films" := Option.some.inj films
    rw [pairTransport, path]
    rfl

/-- A step of the lookup at a place of the batch. -/
def onward (errand : Nat) : Act := .advance errand pairTransport noon

/-- Two workers whose steps go to and fro; the refusal is filed first. -/
def together : List Act :=
  [.take, .take, onward 1, onward 0, onward 1, onward 1, onward 0, onward 0, onward 1, .file 1,
    .look, onward 0, onward 0, .file 0, .look, .look]

/-- One worker. -/
def inTurn : List Act :=
  [.take, onward 0, onward 0, onward 0, onward 0, onward 0, .file 0, .look, .take, onward 1,
    onward 1, onward 1, onward 1, .file 1, .look]

end Sample

namespace Batch

theorem serves_run_photos :
    let pool := (Pool.start Sample.client ["photos", "films"]).run (workersFor 2) Sample.together
    let other := (Pool.start Sample.client ["photos", "films"]).run (workersFor 1) Sample.inTurn
    (Serves Sample.client ["photos", "films"] 2 Sample.together pool ∧
      Serves Sample.client ["photos", "films"] 1 Sample.inTurn other) ∧
    (∀ act ∈ Sample.together ++ Sample.inTurn,
      act.Proper Sample.client Sample.pairAnswers ["photos", "films"]) ∧
    (pool.shared.client.counters.get "location_requests" = 2 ∧
      pool.shared.client.cache.entries = [("photos", Region.default)]) ∧
    ∃ report report', pool.returned? = some (.ok report) ∧ other.returned? = some (.ok report') ∧
      report.locations = [("photos", Region.default)] ∧ Fields.keys report.errors = ["films"] ∧
      Alike report report' pool.shared.client.cache other.shared.client.cache := by
  intro pool other
  have uses : ∀ act ∈ Sample.together ++ Sample.inTurn,
      act.Uses Sample.pairTransport Sample.noon := by
    simp only [Sample.together, Sample.inTurn, Sample.onward, List.cons_append, List.nil_append,
      List.forall_mem_cons, List.not_mem_nil, false_implies, implies_true, Act.Uses, and_self]
  have proper : ∀ act ∈ Sample.together ++ Sample.inTurn,
      act.Proper Sample.client Sample.pairAnswers ["photos", "films"] := fun act member =>
    (uses act member).proper Sample.gives_pairTransport
  have serves : Serves Sample.client ["photos", "films"] 2 Sample.together pool :=
    serves_run _ _ _ _
  have serves' : Serves Sample.client ["photos", "films"] 1 Sample.inTurn other :=
    serves_run _ _ _ _
  have runs : (Pool.start Sample.client ["photos", "films"]).run (workersFor 1) Sample.inTurn =
      other := rfl
  have told : pool.returned?.bind (fun result => result.toOption.map fun report =>
      (report.locations, Fields.keys report.errors)) =
        some ([("photos", Region.default)], ["films"]) := by decide +kernel
  have told' : (other.returned?.bind fun result => result.toOption).isSome = true := by
    decide +kernel
  have counted : pool.shared.client.counters.get "location_requests" = 2 ∧
      pool.shared.client.cache.entries = [("photos", Region.default)] := by decide +kernel
  obtain ⟨result, returned, told⟩ := Option.bind_eq_some_iff.mp told
  obtain ⟨report, made, told⟩ := Option.map_eq_some_iff.mp told
  obtain ⟨report', told'⟩ := Option.isSome_iff_exists.mp told'
  obtain ⟨result', returned', made'⟩ := Option.bind_eq_some_iff.mp told'
  rw [toOption_eq_some.mp made] at returned
  rw [toOption_eq_some.mp made'] at returned'
  obtain ⟨properly, properly'⟩ := List.forall_mem_append.mp proper
  obtain ⟨_, alike, _⟩ := serves.determined Sample.pairAnswers properly report returned
  have alike := alike 1 Sample.inTurn report' properly' returned'
  rw [runs] at alike
  have parts := Prod.mk.inj told
  exact ⟨⟨serves, serves'⟩, proper, counted, report, report', returned, returned', parts.1, parts.2,
    alike⟩

end Batch

end BucketRegion

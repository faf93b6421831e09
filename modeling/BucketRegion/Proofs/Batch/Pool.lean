import BucketRegion.Proofs.Batch.Report

/-!
# Pools of workers

A batch whose buckets are looked up by several workers at once. The buckets wait in their order. A
worker that is free takes the first of them, carries out the steps of its lookup, files the result
in the report that all workers share, and is free again. Meanwhile the caller goes through the
results in the order of the buckets and waits for each. At the first result that ends the batch the
caller withdraws the buckets that still wait, the last one first. In either case the batch is over
only when no worker is busy.
-/

set_option autoImplicit false

namespace BucketRegion.Batch

open Http (Transport)

/-- How many workers there are: as many as are asked for, and at least one. -/
def workersFor (concurrency : Int) : Nat := (max 1 concurrency).toNat

structure Pool where
  shared : Shared
  /-- The buckets that no worker has taken. -/
  waiting : List String
  /-- The lookups whose results have been filed, in the order in which they were. -/
  filed : List Nat
  report : Report
  /-- The number of results that the caller has gone through. -/
  seen : Nat
  /-- The error at which the caller has stopped. -/
  failure? : Option LookupError

/-- What can happen in a pool. -/
inductive Act where
  | take
  | advance (errand : Nat) (transport : Transport) (clock : Calendar.Reading)
  | file (errand : Nat)
  | look
  | withdraw

/-- The act of a lookup that meets this transport at this reading of the clock, or of none. -/
def Act.Uses (transport : Transport) (clock : Calendar.Reading) : Act → Prop
  | .advance _ met read => met = transport ∧ read = clock
  | _ => True

/-- The act of a lookup that is answered by its bucket alone, or of none. The lookups have the
buckets of the batch in their order. -/
def Act.Proper (c : Client) (answers : Answers) (buckets : List String) : Act → Prop
  | .advance errand transport _ => ∀ bucket, buckets[errand]? = some bucket →
      transport.Gives c.endpoint bucket (answers bucket)
  | _ => True

namespace Pool

def start (c : Client) (buckets : List String) : Pool := ⟨.start c, buckets, [], .empty, 0, none⟩

/-- The number of workers that have a lookup: it has been taken and its result is not filed. -/
def busy (p : Pool) : Nat := p.shared.errands.length - p.filed.length

def step (workers : Nat) (p : Pool) : Act → Pool
  | .take =>
      match p.waiting with
      | [] => p
      | bucket :: rest =>
          if p.busy < workers then
            { p with shared := p.shared.step (.begin bucket), waiting := rest }
          else p
  | .advance errand transport clock =>
      match p.shared.errands[errand]? with
      | none => p
      | some ⟨_, phase⟩ =>
          if phase.stepsLeft = 0 then p
          else { p with shared := p.shared.step (.advance errand transport clock) }
  | .file errand =>
      match p.shared.errands[errand]? with
      | some ⟨bucket, .ended result⟩ =>
          if errand ∈ p.filed then p
          else { p with filed := p.filed ++ [errand], report := p.report.entered bucket result }
      | _ => p
  | .look =>
      match p.failure?, p.shared.errands[p.seen]? with
      | none, some ⟨_, .ended result⟩ =>
          if p.seen ∈ p.filed then
            match result with
            | .ok _ => { p with seen := p.seen + 1 }
            | .error e =>
                if e.isExpected then { p with seen := p.seen + 1 }
                else { p with failure? := some e }
          else p
      | _, _ => p
  | .withdraw =>
      if p.failure?.isSome then { p with waiting := p.waiting.dropLast } else p

def run (workers : Nat) (p : Pool) (acts : List Act) : Pool := acts.foldl (step workers) p

theorem run_cons (workers : Nat) (p : Pool) (first : Act) (rest : List Act) :
    p.run workers (first :: rest) = (p.step workers first).run workers rest := rfl

/-- What the batch comes to, once it is over. -/
def returned? (p : Pool) : Option (Except LookupError Report) :=
  if p.waiting = [] ∧ p.busy = 0 then
    match p.failure? with
    | some e => some (.error e)
    | none => if p.seen = p.shared.errands.length then some (.ok p.report) else none
  else none

/-- The results that have been filed. -/
def Filed (p : Pool) (bucket : String) (result : Except LookupError String) : Prop :=
  ∃ errand ∈ p.filed, p.shared.errands[errand]? = some ⟨bucket, .ended result⟩

/-- What an act can come to, unless it leaves everything as it is. -/
inductive Goes (workers : Nat) (p : Pool) : Act → Pool → Prop where
  | took {bucket : String} {rest : List String} (ahead : p.waiting = bucket :: rest)
      (free : p.busy < workers) :
      Goes workers p .take { p with shared := p.shared.step (.begin bucket), waiting := rest }
  | advanced {errand : Nat} {bucket : String} {phase : Phase} {transport : Transport}
      {clock : Calendar.Reading} (there : p.shared.errands[errand]? = some ⟨bucket, phase⟩)
      (unended : phase.stepsLeft ≠ 0) :
      Goes workers p (.advance errand transport clock)
        { p with shared := p.shared.step (.advance errand transport clock) }
  | filed {errand : Nat} {bucket : String} {result : Except LookupError String}
      (there : p.shared.errands[errand]? = some ⟨bucket, .ended result⟩)
      (unfiled : errand ∉ p.filed) :
      Goes workers p (.file errand)
        { p with filed := p.filed ++ [errand], report := p.report.entered bucket result }
  | saw {bucket : String} {result : Except LookupError String} (going : p.failure? = none)
      (there : p.shared.errands[p.seen]? = some ⟨bucket, .ended result⟩)
      (done : p.seen ∈ p.filed) (reported : isReported result = true) :
      Goes workers p .look { p with seen := p.seen + 1 }
  | stopped {bucket : String} {e : LookupError} (going : p.failure? = none)
      (there : p.shared.errands[p.seen]? = some ⟨bucket, .ended (.error e)⟩)
      (done : p.seen ∈ p.filed) (unexpected : e.isExpected = false) :
      Goes workers p .look { p with failure? := some e }
  | withdrew {e : LookupError} (failed : p.failure? = some e) (ahead : p.waiting ≠ []) :
      Goes workers p .withdraw { p with waiting := p.waiting.dropLast }

section Steps

variable {workers : Nat} {p : Pool}

theorem step_take {bucket : String} {rest : List String} (ahead : p.waiting = bucket :: rest)
    (free : p.busy < workers) :
    p.step workers .take = { p with shared := p.shared.step (.begin bucket), waiting := rest } := by
  simp only [step, ahead, if_pos free]

theorem step_advance {errand : Nat} {bucket : String} {phase : Phase}
    (there : p.shared.errands[errand]? = some ⟨bucket, phase⟩) (unended : phase.stepsLeft ≠ 0)
    (transport : Transport) (clock : Calendar.Reading) :
    p.step workers (.advance errand transport clock) =
      { p with shared := p.shared.step (.advance errand transport clock) } := by
  simp only [step, there, if_neg unended]

theorem step_file {errand : Nat} {bucket : String} {result : Except LookupError String}
    (there : p.shared.errands[errand]? = some ⟨bucket, .ended result⟩)
    (unfiled : errand ∉ p.filed) :
    p.step workers (.file errand) =
      { p with filed := p.filed ++ [errand], report := p.report.entered bucket result } := by
  simp only [step, there, if_neg unfiled]

theorem goes_look {bucket : String} {result : Except LookupError String}
    (going : p.failure? = none)
    (there : p.shared.errands[p.seen]? = some ⟨bucket, .ended result⟩)
    (done : p.seen ∈ p.filed) : Goes workers p .look (p.step workers .look) := by
  cases result with
  | ok region =>
      have look : p.step workers .look = { p with seen := p.seen + 1 } := by
        simp only [step, going, there, if_pos done]
      rw [look]
      exact .saw going there done rfl
  | error e =>
      cases expected : e.isExpected with
      | true =>
          have look : p.step workers .look = { p with seen := p.seen + 1 } := by
            simp only [step, going, there, if_pos done, if_pos expected]
          rw [look]
          exact .saw going there done expected
      | false =>
          have look : p.step workers .look = { p with failure? := some e } := by
            simp only [step, going, there, if_pos done, expected, Bool.false_eq_true, if_false]
          rw [look]
          exact .stopped going there done expected

theorem step_withdraw {e : LookupError} (failed : p.failure? = some e) :
    p.step workers .withdraw = { p with waiting := p.waiting.dropLast } := by
  simp [step, failed]

/-- An act leaves everything as it is, or goes one of these ways. -/
theorem goes_step (workers : Nat) (p : Pool) (act : Act) :
    p.step workers act = p ∨ Goes workers p act (p.step workers act) := by
  cases act with
  | take =>
      cases ahead : p.waiting with
      | nil => exact .inl (by simp only [step, ahead])
      | cons bucket rest =>
          by_cases free : p.busy < workers
          · rw [step_take ahead free]
            exact .inr (.took ahead free)
          · exact .inl (by simp only [step, ahead, if_neg free])
  | advance errand transport clock =>
      cases there : p.shared.errands[errand]? with
      | none => exact .inl (by simp only [step, there])
      | some held =>
          obtain ⟨bucket, phase⟩ := held
          by_cases ended : phase.stepsLeft = 0
          · exact .inl (by simp only [step, there, if_pos ended])
          · rw [step_advance there ended]
            exact .inr (.advanced there ended)
  | file errand =>
      cases there : p.shared.errands[errand]? with
      | none => exact .inl (by simp only [step, there])
      | some held =>
          obtain ⟨bucket, phase⟩ := held
          cases phase with
          | ended result =>
              by_cases filed : errand ∈ p.filed
              · exact .inl (by simp only [step, there, if_pos filed])
              · rw [step_file there filed]
                exact .inr (.filed there filed)
          | _ => exact .inl (by simp only [step, there])
  | look =>
      cases going : p.failure? with
      | some e => exact .inl (by simp only [step, going])
      | none =>
          cases there : p.shared.errands[p.seen]? with
          | none => exact .inl (by simp only [step, going, there])
          | some held =>
              obtain ⟨bucket, phase⟩ := held
              cases phase with
              | ended result =>
                  by_cases done : p.seen ∈ p.filed
                  · exact .inr (goes_look going there done)
                  · exact .inl (by simp only [step, going, there, if_neg done])
              | _ => exact .inl (by simp only [step, going, there])
  | withdraw =>
      cases failed : p.failure? with
      | none => exact .inl (by simp [step, failed])
      | some e =>
          rw [step_withdraw failed]
          by_cases ahead : p.waiting = []
          · rw [ahead]
            exact .inl (by cases p; simp_all)
          · exact .inr (.withdrew failed ahead)

end Steps

end Pool

end BucketRegion.Batch

import BucketRegion.CommandLine.Run
import BucketRegion.Proofs.Client.Accounts

/-!
# What batches account for

The lookups of a batch are lookups among others, whether a pool carries them out or one goes after
the other. So the counts that a command exports account for each of its buckets.
-/

set_option autoImplicit false

namespace BucketRegion

open Http (Transport)

namespace Batch

/-! ## Batches as schedules -/

theorem Pool.shared_step (workers : Nat) (p : Pool) (act : Act) :
    ∃ schedule, (p.step workers act).shared = p.shared.run schedule := by
  rcases goes_step workers p act with same | goes
  · exact ⟨[], by rw [same]; rfl⟩
  · generalize p.step workers act = after at goes
    cases goes with
    | @took bucket => exact ⟨[.begin bucket], rfl⟩
    | @advanced errand _ _ transport clock => exact ⟨[.advance errand transport clock], rfl⟩
    | _ => exact ⟨[], rfl⟩

theorem Pool.shared_run (workers : Nat) (p : Pool) (acts : List Act) :
    ∃ schedule, (p.run workers acts).shared = p.shared.run schedule := by
  induction acts generalizing p with
  | nil => exact ⟨[], rfl⟩
  | cons first rest ih =>
      obtain ⟨before, stepped⟩ := shared_step workers p first
      obtain ⟨after, ran⟩ := ih (p.step workers first)
      refine ⟨before ++ after, ?_⟩
      rw [Pool.run_cons, ran, stepped, Shared.run_append]

theorem Pool.Sane.ended_of_returned {buckets : List String} {p : Pool} (sane : p.Sane buckets)
    {result : Except LookupError Report} (returned : p.returned? = some result) :
    p.shared.AllEnded := by
  intro errand bucket phase there
  obtain ⟨_, filed⟩ := sane.filed_of_returned returned
  obtain ⟨named, outcome, here⟩ :=
    sane.done errand (filed errand (List.getElem?_eq_some_iff.mp there).1)
  have same := there.symm.trans here
  cases same
  exact ⟨outcome, rfl⟩

/-- Lookups one after the other end all, as many as there are buckets unless one ends the batch. -/
theorem shared_resolveInto (transport : Transport) (clock : Calendar.Reading) {s : Shared}
    (finished : s.AllEnded) (report : Report) (buckets : List String) :
    ∃ schedule,
      (s.run schedule).client = (resolveInto transport clock s.client report buckets).client ∧
      (s.run schedule).AllEnded ∧
      ∀ after, (resolveInto transport clock s.client report buckets).result = .ok after →
        (s.run schedule).errands.length = s.errands.length + buckets.length := by
  induction buckets generalizing s report with
  | nil => exact ⟨[], rfl, finished, fun _ _ => rfl⟩
  | cons bucket buckets ih =>
      obtain ⟨client, errands⟩ := Shared.run_lookup s transport clock bucket
      generalize looked : (.begin bucket :: List.replicate 5
        (.advance s.errands.length transport clock) : List Step) = first at client errands
      have overAfter : (s.run first).AllEnded := by
        intro errand named phase there
        rw [errands, Shared.getElem?_began] at there
        split at there
        · cases there
          exact ⟨_, rfl⟩
        · exact finished errand named phase there
      cases recorded : record report bucket (s.client.lookup transport clock bucket).result with
      | error e =>
          refine ⟨first, ?_, overAfter, ?_⟩
          · simp only [resolveInto, recorded, client]
          · intro after resolved
            simp only [resolveInto, recorded] at resolved
            cases resolved
      | ok next =>
          obtain ⟨rest, clientAfter, overLast, many⟩ := ih overAfter next
          refine ⟨first ++ rest, ?_, ?_, ?_⟩
          · rw [Shared.run_append, clientAfter]
            simp only [resolveInto, recorded, client]
          · rw [Shared.run_append]
            exact overLast
          · intro after resolved
            simp only [resolveInto, recorded, ← client] at resolved
            rw [Shared.run_append, many after resolved, errands]
            simp only [List.length_append, List.length_cons, List.length_nil]
            omega

end Batch

/-! ## Commands -/

/-- The lookups that counters account for. -/
def Counters.lookups (counters : Counters) : Int :=
  counters.get "location_cache_hits" + counters.get "location_cache_misses" +
    counters.get "anonymous_lookups"

theorem Counters.lookups_addDuration (counters : Counters) (elapsed : Int) :
    (counters.addDuration CommandLine.durationName elapsed).1.lookups = counters.lookups := by
  simp only [lookups, get, addDuration, add, CommandLine.durationName, Fields.get?_put,
    String.reduceEq, if_false]

theorem Client.counters_new {options : Client.Options} {clock : Calendar.Reading} {c : Client}
    (new : Client.new options clock = .ok c) : c.counters = .initial := by
  unfold Client.new at new
  obtain ⟨endpoint, _, new⟩ := bind_eq_ok.mp new
  obtain ⟨version, _, new⟩ := bind_eq_ok.mp new
  obtain ⟨userAgent, _, new⟩ := bind_eq_ok.mp new
  cases new
  rfl

namespace CommandLine

theorem of_conclude (s : Surroundings) (report : Batch.Report) (metricsOut : Option String)
    (c : Client) (log : List (List (String × Value))) (journal : Journal) :
    (conclude s report metricsOut c log journal).client = some c ∧
      ∀ path text, (conclude s report metricsOut c log journal).written = some (path, text) →
        c.counters.report s.clock = .ok text := by
  unfold conclude
  dsimp only
  split
  · exact ⟨rfl, fun _ _ written => by cases written⟩
  · split
    · next text made =>
        refine ⟨rfl, fun path other written => ?_⟩
        cases written
        exact made
    · exact ⟨rfl, fun _ _ written => by cases written⟩

/-- A command that has looked its buckets up has a client that accounts for all of them. -/
theorem lookups_resolveWith {s : Surroundings} {context : List (String × Value)} {c : Client}
    {buckets : List String} {metricsOut : Option String} {code : Nat}
    (fresh : c.counters = .initial)
    (completed : (resolveWith s context c buckets metricsOut).ending = .ok code) :
    ∃ d, (resolveWith s context c buckets metricsOut).client = some d ∧
      d.counters.lookups = buckets.length ∧
      ∀ path text, (resolveWith s context c buckets metricsOut).written = some (path, text) →
        d.counters.report s.clock = .ok text := by
  have nothing : (Shared.start c).AllEnded := by
    intro errand bucket phase there
    cases there
  obtain ⟨schedule, client, finished, many⟩ :=
    Batch.shared_resolveInto s.transport s.clock nothing .empty buckets
  have accounts := Shared.accounts_of_ended fresh schedule finished
  simp only [resolveWith, stopped] at completed ⊢
  cases resolved : (Batch.resolve c s.transport s.clock buckets).result with
  | error e =>
      rw [resolved] at completed
      cases completed
  | ok report =>
      obtain ⟨same, exported⟩ := of_conclude s report metricsOut _ _ _
      refine ⟨_, same, ?_, exported⟩
      have client : ((Shared.start c).run schedule).client =
          (Batch.resolve c s.transport s.clock buckets).client := client
      have all := accounts.lookups
      rw [many report resolved, client] at all
      rw [Counters.lookups_addDuration, Counters.lookups, all]
      simp [Shared.start]

end CommandLine

namespace Batch

/-- The counts of a client that had counted nothing account for all its lookups when they are
over: whatever their order, in every pool, and in every command that looks up buckets. -/
theorem accounts_run :
    (∀ (c : Client) (schedule : List Step), c.counters = .initial →
      ((Shared.start c).run schedule).AllEnded → Accounts ((Shared.start c).run schedule)) ∧
    (∀ (c : Client) (buckets : List String) (concurrency : Int) (acts : List Act)
      (result : Except LookupError Report), c.counters = .initial →
      ((Pool.start c buckets).run (workersFor concurrency) acts).returned? = some result →
        Accounts ((Pool.start c buckets).run (workersFor concurrency) acts).shared ∧
        ((∃ report, result = .ok report) →
          ((Pool.start c buckets).run (workersFor concurrency) acts).shared.errands.length =
            buckets.length)) ∧
    ∀ (s : CommandLine.Surroundings) (document : Value) (buckets : List String)
      (concurrency : Option Int) (metricsOut : Option String) (code : Nat),
      (CommandLine.resolve s document buckets concurrency metricsOut).ending = .ok code →
        ∃ c, (CommandLine.resolve s document buckets concurrency metricsOut).client = some c ∧
          c.counters.lookups = buckets.length ∧
          ∀ path text, (CommandLine.resolve s document buckets concurrency metricsOut).written =
            some (path, text) → c.counters.report s.clock = .ok text := by
  refine ⟨fun c schedule fresh finished => Shared.accounts_of_ended fresh schedule finished, ?_, ?_⟩
  · intro c buckets concurrency acts result fresh returned
    have sane := (Pool.sane_start c buckets).run (workersFor concurrency) acts
    obtain ⟨schedule, ran⟩ := Pool.shared_run (workersFor concurrency) (.start c buckets) acts
    have ran : _ = (Shared.start c).run schedule := ran
    have finished := sane.ended_of_returned returned
    refine ⟨?_, ?_⟩
    · rw [ran] at finished ⊢
      exact Shared.accounts_of_ended fresh schedule finished
    · rintro ⟨report, rfl⟩
      have asked := (sane.of_report returned).2.1
      rw [← Shared.length_asked, asked]
  · intro s document buckets concurrency metricsOut code completed
    unfold CommandLine.resolve at completed ⊢
    dsimp only at completed ⊢
    split at completed
    · cases completed
    · split at completed
      · cases completed
      · next made =>
          exact CommandLine.lookups_resolveWith (Client.counters_new made) completed

/-- One lookup of a client that has counted nothing. -/
theorem accounts_run_photos :
    Accounts ((Shared.start Sample.client).run
      (.begin "photos" :: List.replicate 5 (.advance 0 Sample.transport Sample.noon))) := by
  refine accounts_run.1 Sample.client _ rfl fun errand bucket phase there => ?_
  have errands := (Shared.run_lookup (.start Sample.client) Sample.transport Sample.noon "photos").2
  have there := (congrArg (fun held : List Errand => held[errand]?) errands).symm.trans there
  have only := List.mem_of_getElem? there
  cases List.mem_singleton.mp only
  exact ⟨_, rfl⟩

end Batch

end BucketRegion

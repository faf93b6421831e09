import BucketRegion.Proofs.Client.Log

/-!
# Events and counts

The log tells what the counters count: as many answers, by the classes of their statuses, as many
troubles on the way and as many queries. Every lookup that misses the cache reports at most one
answer or trouble, then the end of its query, and then the region if it has stored one; other
lookups report nothing. So it is for lookups one after the other and for lookups among others.
-/

set_option autoImplicit false

namespace BucketRegion

open Http (Transport)
open Counters (className isStatusName ne_className)

/-! ## Kinds of events -/

namespace Event

def isNamed (name : String) (event : Event) : Bool := event.name == name

/-- The status that an event tells. -/
def status? (event : Event) : Option Int :=
  match Fields.get? "status" event.fields with
  | some (.int status) => some status
  | _ => none

/-- The stretch of work that an event tells of. -/
def span? (event : Event) : Option String :=
  match Fields.get? "span" event.fields with
  | some (.text span) => some span
  | _ => none

/-- Whether an event is an answer whose status is of a class. -/
def isAnswerOf (k : Int) (event : Event) : Bool :=
  event.isNamed "location_result" && event.status?.any fun status => status.fdiv 100 == k

/-- Whether an event is the end of the time that a lookup spent on a query. -/
def isSpan (event : Event) : Bool :=
  event.isNamed "trace_span" && event.span? == some "resolve_location"

variable (bucket message constraint url : String) (status bytes elapsed : Int)

@[simp] theorem name_spanned : (spanned bucket).name = "trace_span" := rfl

@[simp] theorem span?_spanned : (spanned bucket).span? = some "resolve_location" := by
  simp [span?, spanned, Trace.span, Fields.get?_cons]

@[simp] theorem name_locationResult :
    (Trace.locationResult bucket url status bytes elapsed).name = "location_result" := rfl

@[simp] theorem status?_locationResult :
    (Trace.locationResult bucket url status bytes elapsed).status? = some status := by
  simp [status?, Trace.locationResult, Fields.get?_cons]

@[simp] theorem name_transportError :
    (transportError bucket message).name = "location_transport_error" := rfl

@[simp] theorem name_resolved : (resolved bucket constraint).name = "location_resolved" := rfl

@[simp] theorem name_invalidated : (invalidated bucket).name = "location_invalidated" := rfl

end Event

namespace Log

/-- The number of events of a kind. -/
def number (log : Log) (kind : Event → Bool) : Nat := log.countP fun entry => kind entry.2

/-- The entries whose events have a name. -/
def named (log : Log) (name : String) : Log := log.filter fun entry => entry.2.isNamed name

theorem number_append (first second : Log) (kind : Event → Bool) :
    number (first ++ second) kind = first.number kind + second.number kind :=
  List.countP_append

theorem number_map (events : List Event) (caller : Caller) (kind : Event → Bool) :
    number (events.map (caller, ·)) kind = events.countP kind := by
  rw [number, List.countP_map]
  rfl

theorem named_append (first second : Log) (name : String) :
    named (first ++ second) name = first.named name ++ second.named name :=
  List.filter_append ..

theorem Interleaves.number_eq {log reported : Log} (interleaves : log.Interleaves reported)
    (kind : Event → Bool) : log.number kind = reported.number kind :=
  interleaves.perm.countP_eq _

end Log

/-! ## Counts and events -/

/-- A credit that each count under some names raises by one. -/
def Credits (which : String → Bool) (credit : Counters → Int) : Prop :=
  ∀ (counters : Counters) (name : String),
    credit (counters.incr name) = credit counters + if which name then 1 else 0

theorem credits_get (name : String) : Credits (· == name) fun counters => counters.get name := by
  intro counters other
  change (counters.incr other).get name = _
  rw [Counters.get_incr]
  by_cases same : name = other
  · simp [same]
  · simp [same, Ne.symm same]

theorem credits_sumOf (which : String → Bool) :
    Credits which fun counters => counters.sumOf which :=
  Counters.sumOf_incr which

theorem Credits.incrAll {which : String → Bool} {credit : Counters → Int}
    (credits : Credits which credit) (names : List String) (counters : Counters) :
    credit (counters.incrAll names) = credit counters + names.countP which := by
  induction names generalizing counters with
  | nil => simp [Counters.incrAll]
  | cons name names ih =>
      have rest : counters.incrAll (name :: names) = (counters.incr name).incrAll names := rfl
      rw [rest, ih, credits, List.countP_cons]
      push_cast
      omega

/-- Names and events that go together: what a lookup counts under such a name it tells by such an
event, a miss by the end of its query. -/
structure Tallies (which : String → Bool) (kind : Event → Bool) : Prop where
  /-- The log tells nothing of these. -/
  untold : ∀ name ∈ ["anonymous_lookups", "location_cache_hits", "location_requests",
    "decode_failures"], which name = false
  misses : ∀ bucket, kind (.spanned bucket) = which "location_cache_misses"
  troubles : ∀ bucket message, kind (.transportError bucket message) = which "transport_errors"
  answers : ∀ bucket url status bytes,
    kind (Trace.locationResult bucket url status bytes 0) = which (Counters.statusName status)
  stored : ∀ bucket constraint, kind (.resolved bucket constraint) = false
  forgotten : ∀ bucket, kind (.invalidated bucket) = false

namespace Tallies

variable {which : String → Bool} {kind : Event → Bool}

/-- Whether a lookup is still to tell that it has missed the cache. -/
def owes (which : String → Bool) (phase : Phase) : Bool :=
  which "location_cache_misses" && phase.isOpen

theorem reports (tallies : Tallies which kind) {bucket : String} {before after : Phase}
    {names : List String} {events : List Event}
    (reports : Reports bucket before after names events) :
    names.countP which + (owes which before).toNat =
      events.countP kind + (owes which after).toNat := by
  obtain ⟨untold, misses, troubles, answers, stored, _⟩ := tallies
  have anonymous := untold "anonymous_lookups" (by simp)
  have hits := untold "location_cache_hits" (by simp)
  have requests := untold "location_requests" (by simp)
  have failures := untold "decode_failures" (by simp)
  have one : ∀ b : Bool, (if b = true then 1 else 0) = b.toNat := by decide
  have running : ∀ phase, phase.isOpen = true →
      owes which phase = which "location_cache_misses" := by
    intro phase runs
    rw [owes, runs, Bool.and_true]
  have resting : ∀ phase, phase.isOpen = false → owes which phase = false := by
    intro phase rests
    rw [owes, rests, Bool.and_false]
  cases reports with
  | quick plain =>
      rw [resting _ rfl, resting _ rfl]
      rcases plain with rfl | rfl
      · simp [anonymous]
      · simp [hits]
  | missed =>
      rw [resting _ rfl, running _ rfl]
      simp [List.countP_cons, one]
  | goesOn runs still plain =>
      rw [running _ runs, running _ still]
      rcases plain with rfl | rfl
      · simp
      · simp [requests]
  | failed runs =>
      rw [running _ runs, resting _ rfl]
      simp [List.countP_cons, one, misses]
  | lost runs =>
      rw [running _ runs, resting _ rfl]
      simp [List.countP_cons, one, misses, troubles, Nat.add_comm]
  | refused runs plain =>
      rw [running _ runs, resting _ rfl]
      rcases plain with rfl | rfl
      · simp [List.countP_cons, one, misses, answers, Nat.add_comm]
      · simp [List.countP_cons, one, misses, answers, failures, Nat.add_comm]
  | told runs =>
      rw [running _ runs, resting _ rfl]
      simp [List.countP_cons, one, misses, answers, Nat.add_comm]
  | stored =>
      rw [resting _ rfl, resting _ rfl]
      simp [stored]
  | rested => rfl

end Tallies

namespace Shared

variable {c : Client} {s : Shared}

theorem tallies_run {which : String → Bool} {credit : Counters → Int} {kind : Event → Bool}
    (credits : Credits which credit) (tallies : Tallies which kind) (zero : credit c.counters = 0)
    (schedule : List Step) :
    credit ((start c).run schedule).client.counters =
      ((start c).log schedule).number kind +
        ((start c).run schedule).number fun _ phase => Tallies.owes which phase := by
  have begun : Tallies.owes which .begun = false := Bool.and_false _
  refine run_logs (P := fun _ t log => credit t.client.counters =
    log.number kind + t.number fun _ phase => Tallies.owes which phase) zero ?_ schedule
  intro past t log next balanced
  have logs := logs_step t past.length next
  generalize t.step next = t', t.kept past.length next = told at logs ⊢
  rw [Log.number_append]
  cases logs with
  | began =>
      rw [number_began fun _ => begun, balanced]
      simp [Log.number]
  | idle => simpa [Log.number] using balanced
  | @moved errand transport clock bucket before after names events d there reports counts =>
      have moved := tallies.reports reports
      have changed :=
        number_moved there (fun _ phase => Tallies.owes which phase) d transport after
      rw [Log.number_map, counts, credits.incrAll]
      push_cast
      omega
  | @forgot bucket =>
      have silent : Log.number [(.forget past.length, .invalidated bucket)] kind = 0 := by
        simp [Log.number, tallies.forgotten bucket]
      rw [silent]
      exact balanced

theorem number_none : (s.number fun _ _ => false) = 0 := by
  rw [number_eq_sum]
  refine Finset.sum_eq_zero fun errand _ => ?_
  cases there : s.errands[errand]? with
  | none => simp [stands, there]
  | some held => simp [stands_of_there there]

/-- When all lookups have finished, none owes an event. -/
theorem tallies_of_ended {which : String → Bool} {credit : Counters → Int} {kind : Event → Bool}
    (credits : Credits which credit) (tallies : Tallies which kind) (zero : credit c.counters = 0)
    {schedule : List Step} (finished : ((start c).run schedule).AllEnded) :
    credit ((start c).run schedule).client.counters = ((start c).log schedule).number kind := by
  have settled : (((start c).run schedule).number fun _ phase => Tallies.owes which phase) =
      ((start c).run schedule).number fun _ _ => false :=
    finished.number_eq fun _ _ => Bool.and_false _
  rw [tallies_run credits tallies zero, settled, number_none]
  exact Int.add_zero _

end Shared

/-! ### Which go together -/

/-- The names under which lookups count anything but answers. -/
theorem isStatusName_of_lookup : ∀ name ∈ ["anonymous_lookups", "location_cache_hits",
    "location_requests", "decode_failures", "location_cache_misses", "transport_errors"],
    isStatusName name = false := by
  decide

theorem tallies_class (k : Int) : Tallies (· == className k) (Event.isAnswerOf k) where
  untold name member := by
    have plain := isStatusName_of_lookup name (List.mem_append_left _ member)
    simpa using ne_className plain k
  misses bucket := by
    have apart := ne_className (isStatusName_of_lookup "location_cache_misses" (by simp)) k
    simp [Event.isAnswerOf, Event.isNamed, apart]
  troubles bucket message := by
    have apart := ne_className (isStatusName_of_lookup "transport_errors" (by simp)) k
    simp [Event.isAnswerOf, Event.isNamed, apart]
  answers bucket url status bytes := by
    have same : className (status.fdiv 100) = className k ↔ status.fdiv 100 = k :=
      ⟨Counters.className_injective, congrArg className⟩
    simp [Event.isAnswerOf, Event.isNamed, Counters.statusName_eq, Bool.beq_eq_decide_eq, same]
  stored bucket constraint := by simp [Event.isAnswerOf, Event.isNamed]
  forgotten bucket := by simp [Event.isAnswerOf, Event.isNamed]

theorem tallies_answers : Tallies isStatusName (Event.isNamed "location_result") where
  untold name member := isStatusName_of_lookup name (List.mem_append_left _ member)
  misses bucket := by
    rw [isStatusName_of_lookup "location_cache_misses" (by simp)]
    simp [Event.isNamed]
  troubles bucket message := by
    rw [isStatusName_of_lookup "transport_errors" (by simp)]
    simp [Event.isNamed]
  answers bucket url status bytes := by simp [Event.isNamed]
  stored bucket constraint := by simp [Event.isNamed]
  forgotten bucket := by simp [Event.isNamed]

theorem tallies_troubles :
    Tallies (· == "transport_errors") (Event.isNamed "location_transport_error") where
  untold := by decide
  misses bucket := by simp [Event.isNamed]
  troubles bucket message := by simp [Event.isNamed]
  answers bucket url status bytes := by
    have plain := isStatusName_of_lookup "transport_errors" (by simp)
    simpa [Event.isNamed, Counters.statusName_eq] using
      (ne_className plain (status.fdiv 100)).symm
  stored bucket constraint := by simp [Event.isNamed]
  forgotten bucket := by simp [Event.isNamed]

theorem tallies_misses : Tallies (· == "location_cache_misses") Event.isSpan where
  untold := by decide
  misses bucket := by simp [Event.isSpan, Event.isNamed]
  troubles bucket message := by simp [Event.isSpan, Event.isNamed]
  answers bucket url status bytes := by
    have plain := isStatusName_of_lookup "location_cache_misses" (by simp)
    simpa [Event.isSpan, Event.isNamed, Counters.statusName_eq] using
      (ne_className plain (status.fdiv 100)).symm
  stored bucket constraint := by simp [Event.isSpan, Event.isNamed]
  forgotten bucket := by simp [Event.isSpan, Event.isNamed]

/-! ## The events of one lookup -/

/-- What a lookup reports of its query before the query is over. -/
structure Opening (events : List Event) : Prop where
  once : events.length ≤ 1
  kinds : ∀ event ∈ events,
    event.name = "location_result" ∨ event.name = "location_transport_error"

theorem opening_nil : Opening [] := ⟨Nat.zero_le 1, by rintro event ⟨⟩⟩

theorem opening_answer (bucket url : String) (status bytes elapsed : Int) :
    Opening [Trace.locationResult bucket url status bytes elapsed] :=
  ⟨Nat.le_refl 1, by simp⟩

theorem opening_trouble (bucket message : String) :
    Opening [.transportError bucket message] :=
  ⟨Nat.le_refl 1, by simp⟩

/-- What a lookup of a bucket has reported when it has come to a phase, where it matters whether it
has missed the cache. -/
inductive Trail (bucket : String) : Bool → Phase → List Event → Prop where
  | begun : Trail bucket false .begun []
  | quick {region : String} : Trail bucket false (.ended (.ok region)) []
  | runs {phase : Phase} (runs : phase.isOpen = true) : Trail bucket true phase []
  | told {constraint : String} {first : List Event} (opening : Opening first) :
      Trail bucket true (.told constraint) (first ++ [.spanned bucket])
  | failed {e : LookupError} {first : List Event} (opening : Opening first) :
      Trail bucket true (.ended (.error e)) (first ++ [.spanned bucket])
  | stored {constraint : String} {first : List Event} (opening : Opening first) :
      Trail bucket true (.ended (.ok (Region.ofConstraint constraint)))
        (first ++ [.spanned bucket] ++ [.resolved bucket constraint])

namespace Trail

variable {bucket : String} {missed : Bool} {before after : Phase} {names : List String}
  {sofar events : List Event}

/-- As long as the time of its query runs, a lookup reports nothing. -/
theorem of_isOpen (trail : Trail bucket missed before sofar) (runs : before.isOpen = true) :
    missed = true ∧ sofar = [] := by
  cases trail with
  | runs => exact ⟨rfl, rfl⟩
  | _ => cases runs

theorem reports (trail : Trail bucket missed before sofar)
    (reports : Reports bucket before after names events) :
    Trail bucket (isMiss before after || missed) after (sofar ++ events) := by
  cases reports with
  | quick =>
      cases trail with
      | begun => exact .quick
      | runs runs => cases runs
  | missed =>
      cases trail with
      | begun => exact .runs rfl
      | runs runs => cases runs
  | goesOn runs still =>
      obtain ⟨rfl, rfl⟩ := trail.of_isOpen runs
      rw [Bool.or_true]
      exact .runs still
  | failed runs =>
      obtain ⟨rfl, rfl⟩ := trail.of_isOpen runs
      rw [Bool.or_true]
      exact .failed opening_nil
  | lost runs =>
      obtain ⟨rfl, rfl⟩ := trail.of_isOpen runs
      rw [Bool.or_true]
      exact .failed (opening_trouble _ _)
  | refused runs =>
      obtain ⟨rfl, rfl⟩ := trail.of_isOpen runs
      rw [Bool.or_true]
      exact .failed (opening_answer ..)
  | told runs =>
      obtain ⟨rfl, rfl⟩ := trail.of_isOpen runs
      rw [Bool.or_true]
      exact .told (opening_answer ..)
  | stored =>
      cases trail with
      | told opening => exact .stored opening
      | runs runs => cases runs
  | rested =>
      rw [List.append_nil]
      exact trail

end Trail

namespace Shared

/-- The log has of every lookup what belongs to its phase, and nothing of lookups to come. -/
structure Trailed (s : Shared) (log : Log) : Prop where
  trail : ∀ (errand : Nat) (bucket : String) (phase : Phase),
    s.errands[errand]? = some ⟨bucket, phase⟩ →
      Trail bucket (hasMissed errand s.past) phase (log.of (.lookup errand))
  later : ∀ errand, s.errands.length ≤ errand →
    hasMissed errand s.past = false ∧ log.of (.lookup errand) = []

variable {c : Client} {s s' : Shared} {next : Step} {log told : Log} {turn : Nat}

theorem Trailed.logs (trailed : Trailed s log) (logs : Logs s turn next s' told) :
    Trailed s' (log ++ told) := by
  cases logs with
  | began =>
      rw [List.append_nil]
      refine ⟨fun errand bucket phase there => ?_, fun errand beyond => ?_⟩
      · rw [getElem?_began] at there
        split at there
        · next last =>
            cases there
            obtain ⟨fresh, silent⟩ := trailed.later errand (Nat.le_of_eq last.symm)
            rw [fresh, silent]
            exact .begun
        · exact trailed.trail errand bucket phase there
      · refine trailed.later errand (Nat.le_trans ?_ beyond)
        simp
  | idle =>
      rw [List.append_nil]
      exact trailed
  | @moved errand transport clock bucket before after names events d here reports =>
      have within := (List.getElem?_eq_some_iff.mp here).1
      refine ⟨fun other asked phase there => ?_, fun other beyond => ?_⟩
      · rw [getElem?_moved here] at there
        rw [hasMissed_moved, Log.of_append, Log.of_map]
        split at there
        · next same =>
            cases there
            rw [same, beq_self_eq_true, Bool.true_and, if_pos rfl]
            exact (trailed.trail errand bucket before here).reports reports
        · next different =>
            have apart : (errand == other) = false := by simpa using Ne.symm different
            have silent : Caller.lookup errand ≠ .lookup other := by simpa using Ne.symm different
            rw [apart, Bool.false_and, Bool.false_or, if_neg silent, List.append_nil]
            exact trailed.trail other asked phase there
      · rw [List.length_set] at beyond
        have different : errand ≠ other := by omega
        have apart : (errand == other) = false := by simpa using different
        have silent : Caller.lookup errand ≠ .lookup other := by simpa using different
        rw [hasMissed_moved, apart, Bool.false_and, Bool.false_or, Log.of_append, Log.of_map,
          if_neg silent, List.append_nil]
        exact trailed.later other beyond
  | @forgot bucket =>
      have silent : ∀ errand, Log.of (log ++ [(.forget turn, .invalidated bucket)])
          (.lookup errand) = log.of (.lookup errand) := by
        intro errand
        simp [Log.of]
      refine ⟨fun errand asked phase there => ?_, fun errand beyond => ?_⟩
      · rw [silent]
        exact trailed.trail errand asked phase there
      · rw [silent]
        exact trailed.later errand beyond

theorem trailed_run (c : Client) (schedule : List Step) :
    Trailed ((start c).run schedule) ((start c).log schedule) := by
  have started : Trailed (start c) [] := ⟨by rintro errand bucket phase ⟨⟩, fun _ _ => ⟨rfl, rfl⟩⟩
  exact run_logs (P := fun _ t log => Trailed t log) started
    (fun past t log next trailed => trailed.logs (logs_step t past.length next)) schedule

end Shared

/-! ## Regions that are stored, and buckets that are forgotten -/

/-- A region that a lookup has stored: which lookup, for which bucket, and the constraint that the
region stands for. -/
structure Writing where
  errand : Nat
  bucket : String
  constraint : String

def Mark.writing? : Mark → Option Writing
  | .moved errand bucket _ (.told constraint) _ => some ⟨errand, bucket, constraint⟩
  | _ => none

/-- The regions that have been stored, in order. -/
def writings (past : List Mark) : List Writing := past.reverse.filterMap Mark.writing?

theorem writings_cons (mark : Mark) (past : List Mark) :
    writings (mark :: past) = writings past ++ mark.writing?.toList := by
  rw [writings, List.reverse_cons, List.filterMap_append, List.filterMap_cons]
  cases mark.writing? <;> rfl

/-- What a step of the past makes of the cache. -/
def Mark.rewrite (mark : Mark) (cache : LocationCache) : LocationCache :=
  match mark with
  | .forgotten bucket => cache.delete bucket
  | .moved .. =>
      mark.writing?.elim cache fun w => cache.set w.bucket (Region.ofConstraint w.constraint)

/-- What is reported of a region that has been stored. -/
def Writing.entry (w : Writing) : Caller × Event :=
  (.lookup w.errand, .resolved w.bucket w.constraint)

/-- A step that forgets a bucket: which one, and its place in the schedule. -/
structure Forgetting where
  turn : Nat
  bucket : String

def Forgetting.entry (f : Forgetting) : Caller × Event := (.forget f.turn, .invalidated f.bucket)

def Step.forgetting? (turn : Nat) : Step → Option Forgetting
  | .forget bucket => some ⟨turn, bucket⟩
  | _ => none

/-- The steps of a schedule that forget a bucket, in order. -/
def forgettings (schedule : List Step) : List Forgetting :=
  schedule.zipIdx.filterMap fun (next, turn) => next.forgetting? turn

theorem forgettings_concat (past : List Step) (next : Step) :
    forgettings (past ++ [next]) = forgettings past ++ (next.forgetting? past.length).toList := by
  have last : [(next, past.length)].filterMap (fun (next, turn) => Step.forgetting? turn next) =
      (next.forgetting? past.length).toList := by
    cases next <;> rfl
  rw [forgettings, List.zipIdx_append, List.filterMap_append, Nat.zero_add, List.zipIdx_singleton,
    last]
  rfl

theorem Reports.named_resolved {bucket : String} {before after : Phase} {names : List String}
    {events : List Event} (reports : Reports bucket before after names events) (errand : Nat)
    (transport : Transport) :
    Log.named (events.map (Caller.lookup errand, ·)) "location_resolved" =
      (Mark.moved errand bucket transport before after).writing?.toList.map Writing.entry := by
  have unstored : before.isOpen = true →
      (Mark.moved errand bucket transport before after).writing? = none := by
    intro runs
    cases before with
    | told => cases runs
    | _ => rfl
  cases reports with
  | quick => rfl
  | missed => rfl
  | goesOn runs => simp [unstored runs, Log.named]
  | failed runs => simp [unstored runs, Log.named, Event.isNamed]
  | lost runs => simp [unstored runs, Log.named, Event.isNamed]
  | refused runs => simp [unstored runs, Log.named, Event.isNamed]
  | told runs => simp [unstored runs, Log.named, Event.isNamed]
  | stored => simp [Mark.writing?, Writing.entry, Log.named, Event.isNamed]
  | rested => rfl

theorem Reports.named_invalidated {bucket : String} {before after : Phase} {names : List String}
    {events : List Event} (reports : Reports bucket before after names events) (caller : Caller) :
    Log.named (events.map (caller, ·)) "location_invalidated" = [] := by
  cases reports <;> simp [Log.named, Event.isNamed]

namespace Shared

variable {c : Client} {s s' : Shared} {next : Step}

/-- Nothing else writes the cache. -/
theorem cache_run (c : Client) (schedule : List Step) :
    ((start c).run schedule).client.cache =
      ((start c).run schedule).past.foldr Mark.rewrite c.cache := by
  refine run_keeps (p := fun t => t.client.cache = t.past.foldr Mark.rewrite c.cache) rfl ?_
  intro t next t' _ shift same
  cases shift with
  | began => exact same
  | idle => exact same
  | @moved errand transport clock bucket phase move here turn =>
      rw [turn.cache_eq, List.foldr_cons, ← same]
      cases phase <;> rfl
  | forgot =>
      rw [List.foldr_cons, ← same]
      rfl

/-- The log has an event of every region that has been stored, and no others. -/
theorem named_resolved_log (c : Client) (schedule : List Step) :
    ((start c).log schedule).named "location_resolved" =
      (writings ((start c).run schedule).past).map Writing.entry := by
  refine run_logs (P := fun _ t log => log.named "location_resolved" =
    (writings t.past).map Writing.entry) rfl ?_ schedule
  intro past t log next told
  have logs := logs_step t past.length next
  generalize t.step next = t', t.kept past.length next = more at logs ⊢
  rw [Log.named_append, told]
  cases logs with
  | began => exact List.append_nil _
  | idle => exact List.append_nil _
  | moved there reports =>
      rw [reports.named_resolved, writings_cons, List.map_append]
  | @forgot bucket =>
      rw [writings_cons, List.map_append]
      simp [Log.named, Event.isNamed, Mark.writing?]

/-- The log has an event of every step that forgets a bucket, and no others. -/
theorem named_invalidated_log (c : Client) (schedule : List Step) :
    ((start c).log schedule).named "location_invalidated" =
      (forgettings schedule).map Forgetting.entry := by
  refine run_logs (P := fun past _ log => log.named "location_invalidated" =
    (forgettings past).map Forgetting.entry) rfl ?_ schedule
  intro past t log next told
  have logs := logs_step t past.length next
  generalize t.step next = t', t.kept past.length next = more at logs
  rw [Log.named_append, told, forgettings_concat, List.map_append]
  cases logs with
  | began => rfl
  | idle => rfl
  | moved there reports =>
      rw [reports.named_invalidated]
      rfl
  | forgot => simp [Log.named, Event.isNamed, Step.forgetting?, Forgetting.entry]

/-- A lookup that has stored its region is over, so it stores no other. -/
structure WritesOnce (s : Shared) : Prop where
  ended : ∀ w ∈ writings s.past, ∃ bucket result,
    s.errands[w.errand]? = some ⟨bucket, .ended result⟩
  once : ((writings s.past).map Writing.errand).Nodup

theorem WritesOnce.shift (writes : WritesOnce s) (shift : Shift s next s') : WritesOnce s' := by
  have stay : ∀ w ∈ writings s.past, ∃ bucket result,
      s'.errands[w.errand]? = some ⟨bucket, .ended result⟩ := by
    intro w member
    obtain ⟨bucket, result, there⟩ := writes.ended w member
    exact ⟨bucket, result, shift.ended there⟩
  cases shift with
  | began => exact ⟨stay, writes.once⟩
  | idle => exact writes
  | forgot =>
      have same : ∀ bucket, writings (.forgotten bucket :: s.past) = writings s.past :=
        fun bucket => by rw [writings_cons]; exact List.append_nil _
      refine ⟨fun w member => stay w ?_, ?_⟩
      · rwa [same] at member
      · rw [same]
        exact writes.once
  | @moved errand transport clock bucket phase move here turn =>
      cases stores : (Mark.moved errand bucket transport phase move.phase).writing? with
      | none =>
          have same : writings (.moved errand bucket transport phase move.phase :: s.past) =
              writings s.past := by
            rw [writings_cons, stores]
            exact List.append_nil _
          refine ⟨fun w member => stay w ?_, ?_⟩
          · rwa [same] at member
          · rw [same]
            exact writes.once
      | some w =>
          cases turn with
          | @stored constraint =>
              cases stores
              have grown : writings (.moved errand bucket transport (.told constraint)
                  (.ended (.ok (Region.ofConstraint constraint))) :: s.past) =
                  writings s.past ++ [⟨errand, bucket, constraint⟩] := writings_cons _ _
              have fresh : errand ∉ (writings s.past).map Writing.errand := by
                intro member
                obtain ⟨w, among, same⟩ := List.mem_map.mp member
                obtain ⟨asked, result, ended⟩ := writes.ended w among
                rw [same, here] at ended
                cases ended
              refine ⟨fun w member => ?_, ?_⟩
              · rw [grown, List.mem_append, List.mem_singleton] at member
                rcases member with earlier | rfl
                · exact stay w earlier
                · refine ⟨bucket, .ok (Region.ofConstraint constraint), ?_⟩
                  rw [getElem?_moved here, if_pos rfl]
              · rw [grown, List.map_append]
                simpa using writes.once.concat fresh
          | _ => cases stores

theorem writesOnce_run (c : Client) (schedule : List Step) :
    WritesOnce ((start c).run schedule) := by
  refine run_keeps (p := WritesOnce) ⟨by rintro w ⟨⟩, List.nodup_nil⟩ ?_
  intro t next t' _ shift writes
  exact writes.shift shift

end Shared

namespace Sample

def askedAndForgotten : List Step :=
  .begin "photos" :: List.replicate 5 (.advance 0 transport noon) ++ [.forget "photos"]

end Sample

/-! ## When all calls have finished -/

/-- What a lookup reports that has missed the cache: at most one answer or trouble, then the end of
its query, and then the region if it has one. -/
inductive Lines (bucket : String) : Except LookupError String → List Event → Prop where
  | failed {e : LookupError} {first : List Event} (opening : Opening first) :
      Lines bucket (.error e) (first ++ [.spanned bucket])
  | returned {constraint : String} {first : List Event} (opening : Opening first) :
      Lines bucket (.ok (Region.ofConstraint constraint))
        (first ++ [.spanned bucket] ++ [.resolved bucket constraint])

theorem Trail.lines {bucket : String} {result : Except LookupError String} {events : List Event}
    (trail : Trail bucket true (.ended result) events) : Lines bucket result events := by
  cases trail with
  | runs runs => cases runs
  | failed opening => exact .failed opening
  | stored opening => exact .returned opening

theorem Trail.eq_nil {bucket : String} {phase : Phase} {events : List Event}
    (trail : Trail bucket false phase events) : events = [] := by
  cases trail <;> rfl

/-- A log of a schedule, by which a client `c` has become the client in use `s`, agrees with the
counters and with what the calls have come to. -/
structure Agrees (c : Client) (schedule : List Step) (s : Shared) (log : Log) : Prop where
  /-- Answers are counted by the hundreds of their statuses. -/
  classes : ∀ k, s.client.counters.get (className k) = log.number (Event.isAnswerOf k)
  answers : s.client.counters.sumOf isStatusName =
    log.number (Event.isNamed "location_result")
  troubles : s.client.counters.get "transport_errors" =
    log.number (Event.isNamed "location_transport_error")
  misses : s.client.counters.get "location_cache_misses" = log.number Event.isSpan
  /-- The cache is what `c` had, changed by the writings of lookups and by forgetting. -/
  cached : s.client.cache = s.past.foldr Mark.rewrite c.cache
  /-- Every lookup that has stored a region has reported it once, with the constraint. -/
  stored : (log.named "location_resolved").Perm ((writings s.past).map Writing.entry)
  storedOnce : ((writings s.past).map Writing.errand).Nodup
  forgotten : (log.named "location_invalidated").Perm
    ((forgettings schedule).map Forgetting.entry)
  missed : ∀ (errand : Nat) (bucket : String) (result : Except LookupError String),
    s.errands[errand]? = some ⟨bucket, .ended result⟩ → hasMissed errand s.past = true →
      Lines bucket result (log.of (.lookup errand))
  /-- Lookups that the cache answers or that are anonymous report nothing. -/
  silent : ∀ errand, hasMissed errand s.past = false → log.of (.lookup errand) = []

namespace Shared

variable {c : Client}

theorem agrees_of_ended (fresh : c.counters = .initial) (schedule : List Step)
    (finished : ((start c).run schedule).AllEnded) {log : Log}
    (interleaves : log.Interleaves ((start c).log schedule)) :
    Agrees c schedule ((start c).run schedule) log := by
  have zero : ∀ name, c.counters.get name = 0 := by
    intro name
    rw [fresh]
    exact Counters.get_initial name
  have unanswered : c.counters.sumOf isStatusName = 0 := by
    rw [fresh]
    decide
  have classes := fun k =>
    tallies_of_ended (credits_get _) (tallies_class k) (zero _) finished
  have answers := tallies_of_ended (credits_sumOf _) tallies_answers unanswered finished
  have troubles := tallies_of_ended (credits_get _) tallies_troubles (zero _) finished
  have misses := tallies_of_ended (credits_get _) tallies_misses (zero _) finished
  have trailed := trailed_run c schedule
  have stored := named_resolved_log c schedule
  have forgotten := named_invalidated_log c schedule
  simp only [← interleaves.number_eq] at classes answers troubles misses
  refine ⟨classes, answers, troubles, misses, cache_run c schedule, ?_,
    (writesOnce_run c schedule).once, ?_, fun errand bucket result there missed => ?_,
    fun errand unmissed => ?_⟩
  · rw [← stored]
    exact interleaves.perm.filter _
  · rw [← forgotten]
    exact interleaves.perm.filter _
  · have trail := trailed.trail errand bucket _ there
    rw [missed] at trail
    rw [interleaves.order]
    exact trail.lines
  · rw [interleaves.order]
    rcases Nat.lt_or_ge errand ((start c).run schedule).errands.length with within | beyond
    · have trail := trailed.trail errand _ _ (List.getElem?_eq_getElem within)
      rw [unmissed] at trail
      exact trail.eq_nil
    · exact (trailed.later errand beyond).2

/-- A lookup, and then its bucket is forgotten. -/
theorem agrees_of_ended_photos :
    Agrees Sample.client Sample.askedAndForgotten
      ((start Sample.client).run Sample.askedAndForgotten)
      ((start Sample.client).log Sample.askedAndForgotten) := by
  refine agrees_of_ended rfl Sample.askedAndForgotten (fun errand bucket phase there => ?_)
    ⟨List.Perm.refl _, fun _ => rfl⟩
  have errands := (run_lookup (start Sample.client) Sample.transport Sample.noon "photos").2
  have stay : ∀ t : Shared, (t.run [.forget "photos"]).errands = t.errands := fun _ => rfl
  rw [Sample.askedAndForgotten, run_append, stay] at there
  have there := (congrArg (fun held : List Errand => held[errand]?) errands).symm.trans there
  have only := List.mem_of_getElem? there
  cases List.mem_singleton.mp only
  exact ⟨_, rfl⟩

end Shared

end BucketRegion

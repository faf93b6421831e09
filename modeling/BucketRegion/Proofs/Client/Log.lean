import BucketRegion.Proofs.Client.Accounts

/-!
# What the log keeps of lookups

Which events of a step the log keeps, beside the names that the step counts under, one case for
each kind of step; and the log of a client in use, in which every event stands with the call that
reported it. Everything that is proved of the log starts from these cases.
-/

set_option autoImplicit false

namespace BucketRegion

open Http (Transport Request Response)

/-! ## Events -/

namespace Event

/-- The end of the time that a lookup of a bucket spends on a query. -/
def spanned (bucket : String) : Event := Trace.span "resolve_location" (some bucket) 0

def transportError (bucket message : String) : Event :=
  ⟨"bucketloc.lookup", .warning, "location_transport_error",
    [("bucket", .text bucket), ("error", .text message)]⟩

/-- The region of a bucket has been stored. -/
def resolved (bucket constraint : String) : Event :=
  ⟨"bucketloc.lookup", .info, "location_resolved",
    [("bucket", .text bucket), ("constraint", .text constraint),
      ("region", .text (Region.ofConstraint constraint))]⟩

/-- A bucket has been forgotten. -/
def invalidated (bucket : String) : Event :=
  ⟨"bucketloc.lookup", .info, "location_invalidated", [("bucket", .text bucket)]⟩

theorem isOwn_lookup : isOwn "bucketloc.lookup" = true := by decide

theorem isOwn_trace : isOwn "bucketloc.trace" = true := by decide

@[simp] theorem isKept_spanned (bucket : String) : (spanned bucket).isKept = true := by
  simp [isKept, spanned, Trace.span, isOwn_trace, Level.rank]

@[simp] theorem isKept_locationResult (bucket url : String) (status bytes elapsed : Int) :
    (Trace.locationResult bucket url status bytes elapsed).isKept = true := by
  simp [isKept, Trace.locationResult, isOwn_trace, Level.rank]

@[simp] theorem isKept_transportError (bucket message : String) :
    (transportError bucket message).isKept = true := by
  simp [isKept, transportError, isOwn_lookup, Level.rank]

@[simp] theorem isKept_resolved (bucket constraint : String) :
    (resolved bucket constraint).isKept = true := by
  simp [isKept, resolved, isOwn_lookup, Level.rank]

@[simp] theorem isKept_invalidated (bucket : String) : (invalidated bucket).isKept = true := by
  simp [isKept, invalidated, isOwn_lookup, Level.rank]

/-- That a bucket was found in the cache is too little for the log. -/
theorem isKept_of_debug {event : Event} (level : event.level = .debug) :
    event.isKept = false := by
  unfold isKept
  rw [level]
  split <;> rfl

end Event

namespace Journal

/-- The events that the log keeps. -/
def kept (journal : Journal) : List Event := journal.events.filter Event.isKept

@[simp] theorem kept_nil : kept [] = [] := rfl

@[simp] theorem kept_append (first second : Journal) :
    kept (first ++ second) = first.kept ++ second.kept := by
  rw [kept, events, List.filterMap_append, List.filter_append]
  rfl

@[simp] theorem kept_send (request : Request) (rest : Journal) :
    kept (.send request :: rest) = rest.kept := rfl

@[simp] theorem kept_receive (response : Response) (rest : Journal) :
    kept (.receive response :: rest) = rest.kept := rfl

@[simp] theorem kept_close (rest : Journal) : kept (.close :: rest) = rest.kept := rfl

theorem kept_report (event : Event) (rest : Journal) :
    kept (.report event :: rest) = (if event.isKept then [event] else []) ++ rest.kept := by
  cases keeps : event.isKept <;> simp [kept, events, keeps]

@[simp] theorem kept_spanEnd (bucket : String) (rest : Journal) :
    kept (Client.spanEnd bucket :: rest) = .spanned bucket :: rest.kept := by
  have event : Client.spanEnd bucket = .report (.spanned bucket) := rfl
  simp [event, kept_report]

@[simp] theorem kept_transportTrouble (c : Client) (bucket message : String)
    (kind : Http.FailureKind) :
    kept (c.transportTrouble bucket message kind).2 =
      if kind = .transport then [.transportError bucket message] else [] := by
  have event : kept [.report (.transportError bucket message)] =
      [.transportError bucket message] := by simp [kept_report]
  cases kind with
  | transport => exact event
  | _ => rfl

end Journal

/-! ## What each step reports -/

/-- Whether the time that a lookup spends on a query runs. -/
def Phase.isOpen : Phase → Bool
  | .missed => true
  | .asking _ => true
  | .reading _ _ => true
  | _ => false

/-- The names under which a step of a lookup of a bucket counts and the events that the log keeps
of it, one case for each kind of step. -/
inductive Reports (bucket : String) : Phase → Phase → List String → List Event → Prop where
  | quick {region name : String}
      (plain : name = "anonymous_lookups" ∨ name = "location_cache_hits") :
      Reports bucket .begun (.ended (.ok region)) [name] []
  | missed : Reports bucket .begun .missed ["location_cache_misses"] []
  | goesOn {before after : Phase} {names : List String} (runs : before.isOpen = true)
      (still : after.isOpen = true) (plain : names = [] ∨ names = ["location_requests"]) :
      Reports bucket before after names []
  | failed {before : Phase} {e : LookupError} (runs : before.isOpen = true) :
      Reports bucket before (Client.failed e) [] [.spanned bucket]
  | lost {before : Phase} {e : LookupError} {message : String} (runs : before.isOpen = true) :
      Reports bucket before (Client.failed e) ["transport_errors"]
        [.transportError bucket message, .spanned bucket]
  | refused {before : Phase} {e : LookupError} {url : String} {status bytes : Int}
      {names : List String} (runs : before.isOpen = true)
      (plain : names = [] ∨ names = ["decode_failures"]) :
      Reports bucket before (Client.failed e) (Counters.statusName status :: names)
        [Trace.locationResult bucket url status bytes 0, .spanned bucket]
  | told {before : Phase} {constraint url : String} {status bytes : Int}
      (runs : before.isOpen = true) :
      Reports bucket before (.told constraint) [Counters.statusName status]
        [Trace.locationResult bucket url status bytes 0, .spanned bucket]
  | stored {constraint : String} :
      Reports bucket (.told constraint) (.ended (.ok (Region.ofConstraint constraint))) []
        [.resolved bucket constraint]
  | rested {result : Except LookupError String} :
      Reports bucket (.ended result) (.ended result) [] []

namespace Client

variable {transport : Transport} {clock : Calendar.Reading} {bucket : String} {c : Client}

/-- What a move counts and what the log keeps of it. -/
def Accords (bucket : String) (c : Client) (phase : Phase) (move : Move) : Prop :=
  ∃ names, Reports bucket phase move.phase names move.journal.kept ∧
    move.client.counters = c.counters.incrAll names

theorem Accords.of {phase : Phase} {move : Move} {names : List String} {events : List Event}
    (reports : Reports bucket phase move.phase names events) (kept : move.journal.kept = events)
    (counts : move.client.counters = c.counters.incrAll names) : Accords bucket c phase move :=
  ⟨names, kept ▸ reports, counts⟩

theorem accords_trouble {before : Phase} (runs : before.isOpen = true) {d : Client}
    (same : d.counters = c.counters) (e : LookupError) (message : String)
    (kind : Http.FailureKind) {journal : Journal}
    (told : journal.kept =
      (if kind = .transport then [.transportError bucket message] else []) ++
        [.spanned bucket]) :
    Accords bucket c before ⟨(d.transportTrouble bucket message kind).1, failed e, journal⟩ := by
  have counts := counters_transportTrouble d bucket message kind
  rw [same] at counts
  split at told
  · next way =>
      rw [if_pos way] at counts
      exact .of (.lost runs) told counts
  · next other =>
      rw [if_neg other] at counts
      exact .of (.failed runs) told counts

theorem accords_consult (c : Client) (bucket : String) :
    Accords bucket c .begun (c.consult bucket) := by
  unfold consult
  split
  · exact .of (.quick (.inl rfl)) rfl rfl
  · split
    · exact .of (.quick (.inr rfl)) (by simp [Journal.kept_report, Event.isKept_of_debug]) rfl
    · exact .of .missed rfl rfl

theorem kept_answer (bucket url : String) (status bytes : Int) :
    Journal.kept [.report (Trace.locationResult bucket url status bytes 0), .close,
      spanEnd bucket] = [Trace.locationResult bucket url status bytes 0, .spanned bucket] := by
  simp [Journal.kept_report]

theorem accords_rejected {request : Request} {response : Response} {body : Bytes}
    (e : LookupError) :
    Accords bucket c (.reading request response)
      ⟨(c.countStatus response).countUndecodable e, failed e,
        [.report (Trace.locationResult bucket request.url.text response.status body.length 0),
          .close, spanEnd bucket]⟩ := by
  have told := kept_answer bucket request.url.text response.status body.length
  cases e with
  | location p =>
      cases p with
      | undecodable named reason => exact .of (.refused rfl (.inr rfl)) told rfl
      | encoding p => exact .of (.refused rfl (.inl rfl)) told rfl
  | _ => exact .of (.refused rfl (.inl rfl)) told rfl

/-- Every step of a lookup is of one of these kinds. -/
theorem accords_advance (transport : Transport) (clock : Calendar.Reading) (bucket : String)
    (c : Client) (phase : Phase) :
    Accords bucket c phase (c.advance transport clock bucket phase) := by
  have turn := turn_advance transport clock bucket c phase
  cases phase with
  | begun => exact accords_consult c bucket
  | told constraint =>
      have event : Journal.kept [.report (.resolved bucket constraint)] =
          [.resolved bucket constraint] := by simp [Journal.kept_report]
      exact .of .stored event rfl
  | ended result => exact .of .rested rfl rfl
  | missed =>
      generalize c.advance transport clock bucket .missed = move at turn ⊢
      cases turn with
      | unqueried => exact .of (.failed rfl) (by simp) rfl
      | queried => exact .of (.goesOn rfl rfl (.inr rfl)) rfl rfl
  | asking request =>
      generalize c.advance transport clock bucket (.asking request) = move at turn ⊢
      cases turn with
      | shut => exact .of (.failed rfl) (by simp) rfl
      | unanswered => exact accords_trouble rfl rfl _ _ _ (by simp)
      | refused => exact accords_trouble rfl rfl _ _ _ (by simp)
      | answered => exact .of (.goesOn rfl rfl (.inl rfl)) rfl rfl
  | reading request response =>
      generalize c.advance transport clock bucket (.reading request response) = move at turn ⊢
      cases turn with
      | unread => exact accords_trouble rfl rfl _ _ _ (by simp)
      | rejected => exact accords_rejected _
      | accepted => exact .of (.told rfl) (kept_answer _ _ _ _) rfl

end Client

/-! ## The log of a client in use -/

/-- A call that reports: a lookup, named by its place among all lookups, or the forgetting of a
bucket, named by its place in the schedule. -/
inductive Caller where
  | lookup (errand : Nat)
  | forget (turn : Nat)
  deriving Repr, DecidableEq

abbrev Log := List (Caller × Event)

/-- The events of one call, in order. -/
def Log.of (log : Log) (caller : Caller) : List Event :=
  (log.filter (·.1 == caller)).map (·.2)

theorem Log.of_append (first second : Log) (caller : Caller) :
    Log.of (first ++ second) caller = first.of caller ++ second.of caller := by
  rw [of, List.filter_append, List.map_append]
  rfl

/-- Events that one call reports together. -/
theorem Log.of_map (events : List Event) (caller other : Caller) :
    Log.of (events.map (caller, ·)) other = if caller = other then events else [] := by
  unfold of
  rw [List.filter_map]
  split
  · next same =>
      subst same
      simp [Function.comp_def]
  · next different => simp [Function.comp_def, different]

/-- Two logs of the same calls: each call reports the same in the same order, however the events of
different calls stand to each other. -/
structure Log.Interleaves (log reported : Log) : Prop where
  perm : log.Perm reported
  order : ∀ caller, log.of caller = reported.of caller

namespace Shared

/-- What a client in use does in a step. -/
def journal (s : Shared) : Step → Journal
  | .begin _ => []
  | .advance errand transport clock =>
      match s.errands[errand]? with
      | none => []
      | some ⟨bucket, phase⟩ => (s.client.advance transport clock bucket phase).journal
  | .forget bucket => (s.client.forget bucket).journal

/-- The call that a step belongs to. -/
def caller (s : Shared) (turn : Nat) : Step → Caller
  | .begin _ => .lookup s.errands.length
  | .advance errand _ _ => .lookup errand
  | .forget _ => .forget turn

/-- What the log keeps of a step. -/
def kept (s : Shared) (turn : Nat) (next : Step) : Log :=
  (s.journal next).kept.map (s.caller turn next, ·)

/-- What the log keeps of the steps of a schedule, of which `turn` is the first one's place. -/
def logFrom (s : Shared) (turn : Nat) : List Step → Log
  | [] => []
  | next :: rest => s.kept turn next ++ (s.step next).logFrom (turn + 1) rest

/-- What the log keeps of a schedule. -/
def log (s : Shared) (schedule : List Step) : Log := s.logFrom 0 schedule

theorem logFrom_concat (s : Shared) (turn : Nat) (schedule : List Step) (next : Step) :
    s.logFrom turn (schedule ++ [next]) =
      s.logFrom turn schedule ++ (s.run schedule).kept (turn + schedule.length) next := by
  induction schedule generalizing s turn with
  | nil => simp [logFrom, run]
  | cons first rest ih =>
      rw [List.cons_append, logFrom, logFrom, ih, run_cons, List.append_assoc, List.length_cons,
        Nat.add_right_comm, Nat.add_assoc]

theorem log_concat (s : Shared) (schedule : List Step) (next : Step) :
    s.log (schedule ++ [next]) =
      s.log schedule ++ (s.run schedule).kept schedule.length next := by
  rw [log, logFrom_concat, Nat.zero_add]
  rfl

/-- What a step comes to, with what the log keeps of it. -/
inductive Logs (s : Shared) (turn : Nat) : Step → Shared → Log → Prop where
  | began {bucket : String} :
      Logs s turn (.begin bucket) { s with errands := s.errands ++ [⟨bucket, .begun⟩] } []
  | idle {errand : Nat} {transport : Transport} {clock : Calendar.Reading} :
      Logs s turn (.advance errand transport clock) s []
  | moved {errand : Nat} {transport : Transport} {clock : Calendar.Reading} {bucket : String}
      {before after : Phase} {names : List String} {events : List Event} {c : Client}
      (there : s.errands[errand]? = some ⟨bucket, before⟩)
      (reports : Reports bucket before after names events)
      (counts : c.counters = s.client.counters.incrAll names) :
      Logs s turn (.advance errand transport clock)
        ⟨c, s.errands.set errand ⟨bucket, after⟩,
          .moved errand bucket transport before after :: s.past⟩
        (events.map (.lookup errand, ·))
  | forgot {bucket : String} :
      Logs s turn (.forget bucket)
        ⟨(s.client.forget bucket).client, s.errands, .forgotten bucket :: s.past⟩
        [(.forget turn, .invalidated bucket)]

theorem logs_step (s : Shared) (turn : Nat) (next : Step) :
    Logs s turn next (s.step next) (s.kept turn next) := by
  cases next with
  | begin bucket => exact .began
  | advance errand transport clock =>
      cases there : s.errands[errand]? with
      | none =>
          simp only [Shared.step, kept, journal, there]
          exact .idle
      | some held =>
          obtain ⟨bucket, phase⟩ := held
          obtain ⟨names, reports, counts⟩ :=
            Client.accords_advance transport clock bucket s.client phase
          simp only [Shared.step, kept, journal, there]
          exact .moved there reports counts
  | forget bucket =>
      have event : Journal.kept [.report (.invalidated bucket)] = [.invalidated bucket] := by
        simp [Journal.kept_report]
      have told : s.kept turn (.forget bucket) = [(.forget turn, .invalidated bucket)] :=
        congrArg (List.map (Caller.forget turn, ·)) event
      rw [told]
      exact .forgot

/-- What every step keeps of the schedule so far, the client and the log, holds after all steps. -/
theorem run_logs {P : List Step → Shared → Log → Prop} {s : Shared} (holds : P [] s [])
    (keeps : ∀ past t log next, P past t log →
      P (past ++ [next]) (t.step next) (log ++ t.kept past.length next))
    (schedule : List Step) : P schedule (s.run schedule) (s.log schedule) := by
  induction schedule using List.reverseRecOn with
  | nil => exact holds
  | append_singleton past next ih =>
      rw [run_append, log_concat]
      exact keeps past _ _ next ih

end Shared

end BucketRegion

import Mathlib.Algebra.BigOperators.Group.Finset.Piecewise
import BucketRegion.CommandLine.Run
import BucketRegion.Proofs.Batch.Completion
import BucketRegion.Proofs.Counters

/-!
# What the counters account for

Every lookup goes through the counts of a client once, whatever comes of it: a sum of counts is at
any time the number of lookups that have come to certain phases. When all lookups are over, the
counts tell how many of them came to which end.
-/

set_option autoImplicit false

namespace BucketRegion

open Http (Transport Request Response)
open Http.Session (authorized)

/-- Whether a step of a lookup is that in which it misses the cache. -/
def isMiss : Phase → Phase → Bool
  | .begun, .missed => true
  | _, _ => false

def hasMissed (errand : Nat) (past : List Mark) : Bool :=
  past.any fun
    | .moved other _ _ before after => other == errand && isMiss before after
    | .forgotten _ => false

theorem hasMissed_moved (errand other : Nat) (bucket : String) (transport : Transport)
    (before after : Phase) (past : List Mark) :
    hasMissed errand (.moved other bucket transport before after :: past) =
      (other == errand && isMiss before after || hasMissed errand past) := rfl

/-- What a phase tells of whether the lookup has missed the cache; an end tells nothing. -/
def Phase.Knows (missed : Bool) : Phase → Prop
  | .begun => missed = false
  | .ended _ => True
  | _ => missed = true

namespace Shared

/-- Whether a lookup has come to one of certain phases, where it matters whether it has missed the
cache. -/
def stands (s : Shared) (which : Bool → Phase → Bool) (errand : Nat) : Bool :=
  (s.errands[errand]?).any fun held => which (hasMissed errand s.past) held.phase

/-- The number of these lookups. -/
def number (s : Shared) (which : Bool → Phase → Bool) : Nat :=
  ((Finset.range s.errands.length).filter fun errand => s.stands which errand = true).card

theorem number_eq_sum (s : Shared) (which : Bool → Phase → Bool) :
    s.number which = ∑ errand ∈ Finset.range s.errands.length, (s.stands which errand).toNat := by
  unfold number
  rw [Finset.card_filter]
  refine Finset.sum_congr rfl fun errand _ => ?_
  cases s.stands which errand <;> rfl

theorem stands_of_there {s : Shared} {errand : Nat} {bucket : String} {phase : Phase}
    (there : s.errands[errand]? = some ⟨bucket, phase⟩) (which : Bool → Phase → Bool) :
    s.stands which errand = which (hasMissed errand s.past) phase := by
  simp only [stands, there, Option.any_some]

/-- A change of one lookup changes the number by what that lookup counts for. -/
theorem number_of_change (s t : Shared) (which : Bool → Phase → Bool) {errand : Nat}
    (many : t.errands.length = s.errands.length) (within : errand < s.errands.length)
    (same : ∀ other, other ≠ errand → t.stands which other = s.stands which other) :
    t.number which + (s.stands which errand).toNat =
      s.number which + (t.stands which errand).toNat := by
  have member := Finset.mem_range.mpr within
  have rest : ∑ other ∈ (Finset.range s.errands.length).erase errand,
      (t.stands which other).toNat =
        ∑ other ∈ (Finset.range s.errands.length).erase errand, (s.stands which other).toNat :=
    Finset.sum_congr rfl fun other apart =>
      congrArg Bool.toNat (same other (Finset.ne_of_mem_erase apart))
  have before := Finset.add_sum_erase _ (fun other => (s.stands which other).toNat) member
  have after := Finset.add_sum_erase _ (fun other => (t.stands which other).toNat) member
  rw [number_eq_sum, number_eq_sum, many]
  omega

/-- What the history tells of lookups agrees with their phases. -/
structure Flagged (s : Shared) : Prop where
  knows : ∀ (errand : Nat) (bucket : String) (phase : Phase),
    s.errands[errand]? = some ⟨bucket, phase⟩ → phase.Knows (hasMissed errand s.past)
  later : ∀ errand, s.errands.length ≤ errand → hasMissed errand s.past = false

end Shared

/-! ## What each step counts -/

namespace Counters

def incrAll (c : Counters) (names : List String) : Counters := names.foldl incr c

end Counters

/-- The names under which a step of a lookup counts, one case for each way it can go. -/
inductive Counted : Phase → Phase → List String → Prop where
  | anonymous {region : String} :
      Counted .begun (.ended (.ok region)) ["anonymous_lookups"]
  | cached {region : String} : Counted .begun (.ended (.ok region)) ["location_cache_hits"]
  | missed : Counted .begun .missed ["location_cache_misses"]
  | unqueried {e : Client.QueryError} : Counted .missed (Client.failed (.query e)) []
  | queried {request : Request} : Counted .missed (.asking request) ["location_requests"]
  | lost {request : Request} {e : Http.SendError} (way : e.kind = .transport) :
      Counted (.asking request) (Client.failed (.send e)) ["transport_errors"]
  | unsent {request : Request} {e : Http.SendError} (other : e.kind ≠ .transport) :
      Counted (.asking request) (Client.failed (.send e)) []
  | answered {request sent : Request} {response : Response} :
      Counted (.asking request) (.reading sent response) []
  | broken {request : Request} {response : Response} {e : Response.ReadError}
      (way : e.kind = .transport) :
      Counted (.reading request response) (Client.failed (.read e)) ["transport_errors"]
  | unread {request : Request} {response : Response} {e : Response.ReadError}
      (other : e.kind ≠ .transport) :
      Counted (.reading request response) (Client.failed (.read e)) []
  | undecodable {request : Request} {response : Response} {bucket reason : String} :
      Counted (.reading request response)
        (Client.failed (.location (.undecodable bucket reason))) ["http_2xx", "decode_failures"]
  | encoding {request : Request} {response : Response} {p : Xml.Problem} :
      Counted (.reading request response) (Client.failed (.location (.encoding p))) ["http_2xx"]
  | service {request : Request} {response : Response} {e : ServiceError} {name : String}
      (named : Counters.isStatusName name = true) (failure : name ≠ "http_2xx") :
      Counted (.reading request response) (Client.failed (.service e)) [name]
  | serviceDocument {request : Request} {response : Response} {p : Xml.Problem} {name : String}
      (named : Counters.isStatusName name = true) (failure : name ≠ "http_2xx") :
      Counted (.reading request response) (Client.failed (.serviceDocument p)) [name]
  | accepted {request : Request} {response : Response} {constraint : String} :
      Counted (.reading request response) (.told constraint) ["http_2xx"]
  | stored {constraint region : String} : Counted (.told constraint) (.ended (.ok region)) []
  | rested {result : Except LookupError String} : Counted (.ended result) (.ended result) []

namespace Client

theorem counters_transportTrouble (c : Client) (bucket message : String)
    (kind : Http.FailureKind) :
    (c.transportTrouble bucket message kind).1.counters =
      c.counters.incrAll (if kind = .transport then ["transport_errors"] else []) := by
  cases kind <;> rfl

theorem judge_eq_error {bucket : String} {response : Response} {body : Bytes} {e : LookupError}
    (judged : judge bucket response body = .error e) :
    (Http.isSuccess response.status = true ∧ ∃ p, e = .location p) ∨
      (Http.isSuccess response.status = false ∧
        ((∃ told, e = .service told) ∨ ∃ p, e = .serviceDocument p)) := by
  unfold judge at judged
  split at judged
  · next success =>
      obtain ⟨p, _, named⟩ := mapError_eq_error.mp judged
      exact .inl ⟨success, p, named.symm⟩
  · next failure =>
      have failure : Http.isSuccess response.status = false := Bool.eq_false_iff.mpr failure
      split at judged
      · cases judged
        exact .inr ⟨failure, .inl ⟨_, rfl⟩⟩
      · cases judged
        exact .inr ⟨failure, .inr ⟨_, rfl⟩⟩

variable {transport : Transport} {clock : Calendar.Reading} {bucket : String} {c : Client}
  {phase : Phase} {move : Move}

theorem counted_rejected {request : Request} {response : Response} {body : Bytes}
    {e : LookupError} (judged : judge bucket response body = .error e) :
    ∃ names, Counted (.reading request response) (failed e) names ∧
      ((c.countStatus response).countUndecodable e).counters = c.counters.incrAll names := by
  rcases judge_eq_error judged with ⟨success, p, rfl⟩ | ⟨failure, told⟩
  · have name := (Counters.statusName_eq_iff response.status).mpr success
    have status : c.counters.incrStatus response.status = c.counters.incr "http_2xx" := by
      rw [Counters.incrStatus, name]
    cases p with
    | undecodable named reason =>
        refine ⟨_, .undecodable, ?_⟩
        exact congrArg (Counters.incr · "decode_failures") status
    | encoding p => exact ⟨_, .encoding, status⟩
  · have other : Counters.statusName response.status ≠ "http_2xx" := by
      intro name
      rw [(Counters.statusName_eq_iff response.status).mp name] at failure
      cases failure
    have named := Counters.isStatusName_statusName response.status
    rcases told with ⟨told, rfl⟩ | ⟨p, rfl⟩
    · exact ⟨_, .service named other, rfl⟩
    · exact ⟨_, .serviceDocument named other, rfl⟩

theorem Turn.counted (turn : Turn transport clock bucket c phase move) :
    ∃ names, Counted phase move.phase names ∧
      move.client.counters = c.counters.incrAll names := by
  cases turn with
  | anonymous => exact ⟨_, .anonymous, rfl⟩
  | cached => exact ⟨_, .cached, rfl⟩
  | missed => exact ⟨_, .missed, rfl⟩
  | unqueried => exact ⟨_, .unqueried, rfl⟩
  | queried => exact ⟨_, .queried, rfl⟩
  | shut => exact ⟨_, .unsent (by decide), rfl⟩
  | @unanswered _ f =>
      refine ⟨_, ?_, counters_transportTrouble ..⟩
      split
      · next way => exact .lost way
      · next other => exact .unsent other
  | @refused request response p =>
      refine ⟨_, ?_, counters_transportTrouble ..⟩
      split
      · next way => exact .lost way
      · next other => exact .unsent other
  | answered => exact ⟨_, .answered, rfl⟩
  | @unread _ _ e =>
      refine ⟨_, ?_, counters_transportTrouble ..⟩
      split
      · next way => exact .broken way
      · next other => exact .unread other
  | rejected _ judged => exact counted_rejected judged
  | @accepted _ response _ _ _ judged =>
      obtain ⟨success, _⟩ := judge_eq_ok.mp judged
      have name := (Counters.statusName_eq_iff response.status).mpr success
      refine ⟨_, .accepted, ?_⟩
      rw [← name]
      rfl
  | stored => exact ⟨_, .stored, rfl⟩
  | rested => exact ⟨_, .rested, rfl⟩

end Client

theorem knows_of_turn {transport : Transport} {clock : Calendar.Reading} {bucket : String}
    {c : Client} {phase : Phase} {move : Move} {missed : Bool}
    (turn : Client.Turn transport clock bucket c phase move) (knows : phase.Knows missed) :
    move.phase.Knows (isMiss phase move.phase || missed) := by
  cases turn with
  | missed => rfl
  | queried => exact knows
  | answered => exact knows
  | accepted => exact knows
  | _ => trivial

/-- A sum of counts that goes up where lookups come to certain phases, and down where they leave
them. -/
structure Follows (credit : Counters → Int) (which : Bool → Phase → Bool) : Prop where
  begun : ∀ missed, which missed .begun = false
  counted : ∀ {before after : Phase} {names : List String}, Counted before after names →
    ∀ (missed : Bool) (counters : Counters), before.Knows missed →
      credit (counters.incrAll names) + (which missed before).toNat =
        credit counters + (which (isMiss before after || missed) after).toNat

namespace Shared

variable {c : Client} {s s' : Shared} {next : Step}

theorem flagged_start (c : Client) : Flagged (start c) where
  knows := by
    intro errand bucket phase there
    cases there
  later := fun _ _ => rfl

theorem Flagged.shift (flagged : Flagged s) (shift : Shift s next s') : Flagged s' := by
  cases shift with
  | began =>
      refine ⟨?_, ?_⟩
      · intro errand bucket phase there
        rw [getElem?_began] at there
        split at there
        · next last =>
            cases there
            exact flagged.later errand (Nat.le_of_eq last.symm)
        · exact flagged.knows errand bucket phase there
      · intro errand beyond
        refine flagged.later errand (Nat.le_trans ?_ beyond)
        simp
  | idle => exact flagged
  | @moved errand transport clock bucket phase move here turn =>
      have within := (List.getElem?_eq_some_iff.mp here).1
      refine ⟨?_, ?_⟩
      · intro other asked after there
        rw [getElem?_moved here] at there
        rw [hasMissed_moved]
        split at there
        · next same =>
            subst same
            cases there
            rw [beq_self_eq_true, Bool.true_and]
            exact knows_of_turn turn (flagged.knows other bucket phase here)
        · next different =>
            have apart : (errand == other) = false := by
              simpa using fun equal : errand = other => different equal.symm
            rw [apart, Bool.false_and, Bool.false_or]
            exact flagged.knows other asked after there
      · intro other beyond
        rw [List.length_set] at beyond
        have apart : (errand == other) = false := by
          simp only [beq_eq_false_iff_ne]
          omega
        rw [hasMissed_moved, apart, Bool.false_and, Bool.false_or]
        exact flagged.later other beyond
  | forgot => exact ⟨flagged.knows, flagged.later⟩

/-- A lookup that begins comes to nothing yet. -/
theorem number_began {which : Bool → Phase → Bool} (begun : ∀ missed, which missed .begun = false)
    (s : Shared) (bucket : String) :
    number { s with errands := s.errands ++ [⟨bucket, .begun⟩] } which = s.number which := by
  have fresh : stands { s with errands := s.errands ++ [⟨bucket, .begun⟩] } which
      s.errands.length = false := by
    simp [stands, begun]
  have earlier : ∀ errand ∈ Finset.range s.errands.length,
      stands { s with errands := s.errands ++ [⟨bucket, .begun⟩] } which errand =
        s.stands which errand := by
    intro errand member
    simp only [stands, List.getElem?_append_left (Finset.mem_range.mp member)]
  rw [number_eq_sum, number_eq_sum, List.length_append, List.length_singleton,
    Finset.sum_range_succ, fresh, Bool.toNat_false, Nat.add_zero]
  exact Finset.sum_congr rfl fun errand member => congrArg Bool.toNat (earlier errand member)

/-- One lookup moves: the number changes by what it counted for before and counts for now. -/
theorem number_moved {errand : Nat} {bucket : String} {before : Phase}
    (here : s.errands[errand]? = some ⟨bucket, before⟩) (which : Bool → Phase → Bool) (d : Client)
    (transport : Transport) (after : Phase) :
    number ⟨d, s.errands.set errand ⟨bucket, after⟩,
        .moved errand bucket transport before after :: s.past⟩ which +
        (which (hasMissed errand s.past) before).toNat =
      s.number which + (which (isMiss before after || hasMissed errand s.past) after).toNat := by
  have within := (List.getElem?_eq_some_iff.mp here).1
  have there := getElem?_moved here ⟨bucket, after⟩ errand
  rw [if_pos rfl] at there
  have changed := number_of_change s
    ⟨d, s.errands.set errand ⟨bucket, after⟩,
      .moved errand bucket transport before after :: s.past⟩ which
    (List.length_set ..) within (by
      intro other different
      have apart : (errand == other) = false := by
        simpa using fun equal : errand = other => different equal.symm
      simp only [stands, getElem?_moved here, if_neg different, hasMissed_moved, apart,
        Bool.false_and, Bool.false_or])
  rwa [stands_of_there here, stands_of_there there, hasMissed_moved, beq_self_eq_true,
    Bool.true_and] at changed

theorem number_shift {credit : Counters → Int} {which : Bool → Phase → Bool}
    (follows : Follows credit which) (flagged : Flagged s) (shift : Shift s next s')
    (balanced : credit s.client.counters = s.number which) :
    credit s'.client.counters = s'.number which := by
  cases shift with
  | @began bucket => rw [number_began follows.begun s bucket, ← balanced]
  | idle => exact balanced
  | @moved errand transport clock bucket phase move here turn =>
      obtain ⟨names, counted, counts⟩ := turn.counted
      have moved := follows.counted counted _ s.client.counters
        (flagged.knows errand bucket phase here)
      have changed := number_moved here which move.client transport move.phase
      dsimp only
      rw [counts]
      omega
  | forgot => exact balanced

end Shared

/-! ## Balances -/

def hasAskedCache (_ : Bool) : Phase → Bool
  | .begun => false
  | _ => true

theorem follows_lookups :
    Follows
      (fun counters => counters.get "location_cache_hits" +
        counters.get "location_cache_misses" + counters.get "anonymous_lookups")
      hasAskedCache where
  begun := fun _ => rfl
  counted := by
    intro before after names counted missed counters _
    cases counted with
    | service named =>
        simp (disch := decide) [Counters.incrAll, Counters.get_incr_of_status named,
          hasAskedCache, Client.failed]
    | serviceDocument named =>
        simp (disch := decide) [Counters.incrAll, Counters.get_incr_of_status named,
          hasAskedCache, Client.failed]
    | _ => simp [Counters.incrAll, Counters.get_incr, hasAskedCache, Client.failed] <;> omega

/-- Whether a lookup has missed the cache and has no query, or could have none. -/
def lacksQuery (_ : Bool) : Phase → Bool
  | .missed => true
  | .ended (.error (.query _)) => true
  | _ => false

theorem follows_misses :
    Follows
      (fun counters => counters.get "location_cache_misses" - counters.get "location_requests")
      lacksQuery where
  begun := fun _ => rfl
  counted := by
    intro before after names counted missed counters _
    cases counted with
    | service named =>
        simp (disch := decide) [Counters.incrAll, Counters.get_incr_of_status named, lacksQuery,
          Client.failed]
    | serviceDocument named =>
        simp (disch := decide) [Counters.incrAll, Counters.get_incr_of_status named, lacksQuery,
          Client.failed]
    | @rested result => simp [Counters.incrAll, isMiss]
    | _ => simp [Counters.incrAll, Counters.get_incr, lacksQuery, Client.failed] <;> omega

/-- Whether a lookup waits for an answer or has lost it otherwise than on the way. -/
def lacksAnswer (_ : Bool) : Phase → Bool
  | .asking _ => true
  | .reading _ _ => true
  | .ended (.error (.send e)) => e.kind != .transport
  | .ended (.error (.read e)) => e.kind != .transport
  | _ => false

theorem follows_requests :
    Follows
      (fun counters => counters.get "location_requests" - counters.get "transport_errors" -
        counters.sumOf Counters.isStatusName)
      lacksAnswer where
  begun := fun _ => rfl
  counted := by
    have plain : ∀ name ∈ Counters.lookupNames, Counters.isStatusName name = false := by decide
    simp only [Counters.lookupNames, List.mem_cons, List.not_mem_nil, or_false, forall_eq_or_imp,
      forall_eq] at plain
    have success : Counters.isStatusName "http_2xx" = true := by decide
    intro before after names counted missed counters _
    cases counted with
    | lost way =>
        simp [Counters.incrAll, Counters.get_incr, plain, lacksAnswer, Client.failed, way]
        omega
    | @unsent _ e other =>
        have elsewhere : (e.kind != .transport) = true := bne_iff_ne.mpr other
        simp [Counters.incrAll, lacksAnswer, Client.failed, elsewhere]
    | broken way =>
        simp [Counters.incrAll, Counters.get_incr, plain, lacksAnswer, Client.failed, way]
        omega
    | @unread _ _ e other =>
        have elsewhere : (e.kind != .transport) = true := bne_iff_ne.mpr other
        simp [Counters.incrAll, lacksAnswer, Client.failed, elsewhere]
    | service named =>
        simp (disch := decide) [Counters.incrAll, Counters.get_incr_of_status named, lacksAnswer,
          Client.failed, named]
        omega
    | serviceDocument named =>
        simp (disch := decide) [Counters.incrAll, Counters.get_incr_of_status named, lacksAnswer,
          Client.failed, named]
        omega
    | @rested result => simp [Counters.incrAll, isMiss]
    | _ =>
        simp [Counters.incrAll, Counters.get_incr, plain, success, lacksAnswer, Client.failed]
          <;> omega

/-- Whether a lookup has been told a constraint, or a success whose encoding cannot be read. -/
def hasSuccess (missed : Bool) : Phase → Bool
  | .told _ => true
  | .ended (.ok _) => missed
  | .ended (.error (.location (.encoding _))) => true
  | _ => false

theorem follows_successes :
    Follows (fun counters => counters.get "http_2xx" - counters.get "decode_failures")
      hasSuccess where
  begun := fun _ => rfl
  counted := by
    intro before after names counted missed counters knows
    cases counted with
    | anonymous =>
        cases knows
        simp [Counters.incrAll, Counters.get_incr, hasSuccess, isMiss]
    | cached =>
        cases knows
        simp [Counters.incrAll, Counters.get_incr, hasSuccess, isMiss]
    | stored =>
        cases knows
        simp [Counters.incrAll, hasSuccess, isMiss]
    | service named failure =>
        simp (disch := decide) [Counters.incrAll, Counters.get_incr_of_status named,
          Counters.get_incr, failure.symm, hasSuccess, Client.failed]
    | serviceDocument named failure =>
        simp (disch := decide) [Counters.incrAll, Counters.get_incr_of_status named,
          Counters.get_incr, failure.symm, hasSuccess, Client.failed]
    | @rested result => simp [Counters.incrAll, isMiss]
    | _ =>
        simp [Counters.incrAll, Counters.get_incr, hasSuccess, Client.failed] <;> omega

/-- Whether a name is one under which answers that are no success are counted. -/
def isFailureName (name : String) : Bool := Counters.isStatusName name && name != "http_2xx"

/-- Whether a lookup has come to an error that the service has answered. -/
def isRefused (_ : Bool) : Phase → Bool
  | .ended (.error (.service _)) => true
  | .ended (.error (.serviceDocument _)) => true
  | _ => false

theorem follows_failures :
    Follows (fun counters => counters.sumOf isFailureName) isRefused where
  begun := fun _ => rfl
  counted := by
    have plain : ∀ name ∈ "http_2xx" :: Counters.lookupNames, isFailureName name = false := by
      decide
    simp only [Counters.lookupNames, List.mem_cons, List.not_mem_nil, or_false, forall_eq_or_imp,
      forall_eq] at plain
    intro before after names counted missed counters _
    cases counted with
    | @service _ _ _ name named failure =>
        have counts : isFailureName name = true := by simpa [isFailureName, named] using failure
        simp [Counters.incrAll, counts, isRefused, Client.failed]
    | @serviceDocument _ _ _ name named failure =>
        have counts : isFailureName name = true := by simpa [isFailureName, named] using failure
        simp [Counters.incrAll, counts, isRefused, Client.failed]
    | @rested result => simp [Counters.incrAll, isMiss]
    | _ => simp [Counters.incrAll, plain, isRefused, Client.failed]

/-! ## When all lookups are over -/

namespace Shared

/-- The number of lookups that have ended in certain ways, where it matters whether they have
missed the cache. -/
def ends (s : Shared) (which : Bool → Except LookupError String → Bool) : Nat :=
  s.number fun missed phase =>
    match phase with
    | .ended result => which missed result
    | _ => false

def AllEnded (s : Shared) : Prop :=
  ∀ (errand : Nat) (bucket : String) (phase : Phase),
    s.errands[errand]? = some ⟨bucket, phase⟩ → ∃ result, phase = .ended result

variable {c : Client} {s : Shared}

theorem AllEnded.stands_eq (finished : s.AllEnded) {errand : Nat}
    (within : errand < s.errands.length) :
    ∃ missed result, ∀ which, s.stands which errand = which missed (.ended result) := by
  have there : s.errands[errand]? = some _ := List.getElem?_eq_getElem within
  obtain ⟨result, ended⟩ := finished errand _ _ there
  refine ⟨hasMissed errand s.past, result, fun which => ?_⟩
  rw [stands_of_there there, ended]

theorem AllEnded.number_eq (finished : s.AllEnded) {which other : Bool → Phase → Bool}
    (same : ∀ missed result, which missed (.ended result) = other missed (.ended result)) :
    s.number which = s.number other := by
  rw [number_eq_sum, number_eq_sum]
  refine Finset.sum_congr rfl fun errand member => ?_
  obtain ⟨missed, result, stands⟩ := finished.stands_eq (Finset.mem_range.mp member)
  rw [stands, stands, same]

theorem AllEnded.number_all (finished : s.AllEnded) :
    s.number hasAskedCache = s.errands.length := by
  have all : ∀ errand ∈ Finset.range s.errands.length, s.stands hasAskedCache errand = true := by
    intro errand member
    obtain ⟨missed, result, stands⟩ := finished.stands_eq (Finset.mem_range.mp member)
    rw [stands]
    rfl
  rw [number, Finset.filter_true_of_mem all, Finset.card_range]

theorem number_add {first second both : Bool → Phase → Bool}
    (adds : ∀ missed phase, (both missed phase).toNat =
      (first missed phase).toNat + (second missed phase).toNat) :
    s.number both = s.number first + s.number second := by
  rw [number_eq_sum, number_eq_sum, number_eq_sum, ← Finset.sum_add_distrib]
  refine Finset.sum_congr rfl fun errand _ => ?_
  cases there : s.errands[errand]? with
  | none => simp [stands, there]
  | some held => simp only [stands_of_there there, adds]

theorem number_run {credit : Counters → Int} {which : Bool → Phase → Bool}
    (follows : Follows credit which) (zero : credit c.counters = 0) (schedule : List Step) :
    credit ((start c).run schedule).client.counters = ((start c).run schedule).number which := by
  -- The history is carried along: a step counts by it, and so do the lookups that are counted.
  have both : Flagged ((start c).run schedule) ∧
      credit ((start c).run schedule).client.counters = ((start c).run schedule).number which :=
    run_keeps (p := fun t => Flagged t ∧ credit t.client.counters = t.number which)
      ⟨flagged_start c, zero⟩ fun t next t' _ shift holds =>
        ⟨holds.1.shift shift, number_shift follows holds.1 shift holds.2⟩
  exact both.2

end Shared

/-- Whether a lookup has failed while its query was made or signed. -/
def isUnqueried : Except LookupError String → Bool
  | .error (.query _) => true
  | _ => false

/-- Whether a lookup has failed to send its query or to read the answer, and not on the way. -/
def isUnanswered : Except LookupError String → Bool
  | .error (.send e) => e.kind != .transport
  | .error (.read e) => e.kind != .transport
  | _ => false

/-- Whether a lookup has read a success whose document is in an encoding that cannot be read. -/
def isUnreadable : Except LookupError String → Bool
  | .error (.location (.encoding _)) => true
  | _ => false

/-- Whether the service has answered otherwise than with a success. -/
def isRefusal : Except LookupError String → Bool
  | .error (.service _) => true
  | .error (.serviceDocument _) => true
  | _ => false

/-- The counts that all lookups of a client account for, when they are over. -/
structure Accounts (s : Shared) : Prop where
  lookups : s.client.counters.get "location_cache_hits" +
    s.client.counters.get "location_cache_misses" +
      s.client.counters.get "anonymous_lookups" = s.errands.length
  misses : s.client.counters.get "location_cache_misses" =
    s.client.counters.get "location_requests" + s.ends fun _ result => isUnqueried result
  requests : s.client.counters.get "location_requests" =
    s.client.counters.get "transport_errors" +
      s.client.counters.sumOf Counters.isStatusName + s.ends fun _ result => isUnanswered result
  successes : s.client.counters.get "http_2xx" =
    (s.ends fun missed result => missed && result.isOk) +
      s.client.counters.get "decode_failures" + s.ends fun _ result => isUnreadable result
  failures : s.client.counters.sumOf isFailureName = s.ends fun _ result => isRefusal result

namespace Shared

variable {c : Client}

/-- Of the lookups that are over, those have had a success that have missed the cache and come to a
region, and those whose document is in an encoding that cannot be read. -/
theorem AllEnded.number_hasSuccess {s : Shared} (finished : s.AllEnded) :
    s.number hasSuccess = (s.ends fun missed result => missed && result.isOk) +
      s.ends fun _ result => isUnreadable result := by
  have ended : s.number hasSuccess =
      s.ends fun missed result => missed && result.isOk || isUnreadable result :=
    finished.number_eq fun missed result => by
      cases result with
      | ok region => simp [hasSuccess, Except.isOk, Except.toBool, isUnreadable]
      | error e =>
          cases e with
          | location p => cases p <;> simp [hasSuccess, Except.isOk, Except.toBool, isUnreadable]
          | _ => simp [hasSuccess, Except.isOk, Except.toBool, isUnreadable]
  rw [ended]
  -- No result is both a region and an error.
  refine number_add fun missed phase => ?_
  cases phase with
  | ended result =>
      cases result with
      | ok region => simp [isUnreadable]
      | error e => simp [Except.isOk, Except.toBool]
  | _ => rfl

theorem accounts_of_ended (fresh : c.counters = .initial) (schedule : List Step)
    (finished : ((start c).run schedule).AllEnded) : Accounts ((start c).run schedule) := by
  have lookups := number_run follows_lookups (c := c) (by rw [fresh]; decide) schedule
  have misses := number_run follows_misses (c := c) (by rw [fresh]; decide) schedule
  have requests := number_run follows_requests (c := c) (by rw [fresh]; decide) schedule
  have successes := number_run follows_successes (c := c) (by rw [fresh]; decide) schedule
  have failures := number_run follows_failures (c := c) (by rw [fresh]; decide) schedule
  generalize (start c).run schedule = s at *
  have unqueried : s.number lacksQuery = s.ends fun _ result => isUnqueried result :=
    finished.number_eq fun missed result => by
      cases result with
      | ok region => rfl
      | error e => cases e <;> rfl
  have unanswered : s.number lacksAnswer = s.ends fun _ result => isUnanswered result :=
    finished.number_eq fun missed result => by
      cases result with
      | ok region => rfl
      | error e => cases e <;> rfl
  have refused : s.number isRefused = s.ends fun _ result => isRefusal result :=
    finished.number_eq fun missed result => by
      cases result with
      | ok region => rfl
      | error e => cases e <;> rfl
  rw [finished.number_all] at lookups
  rw [unqueried] at misses
  rw [unanswered] at requests
  rw [finished.number_hasSuccess] at successes
  rw [refused] at failures
  exact ⟨lookups, by omega, by omega, by omega, failures⟩

end Shared

end BucketRegion

import BucketRegion.Proofs.Client.Run
import BucketRegion.Proofs.Places
import BucketRegion.Proofs.Region

/-!
# Lookups among others

A client that several callers use at once. Their lookups go step by step, in any order, and buckets
are forgotten between any two steps; every step may meet another transport. What has happened is
kept, so that it can be told of every region which lookup asked for it.
-/

set_option autoImplicit false

namespace BucketRegion

open Http (Transport Request Response)
open Http.Session (authorized)

/-- A lookup among others: what it looks up, and how far it has come. -/
structure Errand where
  bucket : String
  phase : Phase

/-- Something that has happened to a client. A lookup is named by its place among all of them. -/
inductive Mark where
  | moved (errand : Nat) (bucket : String) (transport : Transport) (before after : Phase)
  | forgotten (bucket : String)

/-- A client in use: the lookups that have begun, in order, and what has happened, the latest
first. -/
structure Shared where
  client : Client
  errands : List Errand
  past : List Mark

/-- What can happen next. -/
inductive Step where
  | begin (bucket : String)
  | advance (errand : Nat) (transport : Transport) (clock : Calendar.Reading)
  | forget (bucket : String)

namespace Shared

/-- A client that nobody has used. -/
def start (c : Client) : Shared := ⟨c, [], []⟩

def step (s : Shared) : Step → Shared
  | .begin bucket => { s with errands := s.errands ++ [⟨bucket, .begun⟩] }
  | .advance errand transport clock =>
      match s.errands[errand]? with
      | none => s
      | some ⟨bucket, phase⟩ =>
          let move := s.client.advance transport clock bucket phase
          ⟨move.client, s.errands.set errand ⟨bucket, move.phase⟩,
            .moved errand bucket transport phase move.phase :: s.past⟩
  | .forget bucket =>
      ⟨(s.client.forget bucket).client, s.errands, .forgotten bucket :: s.past⟩

def run (s : Shared) (schedule : List Step) : Shared := schedule.foldl step s

theorem run_append (s : Shared) (first second : List Step) :
    s.run (first ++ second) = (s.run first).run second :=
  List.foldl_append

theorem run_cons (s : Shared) (first : Step) (rest : List Step) :
    s.run (first :: rest) = (s.step first).run rest := rfl

/-- What a step can come to. -/
inductive Shift (s : Shared) : Step → Shared → Prop where
  | began {bucket : String} :
      Shift s (.begin bucket) { s with errands := s.errands ++ [⟨bucket, .begun⟩] }
  | idle {errand : Nat} {transport : Transport} {clock : Calendar.Reading}
      (missing : s.errands[errand]? = none) : Shift s (.advance errand transport clock) s
  | moved {errand : Nat} {transport : Transport} {clock : Calendar.Reading} {bucket : String}
      {phase : Phase} {move : Move} (there : s.errands[errand]? = some ⟨bucket, phase⟩)
      (turn : Client.Turn transport clock bucket s.client phase move) :
      Shift s (.advance errand transport clock)
        ⟨move.client, s.errands.set errand ⟨bucket, move.phase⟩,
          .moved errand bucket transport phase move.phase :: s.past⟩
  | forgot {bucket : String} :
      Shift s (.forget bucket)
        ⟨(s.client.forget bucket).client, s.errands, .forgotten bucket :: s.past⟩

theorem shift_step (s : Shared) (step : Step) : Shift s step (s.step step) := by
  cases step with
  | begin bucket => exact .began
  | advance errand transport clock =>
      cases there : s.errands[errand]? with
      | none =>
          simp only [Shared.step, there]
          exact .idle there
      | some held =>
          obtain ⟨bucket, phase⟩ := held
          simp only [Shared.step, there]
          exact .moved there (Client.turn_advance transport clock bucket s.client phase)
  | forget bucket => exact .forgot

/-- What every step of a schedule keeps, holds after all of them. -/
theorem run_keeps {p : Shared → Prop} {s : Shared} {schedule : List Step} (holds : p s)
    (keeps : ∀ t next t', next ∈ schedule → Shift t next t' → p t → p t') :
    p (s.run schedule) := by
  induction schedule generalizing s with
  | nil => exact holds
  | cons first rest ih =>
      have kept := keeps s first _ List.mem_cons_self (shift_step s first) holds
      exact ih kept fun t next t' member => keeps t next t' (List.mem_cons_of_mem first member)

theorem getElem?_moved {errands : List Errand} {errand : Nat} {old : Errand}
    (there : errands[errand]? = some old) (new : Errand) (other : Nat) :
    (errands.set errand new)[other]? = if other = errand then some new else errands[other]? :=
  getElem?_put there new other

theorem getElem?_began (errands : List Errand) (new : Errand) (other : Nat) :
    (errands ++ [new])[other]? = if other = errands.length then some new else errands[other]? := by
  by_cases last : other = errands.length
  · simp [last]
  · rw [if_neg last]
    by_cases within : other < errands.length
    · rw [List.getElem?_append_left within]
    · rw [List.getElem?_append_right (Nat.le_of_not_lt within),
        List.getElem?_eq_none (by simp; omega), List.getElem?_eq_none (by omega)]

end Shared

/-! ## Where regions come from -/

/-- The lookup whose region the cache holds of a bucket, and that region: the last one that has
stored one, unless the bucket has been forgotten since. -/
def owner? (bucket : String) : List Mark → Option (Nat × String)
  | [] => none
  | .moved errand other _ (.told constraint) _ :: past =>
      if bucket = other then some (errand, Region.ofConstraint constraint) else owner? bucket past
  | .forgotten other :: past => if bucket = other then none else owner? bucket past
  | _ :: past => owner? bucket past

/-- The lookup that asked for the region that a lookup returned, and that region: itself, or the
one whose region it found in the cache. -/
def source? (errand : Nat) : List Mark → Option (Nat × String)
  | [] => none
  | .moved other _ _ (.told constraint) _ :: past =>
      if other = errand then some (other, Region.ofConstraint constraint) else source? errand past
  | .moved other bucket _ .begun (.ended _) :: past =>
      if other = errand then owner? bucket past else source? errand past
  | _ :: past => source? errand past

/-- A response that the transport gave to a request of a lookup for the location of a bucket. -/
inductive Replied (endpoint : Url) (past : List Mark) (errand : Nat) (bucket : String)
    (sent : Request) (response : Response) : Prop where
  | intro {transport : Transport} {request : Request}
      (asked : .moved errand bucket transport (.asking request) (.reading sent response) ∈ past)
      (asks : Endpoint.locationUrl endpoint bucket = .ok sent.url)
      (came : transport sent = .ok response)

/-- A region that such a response tells: it is a success, and its document holds the constraint
that the region stands for. -/
inductive Told (endpoint : Url) (past : List Mark) (errand : Nat) (bucket region : String) :
    Prop where
  | intro {sent : Request} {response : Response} {body : Bytes} {constraint : String}
      (replied : Replied endpoint past errand bucket sent response)
      (success : Http.isSuccess response.status = true) (whole : response.content = .ok body)
      (decoded : Location.decode body bucket = .ok constraint)
      (named : region = Region.ofConstraint constraint)

variable {endpoint : Url} {past : List Mark} {errand : Nat} {bucket region : String}

theorem Replied.later {sent : Request} {response : Response}
    (replied : Replied endpoint past errand bucket sent response) (mark : Mark) :
    Replied endpoint (mark :: past) errand bucket sent response := by
  cases replied with
  | intro asked asks came => exact .intro (List.mem_cons_of_mem mark asked) asks came

theorem Told.later (told : Told endpoint past errand bucket region) (mark : Mark) :
    Told endpoint (mark :: past) errand bucket region := by
  cases told with
  | intro replied success whole decoded named =>
      exact .intro (replied.later mark) success whole decoded named

theorem Told.isSettled (told : Told endpoint past errand bucket region) :
    Region.IsSettled region := by
  cases told with
  | intro _ _ _ decoded named =>
      rw [named]
      exact Region.isSettled_ofConstraint (Location.isBare_of_decode decoded)

/-- What is known of a lookup that has come to a phase. -/
def Grounded (endpoint : Url) (past : List Mark) (errand : Nat) (bucket : String) : Phase → Prop
  | .begun => True
  | .missed => True
  | .asking request => Endpoint.locationUrl endpoint bucket = .ok request.url
  | .reading sent response => Replied endpoint past errand bucket sent response
  | .told constraint => Told endpoint past errand bucket (Region.ofConstraint constraint)
  | .ended (.ok region) => ∃ source, source? errand past = some (source, region) ∧
      Told endpoint past source bucket region
  | .ended (.error _) => True

theorem Grounded.later {phase : Phase} (grounded : Grounded endpoint past errand bucket phase)
    {mark : Mark} (same : source? errand (mark :: past) = source? errand past) :
    Grounded endpoint (mark :: past) errand bucket phase := by
  cases phase with
  | reading sent response => exact Replied.later grounded mark
  | told constraint => exact Told.later grounded mark
  | ended result =>
      cases result with
      | error e => trivial
      | ok region =>
          obtain ⟨source, found, told⟩ := grounded
          exact ⟨source, same.trans found, told.later mark⟩
  | _ => exact grounded

theorem source?_moved_of_ne {other : Nat} (different : other ≠ errand) (transport : Transport)
    (before after : Phase) :
    source? errand (.moved other bucket transport before after :: past) = source? errand past := by
  cases before with
  | begun => cases after <;> simp [source?, different]
  | told constraint => simp [source?, different]
  | _ => rfl

theorem owner?_moved {transport : Transport} {before after : Phase} {other : String} :
    owner? other (.moved errand bucket transport before after :: past) =
      match before with
      | .told constraint =>
          if other = bucket then some (errand, Region.ofConstraint constraint)
          else owner? other past
      | _ => owner? other past := by
  cases before <;> rfl

/-- A step of a lookup keeps what is known of it. -/
theorem grounded_of_turn {transport : Transport} {clock : Calendar.Reading} {c : Client}
    {phase : Phase} {move : Move} (turn : Client.Turn transport clock bucket c phase move)
    (signed : c.anonymous = false) (sameEndpoint : c.endpoint = endpoint)
    (held : c.cache.get? bucket = (owner? bucket past).map (·.2))
    (owned : ∀ owner region, owner? bucket past = some (owner, region) →
      Told endpoint past owner bucket region)
    (grounded : Grounded endpoint past errand bucket phase) :
    Grounded endpoint (.moved errand bucket transport phase move.phase :: past) errand bucket
      move.phase := by
  cases turn with
  | anonymous unsigned => simp [signed] at unsigned
  | cached _ found =>
      rw [held] at found
      obtain ⟨⟨owner, region⟩, owns, named⟩ := Option.map_eq_some_iff.mp found
      cases named
      exact ⟨owner, by simp [source?, owns], (owned owner region owns).later _⟩
  | queried built => exact sameEndpoint ▸ Client.url_query built
  | answered opened came passed =>
      refine .intro List.mem_cons_self ?_ came
      rw [Http.Session.url_authorized]
      exact grounded
  | accepted whole judged =>
      obtain ⟨success, decoded⟩ := Client.judge_eq_ok.mp judged
      exact .intro (Replied.later grounded _) success whole decoded rfl
  | stored => exact ⟨errand, by simp [source?], Told.later grounded _⟩
  | rested => exact grounded.later rfl
  | _ => trivial

namespace Shared

/-- What holds of a client with keys, whatever its callers do: its cache holds the regions that
were stored last, and all regions are told by answers to lookups of their buckets. -/
structure Sound (c : Client) (s : Shared) : Prop where
  endpoint : s.client.endpoint = c.endpoint
  signed : s.client.anonymous = false
  held : ∀ bucket, s.client.cache.get? bucket = (owner? bucket s.past).map (·.2)
  owned : ∀ bucket owner region, owner? bucket s.past = some (owner, region) →
    Told c.endpoint s.past owner bucket region ∧
      s.errands[owner]? = some ⟨bucket, .ended (.ok region)⟩
  grounded : ∀ errand bucket phase, s.errands[errand]? = some ⟨bucket, phase⟩ →
    Grounded c.endpoint s.past errand bucket phase

variable {c : Client} {s s' : Shared} {next : Step}

/-- A lookup that has ended stays as it is. -/
theorem Shift.ended {result : Except LookupError String} (shift : Shift s next s')
    (there : s.errands[errand]? = some ⟨bucket, .ended result⟩) :
    s'.errands[errand]? = some ⟨bucket, .ended result⟩ := by
  cases shift with
  | began =>
      rw [getElem?_began, if_neg]
      · exact there
      · intro last
        simp [last] at there
  | idle => exact there
  | @moved other transport clock asked phase move here turn =>
      rw [getElem?_moved here]
      split
      · next same =>
          rw [same, here] at there
          cases there
          cases turn
          rfl
      · exact there
  | forgot => exact there

theorem sound_start (fresh : c.cache = .empty) (signed : c.anonymous = false) :
    Sound c (start c) where
  endpoint := rfl
  signed := signed
  held := by
    intro bucket
    simp [start, fresh, owner?]
  owned := by
    intro bucket owner region owns
    cases owns
  grounded := by
    intro errand bucket phase there
    simp [start] at there

section Moved

variable {transport : Transport} {clock : Calendar.Reading} {phase : Phase} {move : Move}

theorem Sound.held_moved (sound : Sound c s)
    (turn : Client.Turn transport clock bucket s.client phase move) (other : String) :
    move.client.cache.get? other =
      (owner? other (.moved errand bucket transport phase move.phase :: s.past)).map (·.2) := by
  rw [turn.cache_eq, owner?_moved]
  cases phase with
  | told constraint =>
      simp only [Client.cacheAfter, LocationCache.get?_set, sound.held]
      split <;> rfl
  | _ => exact sound.held other

theorem Sound.owned_moved (sound : Sound c s)
    (here : s.errands[errand]? = some ⟨bucket, phase⟩)
    (turn : Client.Turn transport clock bucket s.client phase move) {other : String} {owner : Nat}
    {region : String}
    (owns : owner? other (.moved errand bucket transport phase move.phase :: s.past) =
      some (owner, region)) :
    Told c.endpoint (.moved errand bucket transport phase move.phase :: s.past) owner other
        region ∧
      (s.errands.set errand ⟨bucket, move.phase⟩)[owner]? =
        some ⟨other, .ended (.ok region)⟩ := by
  have earlier : owner? other s.past = some (owner, region) →
      Told c.endpoint (.moved errand bucket transport phase move.phase :: s.past) owner other
        region ∧ (s.errands.set errand ⟨bucket, move.phase⟩)[owner]? =
          some ⟨other, .ended (.ok region)⟩ := by
    intro owns
    obtain ⟨told, there⟩ := sound.owned other owner region owns
    exact ⟨told.later _, (Shift.moved here turn).ended there⟩
  rw [owner?_moved] at owns
  cases phase with
  | told constraint =>
      dsimp only at owns
      split at owns
      · next same =>
          -- The lookup that stores the region is the owner from now on, and has ended.
          cases owns
          cases turn
          subst same
          refine ⟨Told.later (sound.grounded _ _ _ here) _, ?_⟩
          rw [getElem?_moved here, if_pos rfl]
      · exact earlier owns
  | _ => exact earlier owns

theorem Sound.grounded_moved (sound : Sound c s)
    (here : s.errands[errand]? = some ⟨bucket, phase⟩)
    (turn : Client.Turn transport clock bucket s.client phase move) {other : Nat} {asked : String}
    {after : Phase}
    (there : (s.errands.set errand ⟨bucket, move.phase⟩)[other]? = some ⟨asked, after⟩) :
    Grounded c.endpoint (.moved errand bucket transport phase move.phase :: s.past) other asked
      after := by
  rw [getElem?_moved here] at there
  split at there
  · next same =>
      cases there
      subst same
      exact grounded_of_turn turn sound.signed sound.endpoint (sound.held bucket)
        (fun owner region owns => (sound.owned bucket owner region owns).1)
        (sound.grounded _ _ _ here)
  · next different =>
      have grounded := sound.grounded _ _ _ there
      exact grounded.later (source?_moved_of_ne (fun same => different same.symm) _ _ _)

end Moved

theorem Sound.shift (sound : Sound c s) (shift : Shift s next s') : Sound c s' := by
  cases shift with
  | began =>
      refine ⟨sound.endpoint, sound.signed, sound.held, ?_, ?_⟩
      · intro bucket owner region owns
        obtain ⟨told, there⟩ := sound.owned bucket owner region owns
        exact ⟨told, Shift.began.ended there⟩
      · intro errand bucket phase there
        rw [getElem?_began] at there
        split at there
        · cases there
          trivial
        · exact sound.grounded errand bucket phase there
  | idle => exact sound
  | moved here turn =>
      have make := turn.sameMake
      exact ⟨make.endpoint.trans sound.endpoint, make.anonymous.trans sound.signed,
        sound.held_moved turn, fun _ _ _ => sound.owned_moved here turn,
        fun _ _ _ => sound.grounded_moved here turn⟩
  | forgot =>
      refine ⟨sound.endpoint, sound.signed, ?_, ?_, ?_⟩
      · intro bucket
        simp only [Client.forget, LocationCache.get?_delete, sound.held, owner?]
        split <;> rfl
      · intro bucket owner region owns
        simp only [owner?] at owns
        split at owns
        · cases owns
        · obtain ⟨told, there⟩ := sound.owned bucket owner region owns
          exact ⟨told.later _, there⟩
      · intro errand bucket phase there
        exact (sound.grounded errand bucket phase there).later rfl

theorem Sound.run (sound : Sound c s) (schedule : List Step) : Sound c (s.run schedule) :=
  run_keeps sound fun _ _ _ _ shift holds => holds.shift shift

/-- A client with keys is sound in every state that its callers can bring it to. -/
theorem sound_run {options : Client.Options} {made : Calendar.Reading}
    (new : Client.new options made = .ok c) (signed : c.anonymous = false)
    (schedule : List Step) : Sound c ((start c).run schedule) :=
  (sound_start (Client.cache_new new) signed).run schedule

theorem ended_run {result : Except LookupError String} (schedule : List Step)
    (there : s.errands[errand]? = some ⟨bucket, .ended result⟩) :
    (s.run schedule).errands[errand]? = some ⟨bucket, .ended result⟩ := by
  refine run_keeps (p := fun t => t.errands[errand]? = some ⟨bucket, .ended result⟩) there ?_
  intro t next t' _ shift holds
  exact shift.ended holds

/-! ## Lookups that nothing interrupts -/

theorem step_advance (transport : Transport) (clock : Calendar.Reading) {phase : Phase}
    (there : s.errands[errand]? = some ⟨bucket, phase⟩) :
    s.step (.advance errand transport clock) =
      ⟨(s.client.advance transport clock bucket phase).client,
        s.errands.set errand
          ⟨bucket, (s.client.advance transport clock bucket phase).phase⟩,
        .moved errand bucket transport phase
          (s.client.advance transport clock bucket phase).phase :: s.past⟩ := by
  simp only [Shared.step, there]

theorem run_advances (transport : Transport) (clock : Calendar.Reading) {phase : Phase} (n : Nat)
    (there : s.errands[errand]? = some ⟨bucket, phase⟩) :
    (s.run (List.replicate n (.advance errand transport clock))).client =
        (Client.steps transport clock bucket n s.client phase).client ∧
      (s.run (List.replicate n (.advance errand transport clock))).errands =
        s.errands.set errand
          ⟨bucket, (Client.steps transport clock bucket n s.client phase).phase⟩ := by
  induction n generalizing s phase with
  | zero =>
      obtain ⟨within, same⟩ := List.getElem?_eq_some_iff.mp there
      refine ⟨rfl, ?_⟩
      simp only [List.replicate_zero, Client.steps, ← same, List.set_getElem_self]
      rfl
  | succ n ih =>
      have after := step_advance transport clock there
      have here : (s.step (.advance errand transport clock)).errands[errand]? =
          some ⟨bucket, (s.client.advance transport clock bucket phase).phase⟩ := by
        rw [after, getElem?_moved there, if_pos rfl]
      obtain ⟨client, errands⟩ := ih here
      rw [List.replicate_succ, run_cons]
      refine ⟨client.trans ?_, errands.trans ?_⟩
      · rw [after]
        rfl
      · rw [after, List.set_set]
        rfl

/-- A lookup whose steps nothing comes between is a whole lookup. -/
theorem run_lookup (s : Shared) (transport : Transport) (clock : Calendar.Reading)
    (bucket : String) :
    (s.run (.begin bucket ::
          List.replicate 5 (.advance s.errands.length transport clock))).client =
        (s.client.lookup transport clock bucket).client ∧
      (s.run (.begin bucket ::
          List.replicate 5 (.advance s.errands.length transport clock))).errands =
        s.errands ++ [⟨bucket, .ended (s.client.lookup transport clock bucket).result⟩] := by
  have there : (s.step (.begin bucket)).errands[s.errands.length]? = some ⟨bucket, .begun⟩ := by
    simp only [Shared.step, getElem?_began, if_true]
  obtain ⟨client, errands⟩ := run_advances transport clock 5 there
  have new : (s.errands ++ [⟨bucket, .begun⟩] : List Errand).set s.errands.length
      ⟨bucket, .ended (s.client.lookup transport clock bucket).result⟩ =
        s.errands ++ [⟨bucket, .ended (s.client.lookup transport clock bucket).result⟩] := by
    simp
  have alone : Client.steps transport clock bucket 5 (s.step (.begin bucket)).client .begun =
      ⟨(s.client.lookup transport clock bucket).client,
        .ended (s.client.lookup transport clock bucket).result,
        (s.client.lookup transport clock bucket).journal⟩ :=
    Client.steps_five transport clock bucket s.client
  rw [alone] at client errands
  exact ⟨client, errands.trans new⟩

end Shared

end BucketRegion

import BucketRegion.Proofs.Client.Interleaving

/-!
# What forgetting a bucket is good for

A bucket is forgotten so that the next lookup asks the service. A lookup that already has its
answer when the bucket is forgotten still stores the region, and later lookups find it in the
cache. Where no lookup of the bucket has an answer to store, no later lookup returns a region that
was asked for before.
-/

set_option autoImplicit false

namespace BucketRegion

open Http (Transport Request Response)
open Http.Session (authorized)

/-- Whether a lookup was asking when something happened. -/
def Asked (past : List Mark) (errand : Nat) : Prop :=
  ∃ bucket transport request after,
    .moved errand bucket transport (.asking request) after ∈ past

/-- Phases after a lookup has asked. -/
def Phase.HasAsked : Phase → Prop
  | .reading _ _ => True
  | .told _ => True
  | .ended _ => True
  | _ => False

/-- Phases in which a lookup of a bucket has an answer whose region it will store. -/
def Phase.IsPending (bucket : String) : Phase → Prop
  | .reading _ response => ∃ body constraint, response.content = .ok body ∧
      Client.judge bucket response body = .ok constraint
  | .told _ => True
  | _ => False

variable {transport : Transport} {clock : Calendar.Reading} {bucket : String} {c : Client}
  {phase : Phase} {move : Move}

theorem Client.Turn.hasAsked (turn : Turn transport clock bucket c phase move)
    (asked : phase.HasAsked ∨ ∃ request, phase = .asking request) : move.phase.HasAsked := by
  cases turn with
  | anonymous => trivial
  | missed => rcases asked with never | ⟨_, never⟩ <;> cases never
  | queried => rcases asked with never | ⟨_, never⟩ <;> cases never
  | _ => trivial

/-- A lookup that has asked and has nothing to store never comes to store anything. -/
theorem Client.Turn.not_isPending (turn : Turn transport clock bucket c phase move)
    (asked : phase.HasAsked) (spent : ¬ phase.IsPending bucket) :
    ¬ move.phase.IsPending bucket := by
  cases turn with
  | accepted whole judged => exact absurd ⟨_, _, whole, judged⟩ spent
  | answered => cases asked
  | missed => exact id
  | queried => exact id
  | _ => exact id

namespace Shared

variable {s s' t : Shared} {next : Step} {errand : Nat}

theorem asked_of_replied {endpoint : Url} {past : List Mark} {sent : Request}
    {response : Response} (replied : Replied endpoint past errand bucket sent response) :
    Asked past errand := by
  cases replied with
  | intro asked => exact ⟨_, _, _, _, asked⟩

/-- Lookups that have asked are on from there. -/
def Traced (s : Shared) : Prop :=
  ∀ errand, Asked s.past errand →
    ∃ bucket phase, s.errands[errand]? = some ⟨bucket, phase⟩ ∧ phase.HasAsked

theorem traced_start (c : Client) : Traced (start c) := by
  rintro errand ⟨_, _, _, _, never⟩
  cases never

theorem Traced.shift (traced : Traced s) (shift : Shift s next s') : Traced s' := by
  intro errand asked
  cases shift with
  | began =>
      obtain ⟨bucket, phase, there, on⟩ := traced errand asked
      refine ⟨bucket, phase, ?_, on⟩
      rw [getElem?_began, if_neg]
      · exact there
      · intro last
        simp [last] at there
  | idle => exact traced errand asked
  | @moved other transport clock bucket phase move here turn =>
      simp only [getElem?_moved here]
      by_cases same : errand = other
      · subst same
        refine ⟨bucket, move.phase, by simp, turn.hasAsked ?_⟩
        obtain ⟨_, _, request, _, happened⟩ := asked
        rcases List.mem_cons.mp happened with now | before
        · cases now
          exact .inr ⟨request, rfl⟩
        · obtain ⟨_, _, there, on⟩ := traced errand ⟨_, _, _, _, before⟩
          rw [here] at there
          cases there
          exact .inl on
      · rw [if_neg same]
        obtain ⟨_, _, _, _, happened⟩ := asked
        rcases List.mem_cons.mp happened with now | before
        · cases now
          exact absurd rfl same
        · exact traced errand ⟨_, _, _, _, before⟩
  | forgot =>
      obtain ⟨_, _, _, _, happened⟩ := asked
      rcases List.mem_cons.mp happened with now | before
      · cases now
      · exact traced errand ⟨_, _, _, _, before⟩

theorem Traced.run (traced : Traced s) (schedule : List Step) : Traced (s.run schedule) :=
  run_keeps traced fun _ _ _ _ shift holds => holds.shift shift

/-! ## What is asked for after the forgetting -/

/-- What holds of a client since a bucket was forgotten, if no lookup that had asked before had an
answer to store: neither the cache nor a lookup that began later has a region of the bucket that
was asked for before. `old` is what had happened until then, and `count` how many lookups had
begun. -/
structure Cleared (old : List Mark) (count : Nat) (bucket : String) (t : Shared) : Prop where
  begun : count ≤ t.errands.length
  early : ∀ errand, Asked old errand → errand < count
  spent : ∀ errand phase, Asked old errand → t.errands[errand]? = some ⟨bucket, phase⟩ →
    phase.HasAsked ∧ ¬ phase.IsPending bucket
  owned : ∀ owner region, owner? bucket t.past = some (owner, region) → ¬ Asked old owner
  found : ∀ (errand : Nat) (region : String) (source : Nat × String), count ≤ errand →
    t.errands[errand]? = some ⟨bucket, .ended (.ok region)⟩ →
    source? errand t.past = some source → ¬ Asked old source.1

variable {old : List Mark} {count : Nat}

theorem cleared_forget (traced : Traced s)
    (none : ∀ errand ∈ s.errands, errand.bucket = bucket → ¬ errand.phase.IsPending bucket) :
    Cleared s.past s.errands.length bucket (s.step (.forget bucket)) where
  begun := Nat.le_refl _
  early := by
    intro errand asked
    obtain ⟨_, _, there, _⟩ := traced errand asked
    exact (List.getElem?_eq_some_iff.mp there).1
  spent := by
    intro errand phase asked there
    obtain ⟨_, _, same, on⟩ := traced errand asked
    have here : s.errands[errand]? = some ⟨bucket, phase⟩ := there
    rw [same] at here
    cases here
    exact ⟨on, none _ (List.mem_of_getElem? there) rfl⟩
  owned := by
    intro owner region owns
    simp [Shared.step, owner?] at owns
  found := by
    intro errand region source late there
    have here : s.errands[errand]? = some ⟨bucket, .ended (.ok region)⟩ := there
    have within := (List.getElem?_eq_some_iff.mp here).1
    omega

section Moved

variable {asked : String} {phase : Phase} {move : Move}

theorem Cleared.spent_moved (cleared : Cleared old count bucket s)
    (here : s.errands[errand]? = some ⟨asked, phase⟩)
    (turn : Client.Turn transport clock asked s.client phase move) {other : Nat} {after : Phase}
    (early : Asked old other)
    (there : (s.errands.set errand ⟨asked, move.phase⟩)[other]? = some ⟨bucket, after⟩) :
    after.HasAsked ∧ ¬ after.IsPending bucket := by
  rw [getElem?_moved here] at there
  split at there
  · next same =>
      subst same
      cases there
      obtain ⟨on, spent⟩ := cleared.spent _ _ early here
      exact ⟨turn.hasAsked (.inl on), turn.not_isPending on spent⟩
  · exact cleared.spent other after early there

theorem Cleared.owned_moved (cleared : Cleared old count bucket s)
    (here : s.errands[errand]? = some ⟨asked, phase⟩) {owner : Nat} {region : String}
    (owns : owner? bucket (.moved errand asked transport phase move.phase :: s.past) =
      some (owner, region)) : ¬ Asked old owner := by
  rw [owner?_moved] at owns
  cases phase with
  | told constraint =>
      dsimp only at owns
      split at owns
      · next same =>
          -- A lookup that had asked before would have had this region to store.
          subst same
          cases owns
          exact fun early => (cleared.spent _ _ early here).2 trivial
      · exact cleared.owned owner region owns
  | _ => exact cleared.owned owner region owns

theorem Cleared.found_moved (cleared : Cleared old count bucket s)
    (here : s.errands[errand]? = some ⟨asked, phase⟩)
    (turn : Client.Turn transport clock asked s.client phase move) {other : Nat} {region : String}
    {source : Nat × String} (late : count ≤ other)
    (there : (s.errands.set errand ⟨asked, move.phase⟩)[other]? =
      some ⟨bucket, .ended (.ok region)⟩)
    (comes : source? other (.moved errand asked transport phase move.phase :: s.past) =
      some source) : ¬ Asked old source.1 := by
  rw [getElem?_moved here] at there
  split at there
  · next same =>
      subst same
      cases turn with
      | anonymous =>
          cases there
          simp only [source?, if_true] at comes
          exact cleared.owned _ _ comes
      | cached =>
          cases there
          simp only [source?, if_true] at comes
          exact cleared.owned _ _ comes
      | stored =>
          -- It asked for the region itself, and it began later.
          simp only [source?, if_true] at comes
          cases comes
          exact fun early => absurd (cleared.early _ early) (Nat.not_lt_of_le late)
      | rested =>
          cases there
          exact cleared.found _ _ _ late here comes
      | _ => cases there
  · next different =>
      rw [source?_moved_of_ne (fun same => different same.symm)] at comes
      exact cleared.found other region source late there comes

end Moved

theorem Cleared.shift (cleared : Cleared old count bucket s) (shift : Shift s next s') :
    Cleared old count bucket s' := by
  cases shift with
  | began =>
      refine ⟨by simpa using Nat.le_succ_of_le cleared.begun, cleared.early, ?_, cleared.owned, ?_⟩
      · intro errand phase asked there
        have before := Nat.lt_of_lt_of_le (cleared.early errand asked) cleared.begun
        rw [getElem?_began, if_neg (Nat.ne_of_lt before)] at there
        exact cleared.spent errand phase asked there
      · intro errand region source late there
        rw [getElem?_began] at there
        split at there
        · cases there
        · exact cleared.found errand region source late there
  | idle => exact cleared
  | moved here turn =>
      exact ⟨by simpa using cleared.begun, cleared.early,
        fun _ _ => cleared.spent_moved here turn,
        fun _ _ => cleared.owned_moved here,
        fun _ _ _ => cleared.found_moved here turn⟩
  | forgot =>
      refine ⟨cleared.begun, cleared.early, cleared.spent, ?_, cleared.found⟩
      intro owner region owns
      simp only [owner?] at owns
      split at owns
      · cases owns
      · exact cleared.owned owner region owns

theorem Cleared.run (cleared : Cleared old count bucket s) (schedule : List Step) :
    Cleared old count bucket (s.run schedule) :=
  run_keeps cleared fun _ _ _ _ shift holds => holds.shift shift

/-! ## What the forgetting does not reach -/

theorem found_of_held (transport : Transport) (clock : Calendar.Reading) {region : String}
    (signed : s.client.anonymous = false)
    (begun : s.errands[errand]? = some ⟨bucket, .begun⟩)
    (held : s.client.cache.get? bucket = some region) :
    (s.step (.advance errand transport clock)).errands[errand]? =
        some ⟨bucket, .ended (.ok region)⟩ ∧
      source? errand (s.step (.advance errand transport clock)).past = owner? bucket s.past := by
  rw [step_advance transport clock begun, Client.advance_of_held signed held]
  refine ⟨?_, by simp [source?]⟩
  rw [getElem?_moved begun, if_pos rfl]

/-- What a lookup still does to a bucket that has been forgotten, and what the next lookup of the
bucket does. -/
def undoing (errand count : Nat) (bucket : String) (transport : Transport)
    (clock : Calendar.Reading) : List Step :=
  [.advance errand transport clock, .begin bucket, .advance count transport clock]

/-- A region that is stored is found by the next lookup. -/
theorem found_of_told (transport : Transport) (clock : Calendar.Reading) {constraint : String}
    (signed : s.client.anonymous = false)
    (there : s.errands[errand]? = some ⟨bucket, .told constraint⟩) :
    (s.run (undoing errand s.errands.length bucket transport clock)).errands[
        s.errands.length]? = some ⟨bucket, .ended (.ok (Region.ofConstraint constraint))⟩ ∧
      source? s.errands.length
        (s.run (undoing errand s.errands.length bucket transport clock)).past =
          some (errand, Region.ofConstraint constraint) := by
  have stored := step_advance transport clock there
  generalize middle : (s.step (.advance errand transport clock)).step (.begin bucket) = u
  have signed_u : u.client.anonymous = false := by
    rw [← middle, stored]
    exact signed
  have held : u.client.cache.get? bucket = some (Region.ofConstraint constraint) := by
    rw [← middle, stored]
    simp [Shared.step, Client.advance, Client.store]
  have begun : u.errands[s.errands.length]? = some ⟨bucket, .begun⟩ := by
    rw [← middle, stored]
    simp only [Shared.step]
    rw [getElem?_began, if_pos List.length_set.symm]
  have owns : owner? bucket u.past = some (errand, Region.ofConstraint constraint) := by
    rw [← middle, stored]
    simp [Shared.step, owner?]
  have whole : s.run (undoing errand s.errands.length bucket transport clock) =
      u.step (.advance s.errands.length transport clock) := by
    rw [← middle]
    rfl
  rw [whole, ← owns]
  exact found_of_held transport clock signed_u begun held

theorem found_of_reading (transport : Transport) (clock : Calendar.Reading) {request : Request}
    {response : Response} {body : Bytes} {constraint : String}
    (signed : s.client.anonymous = false)
    (there : s.errands[errand]? = some ⟨bucket, .reading request response⟩)
    (whole : response.content = .ok body)
    (judged : Client.judge bucket response body = .ok constraint) :
    (s.run (.advance errand transport clock ::
          undoing errand s.errands.length bucket transport clock)).errands[s.errands.length]? =
        some ⟨bucket, .ended (.ok (Region.ofConstraint constraint))⟩ ∧
      source? s.errands.length (s.run (.advance errand transport clock ::
          undoing errand s.errands.length bucket transport clock)).past =
        some (errand, Region.ofConstraint constraint) := by
  have make := (Client.turn_advance transport clock bucket s.client
    (.reading request response)).sameMake
  have told : (s.client.advance transport clock bucket (.reading request response)).phase =
      .told constraint := Client.advance_of_judged whole judged
  have read := step_advance transport clock there
  rw [told] at read
  have count : (s.step (.advance errand transport clock)).errands.length = s.errands.length := by
    rw [read]
    exact List.length_set
  have signed_after : (s.step (.advance errand transport clock)).client.anonymous = false := by
    rw [read]
    exact make.anonymous.trans signed
  have here : (s.step (.advance errand transport clock)).errands[errand]? =
      some ⟨bucket, .told constraint⟩ := by
    rw [read, getElem?_moved there, if_pos rfl]
  have found := found_of_told transport clock signed_after here
  rw [count] at found
  exact found

/-- A lookup that has an answer to store when its bucket is forgotten brings a region back that was
asked for before. -/
theorem undone_of_pending {phase : Phase} (transport : Transport) (clock : Calendar.Reading)
    (signed : s.client.anonymous = false) (there : s.errands[errand]? = some ⟨bucket, phase⟩)
    (pending : phase.IsPending bucket) :
    ∃ rest region,
      (s.run (.forget bucket :: rest)).errands[s.errands.length]? =
          some ⟨bucket, .ended (.ok region)⟩ ∧
        source? s.errands.length (s.run (.forget bucket :: rest)).past = some (errand, region) := by
  have still : (s.step (.forget bucket)).errands[errand]? = some ⟨bucket, phase⟩ := there
  have signed : (s.step (.forget bucket)).client.anonymous = false := signed
  cases phase with
  | reading request response =>
      obtain ⟨body, constraint, whole, judged⟩ := pending
      have found := found_of_reading transport clock signed still whole judged
      exact ⟨.advance errand transport clock ::
          undoing errand s.errands.length bucket transport clock,
        Region.ofConstraint constraint, found⟩
  | told constraint =>
      have found := found_of_told transport clock signed still
      exact ⟨undoing errand s.errands.length bucket transport clock,
        Region.ofConstraint constraint, found⟩
  | _ => cases pending

theorem asked_of_pending {phase : Phase} (sound : Sound c s)
    (there : s.errands[errand]? = some ⟨bucket, phase⟩) (pending : phase.IsPending bucket) :
    Asked s.past errand := by
  have grounded := sound.grounded _ _ _ there
  cases phase with
  | reading request response => exact asked_of_replied grounded
  | told constraint =>
      cases grounded with
      | intro replied => exact asked_of_replied replied
  | _ => cases pending

/-- Forgetting a bucket lasts, so that all lookups that begin later return regions that were asked
for later, exactly if no lookup of the bucket has an answer to store. -/
theorem forget_lasts_iff {options : Client.Options} {made : Calendar.Reading}
    (new : Client.new options made = .ok c) (signed : c.anonymous = false)
    (schedule : List Step) (bucket : String) :
    (∀ (rest : List Step) (errand : Nat) (region : String),
      ((start c).run schedule).errands.length ≤ errand →
      (((start c).run schedule).run (.forget bucket :: rest)).errands[errand]? =
        some ⟨bucket, .ended (.ok region)⟩ →
      ∃ source,
        source? errand (((start c).run schedule).run (.forget bucket :: rest)).past =
          some (source, region) ∧
        ¬ Asked ((start c).run schedule).past source) ↔
    ∀ errand ∈ ((start c).run schedule).errands, errand.bucket = bucket →
      ¬ errand.phase.IsPending bucket := by
  have sound := sound_run new signed schedule
  have traced := (traced_start c).run schedule
  generalize (start c).run schedule = s at sound traced
  constructor
  · -- A lookup with an answer stores its region after all, and the next lookup finds it.
    rintro lasts ⟨asked, phase⟩ member same pending
    subst same
    obtain ⟨errand, there⟩ := List.getElem?_of_mem member
    obtain ⟨rest, region, returned, found⟩ :=
      undone_of_pending (fun _ => .error ⟨.transport, "", ""⟩) made sound.signed there pending
    obtain ⟨source, comes, later⟩ := lasts rest _ region (Nat.le_refl _) returned
    rw [found] at comes
    cases comes
    exact later (asked_of_pending sound there pending)
  · intro spent rest errand region late returned
    have cleared := (cleared_forget traced spent).run rest
    have after := (sound.shift (shift_step s (.forget bucket))).run rest
    obtain ⟨source, comes, _⟩ := after.grounded _ _ _ returned
    exact ⟨source, comes, cleared.found errand region _ late returned comes⟩

theorem forget_lasts_iff_photos :
    (∀ (rest : List Step) (errand : Nat) (region : String),
      ((start Sample.client).run [.begin "photos"]).errands.length ≤ errand →
      (((start Sample.client).run [.begin "photos"]).run (.forget "photos" :: rest)).errands[
        errand]? = some ⟨"photos", .ended (.ok region)⟩ →
      ∃ source,
        source? errand (((start Sample.client).run [.begin "photos"]).run
          (.forget "photos" :: rest)).past = some (source, region) ∧
        ¬ Asked ((start Sample.client).run [.begin "photos"]).past source) ↔
    ∀ errand ∈ ((start Sample.client).run [.begin "photos"]).errands, errand.bucket = "photos" →
      ¬ errand.phase.IsPending "photos" :=
  forget_lasts_iff Sample.new_client rfl _ _

/-- A client one of whose lookups has the answer that a bucket is in the default region. -/
def answered : Shared :=
  (start Sample.client).run
    (.begin "photos" :: List.replicate 3 (.advance 0 Sample.transport Sample.noon))

/-- The bucket is forgotten, the lookup goes on to its end, and another one begins: it returns what
was asked for before the bucket was forgotten. -/
theorem forgotten_region_returns :
    (answered.run (.forget "photos" :: .advance 0 Sample.transport Sample.noon ::
        undoing 0 1 "photos" Sample.transport Sample.noon)).errands[1]? =
        some ⟨"photos", .ended (.ok "us-east-1")⟩ ∧
      source? 1 (answered.run (.forget "photos" :: .advance 0 Sample.transport Sample.noon ::
        undoing 0 1 "photos" Sample.transport Sample.noon)).past = some (0, "us-east-1") ∧
      Asked answered.past 0 := by
  obtain ⟨request, built⟩ := Sample.query_client
  have asked := Client.steps_three Sample.transport Sample.noon "photos" Sample.client rfl rfl built
    rfl rfl rfl
  have begun : ((start Sample.client).step (.begin "photos")).errands[0]? =
      some ⟨"photos", .begun⟩ := rfl
  obtain ⟨client, errands⟩ :=
    run_advances Sample.transport Sample.noon 3 begun
  have reading : answered.errands = [⟨"photos", .reading (authorized request)
      (.make 200 none (.ofLines []) [])⟩] := by
    have whole : answered = ((start Sample.client).step (.begin "photos")).run
        (List.replicate 3 (.advance 0 Sample.transport Sample.noon)) := run_cons _ _ _
    have same : ((start Sample.client).step (.begin "photos")).client = Sample.client := rfl
    rw [whole, errands, same, asked]
    rfl
  have sound : Sound Sample.client answered := sound_run Sample.new_client rfl _
  have there : (answered.step (.forget "photos")).errands[0]? = some ⟨"photos",
      .reading (authorized request) (.make 200 none (.ofLines []) [])⟩ := by
    simp only [Shared.step, reading]
    rfl
  have count : (answered.step (.forget "photos")).errands.length = 1 := by
    simp only [Shared.step, reading]
    rfl
  have signed := (sound.shift (shift_step answered (.forget "photos"))).signed
  have judged : Client.judge "photos" (.make 200 none (.ofLines []) []) [] = .ok "" :=
    Client.judge_eq_ok.mpr ⟨rfl, rfl⟩
  have whole : (Response.make 200 none (.ofLines []) []).content = .ok [] := rfl
  have found := found_of_reading Sample.transport Sample.noon signed there whole judged
  rw [count] at found
  have here : answered.errands[0]? = some ⟨"photos",
      .reading (authorized request) (.make 200 none (.ofLines []) [])⟩ := there
  rw [run_cons]
  exact ⟨found.1, found.2, asked_of_pending sound here ⟨[], "", whole, judged⟩⟩

end Shared

end BucketRegion

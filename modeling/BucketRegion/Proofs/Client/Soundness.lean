import BucketRegion.Proofs.Client.Interleaving

/-!
# Soundness of a shared cache

Whatever the callers of a client do, and in whatever order: the cache holds only regions that the
service has told of their buckets, and lookups return no others. Where all answers for a bucket
agree and no bucket is forgotten, all callers get the same region, which is that of lookups one
after the other.
-/

set_option autoImplicit false

namespace BucketRegion

open Http (Transport Request Response)

/-- A transport all of whose answers for a bucket tell the constraint that is given for it, if they
tell one. -/
def Http.Transport.Agrees (transport : Transport) (endpoint : Url)
    (constraintOf : String → String) : Prop :=
  ∀ bucket request response body constraint,
    Endpoint.locationUrl endpoint bucket = .ok request.url → transport request = .ok response →
    Http.isSuccess response.status = true → response.content = .ok body →
    Location.decode body bucket = .ok constraint → constraint = constraintOf bucket

theorem Answered.region_eq {endpoint : Url} {transport : Transport} {bucket region : String}
    {journal : Journal} {constraintOf : String → String}
    (answered : Answered endpoint transport bucket region journal)
    (agrees : transport.Agrees endpoint constraintOf) :
    region = Region.ofConstraint (constraintOf bucket) := by
  cases answered with
  | intro asks sent came success whole decoded named =>
      rw [named, agrees _ _ _ _ _ asks came success whole decoded]

namespace Shared

variable {c : Client} {s s' : Shared} {next : Step}

/-! ## Transports of a schedule -/

theorem step_of_mem_past {errand : Nat} {bucket : String} {transport : Transport}
    {before after : Phase} {schedule : List Step}
    (happened : .moved errand bucket transport before after ∈ (s.run schedule).past) :
    .moved errand bucket transport before after ∈ s.past ∨
      ∃ clock, .advance errand transport clock ∈ schedule := by
  revert happened
  refine run_keeps (p := fun t => .moved errand bucket transport before after ∈ t.past →
    .moved errand bucket transport before after ∈ s.past ∨
      ∃ clock, .advance errand transport clock ∈ schedule) .inl ?_
  intro t next t' member shift earlier happened
  cases shift with
  | began => exact earlier happened
  | idle => exact earlier happened
  | @moved _ _ clock _ _ _ here turn =>
      rcases List.mem_cons.mp happened with now | before
      · cases now
        exact .inr ⟨clock, member⟩
      · exact earlier before
  | forgot =>
      rcases List.mem_cons.mp happened with now | before
      · cases now
      · exact earlier before

theorem region_of_told {schedule : List Step} {errand : Nat} {bucket region : String}
    {constraintOf : String → String}
    (told : Told c.endpoint ((start c).run schedule).past errand bucket region)
    (agree : ∀ errand transport clock, .advance errand transport clock ∈ schedule →
      transport.Agrees c.endpoint constraintOf) :
    region = Region.ofConstraint (constraintOf bucket) := by
  cases told with
  | intro replied success whole decoded named =>
      cases replied with
      | intro asked asks came =>
          rcases step_of_mem_past asked with never | ⟨clock, member⟩
          · cases never
          · rw [named, agree _ _ _ member _ _ _ _ _ asks came success whole decoded]

/-! ## Entries -/

theorem nodup_shift (shift : Shift s next s') (unique : s.client.cache.buckets.Nodup) :
    s'.client.cache.buckets.Nodup := by
  cases shift with
  | began => exact unique
  | idle => exact unique
  | @moved _ _ _ _ phase _ here turn =>
      rw [turn.cache_eq]
      cases phase with
      | told constraint => exact LocationCache.nodup_buckets_set unique
      | _ => exact unique
  | forgot => exact LocationCache.nodup_buckets_delete unique

theorem nodup_run (schedule : List Step) (unique : s.client.cache.buckets.Nodup) :
    (s.run schedule).client.cache.buckets.Nodup := by
  refine run_keeps (p := fun t => t.client.cache.buckets.Nodup) unique ?_
  intro t next t' _ shift holds
  exact nodup_shift shift holds

theorem nodup_new {options : Client.Options} {made : Calendar.Reading}
    (new : Client.new options made = .ok c) (schedule : List Step) :
    ((start c).run schedule).client.cache.buckets.Nodup := by
  refine nodup_run schedule ?_
  rw [start, Client.cache_new new]
  exact List.nodup_nil

/-- Every bucket of which a lookup has returned a region has an entry. -/
def Retains (s : Shared) : Prop :=
  ∀ (errand : Nat) (bucket region : String),
    s.errands[errand]? = some ⟨bucket, .ended (.ok region)⟩ →
      (owner? bucket s.past).isSome = true

theorem owner?_of_untold {errand : Nat} {bucket other : String} {transport : Transport}
    {before after : Phase} {past : List Mark} (owned : (owner? other past).isSome = true) :
    (owner? other (.moved errand bucket transport before after :: past)).isSome = true := by
  rw [owner?_moved]
  cases before with
  | told constraint =>
      dsimp only
      split
      · rfl
      · exact owned
  | _ => exact owned

/-- As long as nothing is forgotten, entries stay. -/
theorem Retains.shift (retains : Retains s) (sound : Sound c s) (shift : Shift s next s')
    (kept : ∀ bucket, next ≠ .forget bucket) : Retains s' := by
  intro errand bucket region there
  cases shift with
  | began =>
      rw [getElem?_began] at there
      split at there
      · cases there
      · exact retains errand bucket region there
  | idle => exact retains errand bucket region there
  | @moved other transport clock asked phase move here turn =>
      rw [getElem?_moved here] at there
      split at there
      · cases turn with
        | anonymous unsigned => simp [sound.signed] at unsigned
        | cached _ found =>
            cases there
            rw [sound.held] at found
            refine owner?_of_untold ?_
            obtain ⟨held, owns, _⟩ := Option.map_eq_some_iff.mp found
            rw [owns]
            rfl
        | stored =>
            cases there
            simp [owner?]
        | rested =>
            cases there
            exact owner?_of_untold (retains _ _ _ here)
        | _ => cases there
      · exact owner?_of_untold (retains errand bucket region there)
  | forgot => exact absurd rfl (kept _)

theorem Retains.run (retains : Retains s) (sound : Sound c s) {schedule : List Step}
    (kept : ∀ bucket, .forget bucket ∉ schedule) : Retains (s.run schedule) := by
  have both : Sound c (s.run schedule) ∧ Retains (s.run schedule) := by
    refine run_keeps (p := fun t => Sound c t ∧ Retains t) ⟨sound, retains⟩ ?_
    rintro t next t' member shift ⟨sound, retains⟩
    refine ⟨sound.shift shift, retains.shift sound shift ?_⟩
    rintro bucket rfl
    exact kept bucket member
  exact both.2

/-! ## Failures -/

/-- A lookup that has failed has not written to the cache in any of its steps. -/
theorem cache_of_failed {errand : Nat} {bucket : String} {e : LookupError}
    {before after : List Step} {transport : Transport} {clock : Calendar.Reading}
    (failed : (s.run (before ++ .advance errand transport clock :: after)).errands[errand]? =
      some ⟨bucket, .ended (.error e)⟩) :
    (s.run (before ++ [.advance errand transport clock])).client.cache =
      (s.run before).client.cache := by
  rw [run_append, run_cons] at failed
  rw [run_append]
  generalize s.run before = reached at failed
  have shift := shift_step reached (.advance errand transport clock)
  simp only [run, List.foldl_cons, List.foldl_nil]
  generalize reached.step (.advance errand transport clock) = next at shift failed
  cases shift with
  | idle => rfl
  | @moved _ _ _ asked phase move here turn =>
      have wrote := turn.cache_eq
      cases phase with
      | told constraint =>
          -- Only this step writes, but the lookup that takes it has ended well.
          cases turn with
          | stored =>
              have there : (reached.errands.set errand
                  ⟨asked, .ended (.ok (Region.ofConstraint constraint))⟩)[errand]? =
                    some ⟨asked, .ended (.ok (Region.ofConstraint constraint))⟩ := by
                rw [getElem?_moved here, if_pos rfl]
              rw [ended_run after there] at failed
              cases failed
      | _ => exact wrote

/-! ## Every reachable state -/

/-- What callers get where all answers for a bucket tell the same constraint and no bucket is
forgotten; it holds at any time, so also when all lookups have ended. -/
structure Agreement (c : Client) (schedule : List Step) (constraintOf : String → String) :
    Prop where
  /-- No bucket has two entries. -/
  unique : ((start c).run schedule).client.cache.buckets.Nodup
  resolved_iff : ∀ bucket, bucket ∈ ((start c).run schedule).client.cache.buckets ↔
    ∃ (errand : Nat) (region : String),
      ((start c).run schedule).errands[errand]? = some ⟨bucket, .ended (.ok region)⟩
  same : ∀ (errand : Nat) (bucket region : String),
    ((start c).run schedule).errands[errand]? = some ⟨bucket, .ended (.ok region)⟩ →
      region = Region.ofConstraint (constraintOf bucket) ∧
        ((start c).run schedule).client.cache.get? bucket = some region
  /-- Lookups one after the other, as many as there may be, get the same regions. -/
  sequential : ∀ calls, (∀ transport clock bucket, .lookup transport clock bucket ∈ calls →
      transport.Agrees c.endpoint constraintOf) →
    ∀ transport bucket region journal,
      .lookup transport bucket (.ok region) journal ∈ (c.run calls).2 →
        region = Region.ofConstraint (constraintOf bucket)

/-- What holds of a client after any steps of any lookups and forgettings. -/
structure KeepsSound (c : Client) (schedule : List Step) : Prop where
  entries : ∀ bucket region,
    (bucket, region) ∈ ((start c).run schedule).client.cache.entries →
      Region.IsSettled region ∧
        ∃ errand, Told c.endpoint ((start c).run schedule).past errand bucket region
  returns : ∀ (errand : Nat) (bucket region : String),
    ((start c).run schedule).errands[errand]? = some ⟨bucket, .ended (.ok region)⟩ →
      Region.IsSettled region ∧
        ∃ source, Told c.endpoint ((start c).run schedule).past source bucket region
  /-- No step of a lookup that fails has written to the cache. -/
  failures : ∀ (errand : Nat) (bucket : String) (e : LookupError),
    ((start c).run schedule).errands[errand]? = some ⟨bucket, .ended (.error e)⟩ →
      ∀ before transport clock after,
        schedule = before ++ .advance errand transport clock :: after →
          ((start c).run (before ++ [.advance errand transport clock])).client.cache =
            ((start c).run before).client.cache
  agreement : ∀ constraintOf,
    (∀ errand transport clock, .advance errand transport clock ∈ schedule →
      transport.Agrees c.endpoint constraintOf) →
    (∀ bucket, .forget bucket ∉ schedule) → Agreement c schedule constraintOf

private theorem agreement_run {options : Client.Options} {made : Calendar.Reading}
    (new : Client.new options made = .ok c) (signed : c.anonymous = false)
    {schedule : List Step} {constraintOf : String → String}
    (agree : ∀ errand transport clock, .advance errand transport clock ∈ schedule →
      transport.Agrees c.endpoint constraintOf)
    (kept : ∀ bucket, .forget bucket ∉ schedule) : Agreement c schedule constraintOf := by
  have fresh := Client.cache_new new
  have sound := sound_run new signed schedule
  have retains : Retains ((start c).run schedule) := by
    refine Retains.run ?_ (sound_start fresh signed) kept
    intro errand bucket region there
    simp [start] at there
  exact {
    unique := nodup_new new schedule
    resolved_iff := by
      intro bucket
      rw [LocationCache.mem_buckets_iff, sound.held]
      constructor
      · intro present
        obtain ⟨region, held⟩ := Option.isSome_iff_exists.mp present
        obtain ⟨⟨owner, found⟩, owns, _⟩ := Option.map_eq_some_iff.mp held
        exact ⟨owner, found, (sound.owned bucket owner found owns).2⟩
      · rintro ⟨errand, region, there⟩
        simpa using retains errand bucket region there
    same := by
      intro errand bucket region there
      obtain ⟨source, _, told⟩ := sound.grounded _ _ _ there
      have named := region_of_told told agree
      refine ⟨named, ?_⟩
      obtain ⟨⟨owner, held⟩, owns⟩ :=
        Option.isSome_iff_exists.mp (retains errand bucket region there)
      have owned := region_of_told (sound.owned bucket owner held owns).1 agree
      rw [sound.held, owns, named, ← owned]
      rfl
    sequential := by
      intro calls agreeing transport bucket region journal returned
      have runs := Client.runs_run fresh calls
      obtain ⟨asked, work, member, answered⟩ := runs.answered_of_mem signed returned
      obtain ⟨clock, called⟩ := Client.call_of_mem_run member
      exact answered.region_eq (agreeing asked clock bucket called) }

/-- Lookups and forgettings in any order keep the cache of a client with keys sound. -/
theorem keepsSound_run {options : Client.Options} {made : Calendar.Reading}
    (new : Client.new options made = .ok c) (signed : c.anonymous = false)
    (schedule : List Step) : KeepsSound c schedule where
  entries := by
    intro bucket region entry
    have sound := sound_run new signed schedule
    have held : ((start c).run schedule).client.cache.get? bucket = some region :=
      Fields.get?_of_mem (nodup_new new schedule) entry
    rw [sound.held] at held
    obtain ⟨⟨owner, found⟩, owns, named⟩ := Option.map_eq_some_iff.mp held
    cases named
    have told := (sound.owned bucket owner found owns).1
    exact ⟨told.isSettled, owner, told⟩
  returns := by
    intro errand bucket region there
    obtain ⟨source, _, told⟩ := (sound_run new signed schedule).grounded _ _ _ there
    exact ⟨told.isSettled, source, told⟩
  failures := by
    intro errand bucket e failed before transport clock after split
    subst split
    exact cache_of_failed failed
  agreement := fun _ agree kept => agreement_run new signed agree kept

theorem keepsSound_run_race :
    KeepsSound Sample.client
      [.begin "photos", .begin "photos", .advance 0 Sample.transport Sample.noon,
        .advance 1 Sample.transport Sample.noon, .forget "photos",
        .advance 1 Sample.transport Sample.noon] :=
  keepsSound_run Sample.new_client rfl _

end Shared

end BucketRegion

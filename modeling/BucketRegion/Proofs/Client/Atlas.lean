import BucketRegion.Proofs.Client.Course
import Mathlib.Data.List.Induction
import Mathlib.Logic.Function.Basic

/-!
# Maps of regions

A map from buckets to regions as a machine of its own: what it lets a finished call have come to,
and the map after it. What the map holds of a bucket can be told from the calls that are over: the
region that the first lookup since the bucket was last forgotten returned.
-/

set_option autoImplicit false

namespace BucketRegion

open Http (Transport Request Response)
open Http.Session (authorized)

/-- A call that is over: what it was, and what it came to. -/
inductive Done where
  | lookup (transport : Transport) (bucket : String) (result : Except LookupError String)
      (journal : Journal)
  | forgotten (bucket : String)
  | closed

/-- The bucket that a call was about; closing is about none. -/
def Done.bucket? : Done → Option String
  | .lookup _ bucket _ _ => some bucket
  | .forgotten bucket => some bucket
  | .closed => none

/-- A lookup whose region is that of the document which the transport answered to its only
request. -/
inductive Answered (endpoint : Url) (transport : Transport) (bucket region : String)
    (journal : Journal) : Prop where
  | intro {request : Request} {response : Response} {body : Bytes} {constraint : String}
      (asks : Endpoint.locationUrl endpoint bucket = .ok request.url)
      (sent : journal.sent = [request]) (came : transport request = .ok response)
      (success : Http.isSuccess response.status = true) (whole : response.content = .ok body)
      (decoded : Location.decode body bucket = .ok constraint)
      (named : region = Region.ofConstraint constraint)

abbrev Atlas := String → Option String

namespace Atlas

def empty : Atlas := fun _ => none

/-- What a map lets a call have come to, and the map after it. -/
inductive Allows (endpoint : Url) (anonymous : Bool) : Atlas → Done → Atlas → Prop where
  | unasked {atlas : Atlas} {transport : Transport} {bucket : String} {journal : Journal}
      (unsigned : anonymous = true) (unsent : journal.sent = []) :
      Allows endpoint anonymous atlas
        (.lookup transport bucket (.ok Region.default) journal) atlas
  | known {atlas : Atlas} {transport : Transport} {bucket region : String} {journal : Journal}
      (signed : anonymous = false) (held : atlas bucket = some region)
      (unsent : journal.sent = []) :
      Allows endpoint anonymous atlas (.lookup transport bucket (.ok region) journal) atlas
  | learned {atlas : Atlas} {transport : Transport} {bucket region : String} {journal : Journal}
      (signed : anonymous = false) (absent : atlas bucket = none)
      (answered : Answered endpoint transport bucket region journal) :
      Allows endpoint anonymous atlas (.lookup transport bucket (.ok region) journal)
        (Function.update atlas bucket (some region))
  | failed {atlas : Atlas} {transport : Transport} {bucket : String} {e : LookupError}
      {journal : Journal} (signed : anonymous = false) (absent : atlas bucket = none)
      (once : journal.sent.length ≤ 1) :
      Allows endpoint anonymous atlas (.lookup transport bucket (.error e) journal) atlas
  | forgotten {atlas : Atlas} {bucket : String} :
      Allows endpoint anonymous atlas (.forgotten bucket) (Function.update atlas bucket none)
  | closed {atlas : Atlas} : Allows endpoint anonymous atlas .closed atlas

/-- The maps that an empty map can have become when a number of calls are over. -/
inductive Runs (endpoint : Url) (anonymous : Bool) : List Done → Atlas → Prop where
  | start : Runs endpoint anonymous [] empty
  | next {history : List Done} {done : Done} {atlas after : Atlas}
      (runs : Runs endpoint anonymous history atlas)
      (allowed : Allows endpoint anonymous atlas done after) :
      Runs endpoint anonymous (history ++ [done]) after

end Atlas

/-- A call leaves what a map holds of other buckets. -/
theorem Atlas.Allows.eq_of_other {endpoint : Url} {anonymous : Bool} {atlas after : Atlas}
    {done : Done} {bucket : String} (allowed : Allows endpoint anonymous atlas done after)
    (other : done.bucket? ≠ some bucket) : after bucket = atlas bucket := by
  cases allowed with
  | learned =>
      exact Function.update_of_ne (fun equal => other (congrArg some equal.symm)) _ _
  | forgotten =>
      exact Function.update_of_ne (fun equal => other (congrArg some equal.symm)) _ _
  | _ => rfl

/-! ## What is told by the calls that are over -/

/-- Whether a call forgot a bucket. -/
def Done.forgets (bucket : String) : Done → Bool
  | .forgotten other => other == bucket
  | _ => false

/-- The region that a call found for a bucket, with the transport that it met and what it did. -/
def Done.found? (bucket : String) : Done → Option (Transport × Journal × String)
  | .lookup transport other (.ok region) journal =>
      if other == bucket then some (transport, journal, region) else none
  | _ => none

/-- The calls since a bucket was last forgotten. -/
def sinceForgotten (bucket : String) (history : List Done) : List Done :=
  (history.reverse.takeWhile fun done => !done.forgets bucket).reverse

/-- What the first lookup found for a bucket since it was last forgotten. -/
def firstFound? (bucket : String) (history : List Done) : Option (Transport × Journal × String) :=
  (sinceForgotten bucket history).findSome? (·.found? bucket)

theorem sinceForgotten_snoc (bucket : String) (history : List Done) (done : Done) :
    sinceForgotten bucket (history ++ [done]) =
      if done.forgets bucket then [] else sinceForgotten bucket history ++ [done] := by
  unfold sinceForgotten
  rw [List.reverse_append, List.reverse_singleton, List.singleton_append, List.takeWhile_cons]
  cases done.forgets bucket <;> simp

theorem firstFound?_snoc (bucket : String) (history : List Done) (done : Done) :
    firstFound? bucket (history ++ [done]) =
      if done.forgets bucket then none
      else (firstFound? bucket history).or (done.found? bucket) := by
  unfold firstFound?
  rw [sinceForgotten_snoc]
  split
  · rfl
  · rw [List.findSome?_append, List.findSome?_cons, List.findSome?_nil]
    cases done.found? bucket <;> rfl

theorem Done.found?_eq_some {bucket region : String} {done : Done} {transport : Transport}
    {journal : Journal} :
    done.found? bucket = some (transport, journal, region) ↔
      done = .lookup transport bucket (.ok region) journal := by
  constructor
  · intro found
    unfold found? at found
    split at found
    · split at found
      · next same =>
          cases found
          rw [eq_of_beq same]
      · cases found
    · cases found
  · intro same
    simp [same, found?]

theorem isSome_firstFound?_iff (bucket : String) (history : List Done) :
    (firstFound? bucket history).isSome = true ↔
      ∃ transport region journal,
        .lookup transport bucket (.ok region) journal ∈ sinceForgotten bucket history := by
  unfold firstFound?
  rw [List.findSome?_isSome_iff]
  constructor
  · rintro ⟨done, member, found⟩
    obtain ⟨⟨transport, journal, region⟩, named⟩ := Option.isSome_iff_exists.mp found
    rw [Done.found?_eq_some.mp named] at member
    exact ⟨transport, region, journal, member⟩
  · rintro ⟨transport, region, journal, member⟩
    refine ⟨_, member, ?_⟩
    rw [Done.found?_eq_some.mpr rfl]
    rfl

theorem mem_of_firstFound? {bucket region : String} {history : List Done}
    {transport : Transport} {journal : Journal}
    (first : firstFound? bucket history = some (transport, journal, region)) :
    .lookup transport bucket (.ok region) journal ∈ history := by
  obtain ⟨done, member, found⟩ := List.exists_of_findSome?_eq_some first
  rw [← Done.found?_eq_some.mp found]
  unfold sinceForgotten at member
  have taken := List.mem_reverse.mp member
  exact List.mem_reverse.mp ((List.takeWhile_sublist _).mem taken)

namespace Atlas

variable {endpoint : Url} {anonymous : Bool} {history : List Done} {atlas : Atlas}

/-- A map holds what the first lookup since the last forgetting found, and that of an anonymous
client holds nothing. -/
theorem Runs.eq_firstFound? (runs : Runs endpoint anonymous history atlas) (bucket : String) :
    atlas bucket =
      if anonymous then none else (firstFound? bucket history).map fun found => found.2.2 := by
  induction runs with
  | start => cases anonymous <;> rfl
  | @next history done atlas after runs allowed ih =>
      rw [firstFound?_snoc]
      cases allowed with
      | unasked unsigned => simpa [unsigned] using ih
      | @known transport other region journal signed held unsent =>
          simp only [signed, Bool.false_eq_true, if_false, Done.forgets, Done.found?] at ih ⊢
          by_cases same : other = bucket
          · subst same
            obtain ⟨found, first, _⟩ := Option.map_eq_some_iff.mp (ih.symm.trans held)
            simp [ih, first]
          · simp [ih, same]
      | @learned transport other region journal signed absent answered =>
          simp only [signed, Bool.false_eq_true, if_false, Done.forgets, Done.found?] at ih ⊢
          by_cases same : other = bucket
          · subst same
            have nothing := Option.map_eq_none_iff.mp (ih.symm.trans absent)
            simp [nothing]
          · have different : bucket ≠ other := fun equal => same equal.symm
            simp [ih, same, different]
      | failed => simpa [Done.forgets, Done.found?] using ih
      | @forgotten other =>
          by_cases same : other = bucket
          · simp [same, Done.forgets]
          · have different : bucket ≠ other := fun equal => same equal.symm
            simpa [same, different, Done.forgets, Done.found?] using ih
      | closed => simpa [Done.forgets, Done.found?] using ih

/-- What the first lookup since the last forgetting found is what the service answered to it. -/
theorem Runs.answered_first (runs : Runs endpoint anonymous history atlas)
    (signed : anonymous = false) {bucket region : String} {transport : Transport}
    {journal : Journal} (first : firstFound? bucket history = some (transport, journal, region)) :
    Answered endpoint transport bucket region journal := by
  induction runs with
  | start => cases first
  | @next history done atlas after runs allowed ih =>
      rw [firstFound?_snoc] at first
      split at first
      · cases first
      · rcases Option.or_eq_some_iff.mp first with earlier | ⟨unfound, now⟩
        · exact ih earlier
        · cases Done.found?_eq_some.mp now
          -- The map did not hold the bucket, so the call was no lookup of a held one.
          cases allowed with
          | unasked unsigned =>
              rw [signed] at unsigned
              cases unsigned
          | known _ held =>
              rw [runs.eq_firstFound?, signed, unfound] at held
              cases held
          | learned _ _ answered => exact answered

/-- Every region that a client with keys has returned was answered to a lookup of the bucket. -/
theorem Runs.answered_of_mem (runs : Runs endpoint anonymous history atlas)
    (signed : anonymous = false) {bucket region : String} {transport : Transport}
    {journal : Journal} (returned : .lookup transport bucket (.ok region) journal ∈ history) :
    ∃ asked work, .lookup asked bucket (.ok region) work ∈ history ∧
      Answered endpoint asked bucket region work := by
  induction runs with
  | start => cases returned
  | @next history done atlas after runs allowed ih =>
      rcases List.mem_append.mp returned with earlier | now
      · obtain ⟨asked, work, member, answered⟩ := ih earlier
        exact ⟨asked, work, List.mem_append_left _ member, answered⟩
      · cases List.mem_singleton.mp now
        cases allowed with
        | unasked unsigned =>
            rw [signed] at unsigned
            cases unsigned
        | known _ held =>
            rw [runs.eq_firstFound?, signed] at held
            obtain ⟨⟨asked, work, found⟩, first, named⟩ := Option.map_eq_some_iff.mp held
            cases named
            have member := mem_of_firstFound? first
            exact ⟨asked, work, List.mem_append_left _ member, runs.answered_first signed first⟩
        | learned _ _ answered => exact ⟨transport, journal, returned, answered⟩

end Atlas

end BucketRegion

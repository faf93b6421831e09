import BucketRegion.Proofs.Client.Fate

/-!
# Reports on lookups

What a report tells of the lookups whose results have been put into it, in any order. Where the
answers depend on the buckets alone, it tells of each bucket what its lookup comes to.
-/

set_option autoImplicit false

namespace BucketRegion

open Http (Transport)

namespace Batch

/-- What a report says of an error that callers are told to expect: the fields of an error of the
service, and the message of any other. -/
def description : LookupError → Value
  | .service e => .table e.fields
  | e => .table [("message", .text e.message)]

theorem entryOf?_eq (e : LookupError) :
    entryOf? e = if e.isExpected then some (description e) else none := by
  cases e with
  | location p => cases p <;> rfl
  | send e => cases kind : e.kind <;> simp [entryOf?, LookupError.isExpected, kind, description]
  | read e => cases kind : e.kind <;> simp [entryOf?, LookupError.isExpected, kind, description]
  | _ => rfl

/-- What a report says of a result in the place of a region. -/
def entryOfResult? : Except LookupError String → Option Value
  | .ok _ => none
  | .error e => entryOf? e

/-- The report with a result in it; one that ends the batch is left out. -/
def Report.entered (report : Report) (bucket : String) (result : Except LookupError String) :
    Report :=
  match record report bucket result with
  | .ok report => report
  | .error _ => report

/-- Whether a result ends a batch does not depend on what else is in the report. -/
theorem record_eq (report : Report) (bucket : String) (result : Except LookupError String) :
    record report bucket result =
      match result with
      | .ok _ => .ok (report.entered bucket result)
      | .error e => if e.isExpected then .ok (report.entered bucket result) else .error e := by
  cases result with
  | ok region => rfl
  | error e =>
      have entry := entryOf?_eq e
      cases expected : e.isExpected <;> simp [Report.entered, record, entry, expected]

theorem Report.entered_ok (report : Report) (bucket region : String) :
    report.entered bucket (.ok region) =
      { report with locations := Fields.put bucket region report.locations } := rfl

theorem Report.entered_error (report : Report) (bucket : String) (e : LookupError) :
    report.entered bucket (.error e) =
      if e.isExpected then
        { report with errors := Fields.put bucket (description e) report.errors }
      else report := by
  have entry := entryOf?_eq e
  cases expected : e.isExpected <;> simp [entered, record, entry, expected]

theorem reported_of_record {report after : Report} {bucket : String}
    {result : Except LookupError String} (recorded : record report bucket result = .ok after) :
    isReported result = true ∧ after = report.entered bucket result := by
  rw [record_eq] at recorded
  cases result with
  | ok region => exact ⟨rfl, (Except.ok.inj recorded).symm⟩
  | error e =>
      dsimp only at recorded
      split at recorded
      · next expected => exact ⟨expected, (Except.ok.inj recorded).symm⟩
      · cases recorded

/-- What a report tells of lookups, where `found` has their buckets and results: of every bucket
its region or its failure, and nothing that no lookup of the bucket came to. -/
structure Report.Tells (found : String → Except LookupError String → Prop) (report : Report) :
    Prop where
  covered : ∀ bucket result, found bucket result → isReported result = true →
    bucket ∈ Fields.keys report.locations ∨ bucket ∈ Fields.keys report.errors
  located : ∀ bucket region, Fields.get? bucket report.locations = some region →
    found bucket (.ok region)
  explained : ∀ bucket entry, Fields.get? bucket report.errors = some entry →
    ∃ e, found bucket (.error e) ∧ e.isExpected = true ∧ entry = description e
  uniqueLocations : (Fields.keys report.locations).Nodup
  uniqueErrors : (Fields.keys report.errors).Nodup

section Tells

variable {found : String → Except LookupError String → Prop} {report : Report}

theorem tells_empty : Report.empty.Tells fun _ _ => False where
  covered := fun _ _ nothing => nothing.elim
  located := by
    intro bucket region held
    cases held
  explained := by
    intro bucket entry held
    cases held
  uniqueLocations := List.nodup_nil
  uniqueErrors := List.nodup_nil

theorem Report.Tells.of_iff {other : String → Except LookupError String → Prop}
    (tells : report.Tells found)
    (same : ∀ bucket result, found bucket result ↔ other bucket result) : report.Tells other := by
  have equal : found = other := funext fun bucket => funext fun result =>
    propext (same bucket result)
  exact equal ▸ tells

theorem mem_keys_put {α : Type} (key other : String) (value : α) (fields : List (String × α)) :
    other ∈ Fields.keys (Fields.put key value fields) ↔
      other = key ∨ other ∈ Fields.keys fields := by
  simp only [Fields.mem_keys_iff, Fields.get?_put]
  split
  · next same => simp [same]
  · next different => simp [different]

/-- Putting one more result into a report keeps what it tells. -/
theorem Report.Tells.entered (tells : report.Tells found) (bucket : String)
    (result : Except LookupError String) :
    (report.entered bucket result).Tells fun other outcome =>
      found other outcome ∨ other = bucket ∧ outcome = result := by
  cases result with
  | ok region =>
      rw [Report.entered_ok]
      refine ⟨?_, ?_, ?_, Fields.nodup_keys_put tells.uniqueLocations, tells.uniqueErrors⟩
      · intro other outcome came reported
        rw [mem_keys_put]
        rcases came with earlier | ⟨same, _⟩
        · rcases tells.covered other outcome earlier reported with located | explained
          · exact .inl (.inr located)
          · exact .inr explained
        · exact .inl (.inl same)
      · intro other held there
        rw [Fields.get?_put] at there
        split at there
        · next same =>
            cases there
            exact .inr ⟨same, rfl⟩
        · exact .inl (tells.located other held there)
      · intro other entry there
        obtain ⟨e, came, described⟩ := tells.explained other entry there
        exact ⟨e, .inl came, described⟩
  | error e =>
      rw [Report.entered_error]
      split
      · next expected =>
          refine ⟨?_, ?_, ?_, tells.uniqueLocations, Fields.nodup_keys_put tells.uniqueErrors⟩
          · intro other outcome came reported
            rw [mem_keys_put]
            rcases came with earlier | ⟨same, _⟩
            · rcases tells.covered other outcome earlier reported with located | explained
              · exact .inl located
              · exact .inr (.inr explained)
            · exact .inr (.inl same)
          · intro other held there
            exact .inl (tells.located other held there)
          · intro other entry there
            rw [Fields.get?_put] at there
            split at there
            · next same =>
                cases there
                exact ⟨e, .inr ⟨same, rfl⟩, expected, rfl⟩
            · obtain ⟨earlier, came, described⟩ := tells.explained other entry there
              exact ⟨earlier, .inl came, described⟩
      · next unexpected =>
          -- The report stays as it is, and does not have to cover the bucket.
          refine ⟨?_, ?_, ?_, tells.uniqueLocations, tells.uniqueErrors⟩
          · intro other outcome came reported
            rcases came with earlier | ⟨_, same⟩
            · exact tells.covered other outcome earlier reported
            · subst same
              exact absurd reported unexpected
          · intro other held there
            exact .inl (tells.located other held there)
          · intro other entry there
            obtain ⟨earlier, came, described⟩ := tells.explained other entry there
            exact ⟨earlier, .inl came, described⟩

/-- Where all results are reported, the report has the buckets that were looked up and no others. -/
theorem Report.Tells.mem_keys_iff (tells : report.Tells found)
    (reported : ∀ bucket result, found bucket result → isReported result = true) (bucket : String) :
    bucket ∈ Fields.keys report.locations ∨ bucket ∈ Fields.keys report.errors ↔
      ∃ result, found bucket result := by
  constructor
  · rintro (located | explained)
    · obtain ⟨region, held⟩ := Option.isSome_iff_exists.mp ((Fields.mem_keys_iff _ _).mp located)
      exact ⟨_, tells.located bucket region held⟩
    · obtain ⟨entry, held⟩ := Option.isSome_iff_exists.mp ((Fields.mem_keys_iff _ _).mp explained)
      obtain ⟨e, came, _⟩ := tells.explained bucket entry held
      exact ⟨_, came⟩
  · rintro ⟨result, came⟩
    exact tells.covered bucket result came (reported bucket result came)

/-- Where all lookups of a bucket come to one result, the report tells this result. -/
theorem Report.Tells.get?_eq (tells : report.Tells found) {bucket : String}
    {fate : Except LookupError String} (reported : isReported fate = true)
    (one : ∀ result, found bucket result ↔ result = fate) :
    Fields.get? bucket report.locations = fate.toOption ∧
      Fields.get? bucket report.errors = entryOfResult? fate := by
  have came := (one fate).mpr rfl
  have covered := tells.covered bucket fate came reported
  simp only [Fields.mem_keys_iff] at covered
  cases fate with
  | ok region =>
      have unexplained : Fields.get? bucket report.errors = none := by
        cases held : Fields.get? bucket report.errors with
        | none => rfl
        | some entry =>
            obtain ⟨e, failed, _⟩ := tells.explained bucket entry held
            cases (one _).mp failed
      rw [unexplained] at covered
      obtain ⟨held, there⟩ := Option.isSome_iff_exists.mp (covered.resolve_right (by simp))
      cases (one _).mp (tells.located bucket held there)
      exact ⟨there, unexplained⟩
  | error e =>
      have unlocated : Fields.get? bucket report.locations = none := by
        cases held : Fields.get? bucket report.locations with
        | none => rfl
        | some region => cases (one _).mp (tells.located bucket region held)
      rw [unlocated] at covered
      obtain ⟨entry, there⟩ := Option.isSome_iff_exists.mp (covered.resolve_left (by simp))
      obtain ⟨failure, failed, _, described⟩ := tells.explained bucket entry there
      cases (one _).mp failed
      have expected : e.isExpected = true := reported
      refine ⟨unlocated, ?_⟩
      rw [there, entryOfResult?, entryOf?_eq, if_pos expected, described]

theorem Report.Tells.get?_of_unasked (tells : report.Tells found) {bucket : String}
    (unasked : ∀ result, ¬ found bucket result) :
    Fields.get? bucket report.locations = none ∧ Fields.get? bucket report.errors = none := by
  constructor
  · cases held : Fields.get? bucket report.locations with
    | none => rfl
    | some region => exact absurd (tells.located bucket region held) (unasked _)
  · cases held : Fields.get? bucket report.errors with
    | none => rfl
    | some entry =>
        obtain ⟨e, came, _⟩ := tells.explained bucket entry held
        exact absurd came (unasked _)

end Tells

end Batch

/-- The results that lookups have come to. -/
def Shared.Found (s : Shared) (bucket : String) (result : Except LookupError String) : Prop :=
  ∃ errand : Nat, s.errands[errand]? = some ⟨bucket, .ended result⟩

theorem Shared.AllReported.found_iff {s : Shared} (finished : s.AllReported) (bucket : String) :
    bucket ∈ s.asked ↔ ∃ result, s.Found bucket result := by
  constructor
  · intro member
    obtain ⟨⟨named, phase⟩, within, same⟩ := List.mem_map.mp member
    dsimp only at same
    subst same
    obtain ⟨errand, there⟩ := List.mem_iff_getElem?.mp within
    obtain ⟨result, ended, _⟩ := finished errand named phase there
    exact ⟨result, errand, ended ▸ there⟩
  · rintro ⟨result, errand, there⟩
    exact mem_asked there

theorem Shared.AllReported.reported {s : Shared} (finished : s.AllReported) {bucket : String}
    {result : Except LookupError String} (came : s.Found bucket result) :
    isReported result = true := by
  obtain ⟨errand, there⟩ := came
  obtain ⟨same, ended, reported⟩ := finished errand bucket _ there
  cases ended
  exact reported

namespace Batch

variable {c : Client} {answers : Answers} {buckets : List String} {report : Report}
  {cache : LocationCache}

/-- A report on some buckets and a cache, both left by lookups of these buckets that were answered
by their buckets alone. -/
inductive Settled (c : Client) (answers : Answers) (buckets : List String) (report : Report)
    (cache : LocationCache) : Prop where
  | intro {s : Shared} (fated : s.Fated c answers) (finished : s.AllReported)
      (tells : report.Tells s.Found) (asked : s.asked = buckets)
      (left : s.client.cache = cache)

/-- What a report and a cache hold of a bucket: what its lookup comes to, and nothing if it was not
looked up. -/
structure Told (c : Client) (answers : Answers) (buckets : List String) (report : Report)
    (cache : LocationCache) (bucket : String) : Prop where
  location : Fields.get? bucket report.locations =
    if bucket ∈ buckets then (c.fate answers bucket).toOption else none
  error : Fields.get? bucket report.errors =
    if bucket ∈ buckets then entryOfResult? (c.fate answers bucket) else none
  cached : cache.get? bucket = (c.cache.get? bucket).or
    (if c.anonymous = false ∧ bucket ∈ buckets then (c.fate answers bucket).toOption else none)

theorem Settled.told (settled : Settled c answers buckets report cache) (bucket : String) :
    Told c answers buckets report cache bucket := by
  cases settled with | @intro s fated finished tells asked left
  subst asked left
  have cached := fated.get?_cache finished bucket
  by_cases looked : bucket ∈ s.asked
  · obtain ⟨result, errand, there⟩ := (finished.found_iff bucket).mp looked
    have reported := finished.reported ⟨errand, there⟩
    have same : result = c.fate answers bucket := fated.result_eq there reported
    have one : ∀ other, s.Found bucket other ↔ other = c.fate answers bucket := by
      intro other
      constructor
      · rintro ⟨place, here⟩
        exact fated.result_eq here (finished.reported ⟨place, here⟩)
      · rintro rfl
        exact ⟨errand, same ▸ there⟩
    obtain ⟨location, error⟩ := tells.get?_eq (same ▸ reported) one
    refine ⟨?_, ?_, cached⟩
    · rw [if_pos looked, location]
    · rw [if_pos looked, error]
  · obtain ⟨location, error⟩ := tells.get?_of_unasked fun result came =>
      looked ((finished.found_iff bucket).mpr ⟨result, came⟩)
    refine ⟨?_, ?_, cached⟩
    · rw [if_neg looked, location]
    · rw [if_neg looked, error]

theorem Settled.disjoint (settled : Settled c answers buckets report cache) {bucket : String}
    (located : bucket ∈ Fields.keys report.locations) :
    bucket ∉ Fields.keys report.errors := by
  obtain ⟨location, error, _⟩ := settled.told bucket
  intro explained
  rw [Fields.mem_keys_iff, location] at located
  rw [Fields.mem_keys_iff, error] at explained
  cases fate : c.fate answers bucket with
  | ok region => split at explained <;> simp [fate, entryOfResult?] at explained
  | error e => split at located <;> simp [fate, Except.toOption] at located

/-! ## One lookup after the other -/

theorem found_append {s t : Shared} {bucket : String} {result : Except LookupError String}
    (errands : t.errands = s.errands ++ [⟨bucket, .ended result⟩]) (other : String)
    (outcome : Except LookupError String) :
    s.Found other outcome ∨ other = bucket ∧ outcome = result ↔ t.Found other outcome := by
  simp only [Shared.Found, errands, Shared.getElem?_began]
  constructor
  · rintro (⟨errand, there⟩ | ⟨rfl, rfl⟩)
    · have within : errand < s.errands.length := (List.getElem?_eq_some_iff.mp there).1
      exact ⟨errand, by rw [if_neg (Nat.ne_of_lt within), there]⟩
    · exact ⟨s.errands.length, if_pos rfl⟩
  · rintro ⟨errand, there⟩
    split at there
    · cases there
      exact .inr ⟨rfl, rfl⟩
    · exact .inl ⟨errand, there⟩

section Resolved

variable (transport : Transport) (clock : Calendar.Reading)

theorem fated_advances {s : Shared} (fated : s.Fated c answers) {errand : Nat} {bucket : String}
    {phase : Phase} (there : s.errands[errand]? = some ⟨bucket, phase⟩)
    (gives : transport.Gives c.endpoint bucket (answers bucket)) (n : Nat) :
    (s.run (List.replicate n (.advance errand transport clock))).Fated c answers := by
  induction n generalizing s phase with
  | zero => exact fated
  | succ n ih =>
      have proper : s.Proper c answers (.advance errand transport clock) := by
        intro named _ same
        rw [there] at same
        cases same
        exact gives
      have after := fated.shift (Shared.shift_step s (.advance errand transport clock)) proper
      rw [List.replicate_succ, Shared.run_cons]
      have here : (s.step (.advance errand transport clock)).errands[errand]? =
          some ⟨bucket, (s.client.advance transport clock bucket phase).phase⟩ := by
        rw [Shared.step_advance transport clock there, Shared.getElem?_moved there, if_pos rfl]
      exact ih after here

theorem fated_lookup {s : Shared} (fated : s.Fated c answers) (bucket : String)
    (gives : transport.Gives c.endpoint bucket (answers bucket)) :
    ∃ t : Shared, t.Fated c answers ∧
      t.client = (s.client.lookup transport clock bucket).client ∧
      t.errands = s.errands ++
        [⟨bucket, .ended (s.client.lookup transport clock bucket).result⟩] := by
  obtain ⟨client, errands⟩ := Shared.run_lookup s transport clock bucket
  have there : (s.step (.begin bucket)).errands[s.errands.length]? = some ⟨bucket, .begun⟩ := by
    simp only [Shared.step, Shared.getElem?_began, if_true]
  have after := fated_advances transport clock (fated.began bucket) there gives 5
  exact ⟨_, after, client, errands⟩

theorem settled_resolveInto {s : Shared} (fated : s.Fated c answers) (finished : s.AllReported)
    {before after : Report} (tells : before.Tells s.Found)
    (gives : ∀ bucket ∈ buckets, transport.Gives c.endpoint bucket (answers bucket))
    (resolved : (resolveInto transport clock s.client before buckets).result = .ok after) :
    Settled c answers (s.asked ++ buckets) after
      (resolveInto transport clock s.client before buckets).client.cache := by
  induction buckets generalizing s before with
  | nil =>
      cases resolved
      exact ⟨fated, finished, tells, (List.append_nil _).symm, rfl⟩
  | cons bucket buckets ih =>
      obtain ⟨t, fatedAfter, client, errands⟩ :=
        fated_lookup transport clock fated bucket
          (gives bucket List.mem_cons_self)
      cases recorded : record before bucket (s.client.lookup transport clock bucket).result with
      | error e =>
          simp only [resolveInto, recorded] at resolved
          cases resolved
      | ok next =>
          obtain ⟨reported, entered⟩ := reported_of_record recorded
          simp only [resolveInto, recorded, ← client] at resolved ⊢
          have overAfter : t.AllReported := by
            intro errand named phase there
            rw [errands, Shared.getElem?_began] at there
            split at there
            · cases there
              exact ⟨_, rfl, reported⟩
            · exact finished errand named phase there
          have tellsAfter : next.Tells t.Found := by
            rw [entered]
            exact (tells.entered bucket _).of_iff (found_append errands)
          have asked : t.asked ++ buckets = s.asked ++ bucket :: buckets := by
            simp [Shared.asked, errands]
          have settled := ih fatedAfter overAfter tellsAfter
            (fun other member => gives other (List.mem_cons_of_mem bucket member)) resolved
          rw [asked] at settled
          exact settled

/-- A batch that is looked up in order, one lookup after the other, settles its buckets. -/
theorem settled_resolve
    (gives : ∀ bucket ∈ buckets, transport.Gives c.endpoint bucket (answers bucket))
    (resolved : (resolve c transport clock buckets).result = .ok report) :
    Settled c answers buckets report (resolve c transport clock buckets).client.cache := by
  have nobody : ∀ bucket result, ¬ (Shared.start c).Found bucket result := by
    rintro bucket result ⟨errand, there⟩
    cases there
  refine settled_resolveInto transport clock (s := .start c) (Shared.fated_start c answers) ?_ ?_
    gives resolved
  · intro errand bucket phase there
    cases there
  · exact tells_empty.of_iff fun bucket result =>
      iff_of_false (fun nothing => nothing) (nobody bucket result)

end Resolved

end Batch

end BucketRegion

import Mathlib.Data.List.Induction
import BucketRegion.Proofs.Except
import BucketRegion.Proofs.Signing

/-!
# What signing puts into the headers

Setting a header leaves the lines of all other names as they are. Signing sets headers in turn,
and where it succeeds all of them have been set.
-/

set_option autoImplicit false

namespace BucketRegion

namespace Http

namespace Headers

variable {name other : String}

theorem putLine_cons_self (name value old : String) (lines : List (String × String)) :
    putLine name value ((name, old) :: lines) =
      (name, value) :: lines.filter fun line => line.1 != name := by
  rw [putLine, if_pos (beq_self_eq_true name)]

theorem putLine_cons_of_ne {held : String} (different : held ≠ name) (old value : String)
    (lines : List (String × String)) :
    putLine name value ((held, old) :: lines) = (held, old) :: putLine name value lines := by
  rw [putLine, if_neg (by simpa using different)]

/-- Lines of names other than the one that is set stay. -/
theorem filter_putLine_of_other (keep : String → Bool) (dropped : keep name = false)
    (value : String) (lines : List (String × String)) :
    (putLine name value lines).filter (fun line => keep line.1) =
      lines.filter fun line => keep line.1 := by
  induction lines with
  | nil => simp [putLine, dropped]
  | cons line lines ih =>
      obtain ⟨held, old⟩ := line
      by_cases same : held = name
      · subst same
        rw [putLine_cons_self, List.filter_cons_of_neg (by simp [dropped]),
          List.filter_cons_of_neg (by simp [dropped]), List.filter_filter]
        refine List.filter_congr fun other _ => ?_
        by_cases equal : other.1 = held
        · simp [equal, dropped]
        · simp [equal]
      · rw [putLine_cons_of_ne same, List.filter_cons, List.filter_cons, ih]

theorem filter_putLine_of_kept (keep : String → Bool) (kept : keep name = true) (value : String)
    (lines : List (String × String)) :
    (putLine name value lines).filter (fun line => keep line.1) =
      putLine name value (lines.filter fun line => keep line.1) := by
  induction lines with
  | nil => simp [putLine, kept]
  | cons line lines ih =>
      obtain ⟨held, old⟩ := line
      by_cases same : held = name
      · subst same
        rw [putLine_cons_self, List.filter_cons, List.filter_cons, if_pos kept, if_pos kept,
          putLine_cons_self, List.filter_filter, List.filter_filter]
        simp only [Bool.and_comm]
      · rw [putLine_cons_of_ne same, List.filter_cons, List.filter_cons, ih]
        split
        · rw [putLine_cons_of_ne same]
        · rfl

theorem filter_putLine (name value : String) (lines : List (String × String)) :
    (putLine name value lines).filter (fun line => line.1 == name) = [(name, value)] := by
  induction lines with
  | nil => simp [putLine]
  | cons line lines ih =>
      obtain ⟨held, old⟩ := line
      by_cases same : held = name
      · subst same
        simp [putLine_cons_self]
      · rw [putLine_cons_of_ne same, List.filter_cons_of_neg (by simpa using same), ih]

theorem putLine_of_single {value : String} {lines : List (String × String)}
    (single : lines.filter (fun line => line.1 == name) = [(name, value)]) (new : String) :
    putLine name new lines =
      lines.map fun line => if line.1 == name then (name, new) else line := by
  induction lines with
  | nil => cases single
  | cons line rest ih =>
      obtain ⟨held, old⟩ := line
      by_cases same : held = name
      · subst same
        have others : ∀ other ∈ rest, ¬ other.1 = held := by
          simp only [List.filter_cons, beq_self_eq_true, if_true, List.cons.injEq,
            List.filter_eq_nil_iff, beq_iff_eq] at single
          exact single.2
        rw [putLine_cons_self, List.map_cons, if_pos (beq_self_eq_true _),
          List.filter_eq_self.mpr fun other member => by simpa using others other member,
          List.map_congr_left (g := id) fun other member => by simp [others other member],
          List.map_id]
      · rw [List.filter_cons_of_neg (by simpa using same)] at single
        rw [putLine_cons_of_ne same, List.map_cons, if_neg (by simpa using same), ih single]

theorem putLine_eq_self {value : String} {lines : List (String × String)}
    (single : lines.filter (fun line => line.1 == name) = [(name, value)]) :
    putLine name value lines = lines := by
  rw [putLine_of_single single, List.map_congr_left (g := id) fun line member => ?_, List.map_id]
  split
  · next same =>
      have only : line ∈ [(name, value)] := single ▸ List.mem_filter.mpr ⟨member, same⟩
      exact (List.mem_singleton.mp only).symm
  · rfl

theorem any_eq_isEmpty_filter (lines : List (String × String)) (name : String) :
    lines.any (fun line => line.1 == name) =
      !(lines.filter fun line => line.1 == name).isEmpty := by
  induction lines with
  | nil => rfl
  | cons line lines ih =>
      rw [List.any_cons, List.filter_cons]
      cases found : line.1 == name with
      | false => simpa [found] using ih
      | true => simp

theorem any_putLine_of_other (different : other ≠ name) (value : String)
    (lines : List (String × String)) :
    (putLine name value lines).any (fun line => line.1 == other) =
      lines.any fun line => line.1 == other := by
  have dropped : (name == other) = false := by simpa using fun equal => different (Eq.symm equal)
  rw [any_eq_isEmpty_filter, any_eq_isEmpty_filter,
    filter_putLine_of_other (fun held => held == other) dropped]

theorem mem_names_putLine (value : String) (lines : List (String × String)) :
    other ∈ (putLine name value lines).map (·.1) → other = name ∨ other ∈ lines.map (·.1) := by
  induction lines with
  | nil => simp [putLine]
  | cons line lines ih =>
      obtain ⟨held, old⟩ := line
      by_cases same : held = name
      · subst same
        rw [putLine_cons_self, List.map_cons, List.mem_cons]
        rintro (first | later)
        · exact .inl first
        · exact .inr (List.mem_cons_of_mem _ ((List.filter_sublist.map _).subset later))
      · rw [putLine_cons_of_ne same, List.map_cons, List.map_cons, List.mem_cons, List.mem_cons]
        rintro (first | later)
        · exact .inr (.inl first)
        · exact (ih later).imp_right .inr

theorem nodup_putLine {lines : List (String × String)} (unique : (lines.map (·.1)).Nodup)
    (value : String) : ((putLine name value lines).map (·.1)).Nodup := by
  induction lines with
  | nil => simp [putLine]
  | cons line lines ih =>
      obtain ⟨held, old⟩ := line
      obtain ⟨apart, unique⟩ := List.nodup_cons.mp unique
      by_cases same : held = name
      · subst same
        rw [putLine_cons_self, List.map_cons]
        refine List.nodup_cons.mpr ⟨?_, unique.sublist (List.filter_sublist.map _)⟩
        exact fun member => apart ((List.filter_sublist.map _).subset member)
      · rw [putLine_cons_of_ne same, List.map_cons]
        refine List.nodup_cons.mpr ⟨?_, ih unique⟩
        intro member
        rcases mem_names_putLine value lines member with equal | later
        · exact same equal
        · exact apart later

theorem putLine_of_absent {lines : List (String × String)}
    (absent : lines.any (fun line => line.1 == name) = false) (value : String) :
    putLine name value lines = lines ++ [(name, value)] := by
  induction lines with
  | nil => rfl
  | cons line lines ih =>
      obtain ⟨held, old⟩ := line
      obtain ⟨apart, absent⟩ := Bool.or_eq_false_iff.mp absent
      rw [putLine_cons_of_ne (by simpa using apart), ih absent, List.cons_append]

theorem filter_eq_of_nodup {lines : List (String × String)} (unique : (lines.map (·.1)).Nodup)
    {value : String} (there : (name, value) ∈ lines) :
    lines.filter (fun line => line.1 == name) = [(name, value)] := by
  induction lines with
  | nil => cases there
  | cons line lines ih =>
      obtain ⟨apart, unique⟩ := List.nodup_cons.mp unique
      rcases List.mem_cons.mp there with rfl | later
      · have others : lines.filter (fun line => line.1 == name) = [] := by
          rw [List.filter_eq_nil_iff]
          intro line member same
          exact apart (List.mem_map.mpr ⟨line, member, eq_of_beq same⟩)
        simp [others]
      · have different : ¬ (line.1 == name) = true := by
          intro same
          exact apart (List.mem_map.mpr ⟨_, later, (eq_of_beq same).symm⟩)
        rw [List.filter_cons, if_neg different]
        exact ih unique later

theorem get?_of_filter {headers : Headers} {value : String}
    (single : headers.lines.filter (fun line => line.1 == name) = [(name, value)]) :
    headers.get? name = some value := by
  rw [get?, valuesOf, single]
  simp

theorem merged_of_nodup {headers : Headers} (unique : (headers.lines.map (·.1)).Nodup) :
    headers.merged = headers.lines := by
  obtain ⟨lines, asciiOnly⟩ := headers
  dsimp only at unique ⊢
  -- Merging goes from the left, so the last line meets all the others.
  induction lines using List.reverseRecOn with
  | nil => rfl
  | append_singleton lines line ih =>
      rw [List.map_append, List.nodup_append] at unique
      obtain ⟨earlier, _, apart⟩ := unique
      have missing : lines.lookup line.1 = none := by
        rw [List.lookup_eq_none_iff]
        intro entry member
        have different := apart entry.1 (List.mem_map_of_mem member) line.1 (by simp)
        simpa using fun same : line.1 = entry.1 => different same.symm
      have merges := ih earlier
      unfold merged at merges ⊢
      rw [List.foldl_append, merges]
      simp [missing]

theorem lines_set {headers after : Headers} {value : String}
    (done : headers.set name value = .ok after) :
    after.lines = putLine name value headers.lines := by
  unfold set at done
  split at done <;> cases done
  rfl

end Headers

namespace Request

theorem eq_of_set {request after : Request} {name value : String}
    (done : request.set name value = .ok after) :
    after.method = request.method ∧ after.url = request.url ∧ after.body = request.body ∧
      after.headers.lines = Headers.putLine name value request.headers.lines := by
  unfold set at done
  cases headers : request.headers.set name value with
  | error problem => simp [headers, Except.map] at done
  | ok lines =>
      simp only [headers, Except.map, Except.ok.injEq] at done
      subst done
      exact ⟨rfl, rfl, rfl, Headers.lines_set headers⟩

end Request

end Http

namespace Signing

open Http (Request)

theorem Outcome.of_setting {request : Request} {name value : String} {next : Request → Outcome}
    (returned : (Outcome.setting request name value next).problem = none) :
    ∃ changed, request.set name value = .ok changed ∧ (next changed).problem = none ∧
      (Outcome.setting request name value next).request = (next changed).request := by
  unfold setting at returned ⊢
  split at returned
  · next changed done => exact ⟨changed, done, returned, rfl⟩
  · cases returned

namespace V2

/-- What there is between a request and what signing it in the older way gives. -/
structure Signs (credentials : Credentials) (clock : Calendar.Reading) (request final : Request) :
    Prop where
  dated : ∃ instant dated value, clock.instant? = some instant ∧
    request.set "date" instant.headerDate = .ok dated ∧
    dated.set "authorization" value = .ok final

theorem signs_of_sign {credentials : Credentials} {clock : Calendar.Reading} {request : Request}
    (returned : (sign credentials clock request).problem = none) :
    Signs credentials clock request (sign credentials clock request).request := by
  unfold sign at returned ⊢
  split at returned
  · cases returned
  · next url resource =>
      split at returned
      · cases returned
      · next instant time =>
          dsimp only at returned ⊢
          split at returned
          · cases returned
          · next key encoded =>
              obtain ⟨dated, date, returned, same⟩ := Outcome.of_setting returned
              obtain ⟨final, put, _, last⟩ := Outcome.of_setting returned
              rw [same, last]
              exact ⟨instant, dated, _, time, date, put⟩

end V2

namespace V4

/-- What there is between a request and what signing it gives: the request with the digest of its
payload, the one with the date as well, the lines that the signature is over, and the octets of the
key that it is made with. -/
structure Signs (credentials : Credentials) (clock : Calendar.Reading) (region : String)
    (request final : Request) (instant : Calendar.Instant) (hashed dated : Request)
    (signed : List (String × String)) (root : Bytes) : Prop where
  time : clock.instant? = some instant
  hash : if request.headers.contains payloadHeader then hashed = request
    else request.set payloadHeader (payloadHash request) = .ok hashed
  lines : signedLines (.ofChars hashed.url.text.toList)
    (replaceLine payloadHeader (payloadHash request)
      (replaceLine dateHeader instant.stamp (signable hashed))) = .ok signed
  key : rootKey credentials.secretKey = .ok root
  date : hashed.set dateHeader instant.stamp = .ok dated
  signature : dated.set "authorization"
    (authorization credentials region instant.stamp (signedHeaders signed)
      (V4.signature root instant.stamp region
        (canonicalRequest hashed.method (.ofChars hashed.url.text.toList) signed
          (payloadHash request)))) = .ok final

/-- What signing does to a request after the digest of its payload has been put in. -/
def signHashed (credentials : Credentials) (clock : Calendar.Reading) (region : String)
    (request hashed : Request) : Outcome :=
  match clock.instant? with
  | none => .failed hashed .noTime
  | some instant =>
      match signedLines (.ofChars hashed.url.text.toList)
        (replaceLine payloadHeader (payloadHash request)
          (replaceLine dateHeader instant.stamp (signable hashed))) with
      | .error problem => .failed hashed problem
      | .ok signed =>
          match rootKey credentials.secretKey with
          | .error found => .failed hashed (.key found)
          | .ok root =>
              Outcome.setting hashed dateHeader instant.stamp fun dated =>
                Outcome.setting dated "authorization"
                  (authorization credentials region instant.stamp (signedHeaders signed)
                    (V4.signature root instant.stamp region
                      (canonicalRequest hashed.method (.ofChars hashed.url.text.toList) signed
                        (payloadHash request)))) .done

section

variable {credentials : Credentials} {clock : Calendar.Reading} {region : String}
  {request : Request}

/-- After the digest, the date and the authorization are all that signing has set. -/
theorem Signs.eq_final {final : Request} {instant : Calendar.Instant} {hashed dated : Request}
    {signed : List (String × String)} {root : Bytes}
    (signs : Signs credentials clock region request final instant hashed dated signed root) :
    final.method = hashed.method ∧ final.url = hashed.url ∧ final.body = hashed.body ∧
      final.headers.lines = Http.Headers.putLine "authorization"
        (authorization credentials region instant.stamp (signedHeaders signed)
          (V4.signature root instant.stamp region
            (canonicalRequest hashed.method (.ofChars hashed.url.text.toList) signed
              (payloadHash request))))
        (Http.Headers.putLine dateHeader instant.stamp hashed.headers.lines) := by
  obtain ⟨method, url, body, dating⟩ := Request.eq_of_set signs.date
  obtain ⟨method', url', body', signing⟩ := Request.eq_of_set signs.signature
  rw [dating] at signing
  exact ⟨method'.trans method, url'.trans url, body'.trans body, signing⟩

theorem sign_eq (credentials : Credentials) (clock : Calendar.Reading) (region : String)
    (request : Request) :
    sign credentials clock region request =
      if request.headers.contains payloadHeader then
        signHashed credentials clock region request request
      else
        Outcome.setting request payloadHeader (payloadHash request)
          (signHashed credentials clock region request) := by
  unfold sign
  dsimp only
  split <;> rfl

theorem signs_of_signHashed {hashed : Request}
    (returned : (signHashed credentials clock region request hashed).problem = none)
    (hash : if request.headers.contains payloadHeader then hashed = request
      else request.set payloadHeader (payloadHash request) = .ok hashed) :
    ∃ instant dated signed root, Signs credentials clock region request
      (signHashed credentials clock region request hashed).request instant hashed dated signed
        root := by
  unfold signHashed at returned ⊢
  split at returned
  · cases returned
  · next instant time =>
      split at returned
      · cases returned
      · next signed lines =>
          split at returned
          · cases returned
          · next root key =>
              obtain ⟨dated, date, returned, same⟩ := Outcome.of_setting returned
              obtain ⟨final, put, _, last⟩ := Outcome.of_setting returned
              rw [same, last]
              exact ⟨instant, dated, signed, root, time, hash, lines, key, date, put⟩

theorem signs_of_sign (returned : (sign credentials clock region request).problem = none) :
    ∃ instant hashed dated signed root,
      Signs credentials clock region request (sign credentials clock region request).request
        instant hashed dated signed root := by
  rw [sign_eq] at returned ⊢
  split at returned
  · next given =>
      rw [if_pos given]
      obtain ⟨instant, dated, signed, root, signs⟩ :=
        signs_of_signHashed returned (by rw [if_pos given])
      exact ⟨instant, request, dated, signed, root, signs⟩
  · next missing =>
      rw [if_neg missing]
      obtain ⟨hashed, put, returned, same⟩ := Outcome.of_setting returned
      obtain ⟨instant, dated, signed, root, signs⟩ :=
        signs_of_signHashed returned (by rw [if_neg missing]; exact put)
      rw [same]
      exact ⟨instant, hashed, dated, signed, root, signs⟩

end

end V4

theorem Signer.sign_of_v4 {signer : Signer} (newer : signer.version = .v4)
    (clock : Calendar.Reading) (region : String) (request : Request) :
    signer.sign clock region request = V4.sign signer.credentials clock region request := by
  simp only [Signer.sign, newer]

end Signing

end BucketRegion

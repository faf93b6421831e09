import BucketRegion.Export
import BucketRegion.Proofs.Calendar.Clock
import BucketRegion.Proofs.Counters
import BucketRegion.Proofs.Json.Written

/-!
# Exported counts come back

The file that an export writes is JSON text from which every count is read as it was, under its
name, in ascending order of the names. Counts that do not fit are refused before a file is touched.
-/

set_option autoImplicit false

namespace BucketRegion

/-! ## Disks -/

namespace Disk

variable {disk : Disk} {path other : Path}

@[simp] theorem node?_put (disk : Disk) (path other : Path) (node : Node) :
    (disk.put path node).node? other = if other = path then some node else disk.node? other := rfl

theorem file?_put_file (disk : Disk) (path : Path) (octets : Bytes) :
    (disk.put path (.file octets)).file? path = some octets := by
  simp [file?]

theorem file?_put_of_ne (apart : other ≠ path) (node : Node) :
    (disk.put path node).file? other = disk.file? other := by
  simp [file?, apart]

/-- Making a folder where nothing stands changes no file. -/
theorem file?_put_folder (free : disk.node? path = none) (other : Path) :
    (disk.put path .folder).file? other = disk.file? other := by
  by_cases same : other = path
  · subst same
    simp [file?, free]
  · exact file?_put_of_ne same .folder

/-- Making folders changes no file. -/
theorem file?_of_makeFolders {names : List String} {made : Path} {ready : Disk}
    (done : disk.makeFolders made names = .ok ready) (other : Path) :
    ready.file? other = disk.file? other := by
  induction names generalizing disk made with
  | nil =>
      cases done
      rfl
  | cons name names ih =>
      simp only [makeFolders] at done
      split at done
      · exact ih done
      · cases done
      · next free => rw [ih done, file?_put_folder free]

/-- The folders that are new lie on the way. -/
theorem folder_of_makeFolders {names : List String} {made : Path} {ready : Disk}
    (done : disk.makeFolders made names = .ok ready)
    (folder : ready.node? other = some .folder) :
    disk.node? other = some .folder ∨ other <+: made ++ names := by
  induction names generalizing disk made with
  | nil =>
      cases done
      exact .inl folder
  | cons name names ih =>
      have onward : made ++ name :: names = made ++ [name] ++ names := by
        rw [List.append_assoc, List.singleton_append]
      rw [onward]
      simp only [makeFolders] at done
      split at done
      · exact ih done
      · cases done
      · rcases ih done with there | onTheWay
        · rw [node?_put] at there
          split at there
          · next same => exact .inr (same ▸ List.prefix_append _ _)
          · exact .inl there
        · exact .inr onTheWay

/-- Whether the folders of a path can be made: no file stands where one of them has to be. -/
def AdmitsFolders (disk : Disk) (folders : Path) : Prop :=
  ∀ front, front <+: folders → disk.file? front = none

theorem makeFolders_of_admits {names : List String} {made : Path}
    (admits : disk.AdmitsFolders (made ++ names)) :
    ∃ ready, disk.makeFolders made names = .ok ready := by
  induction names generalizing disk made with
  | nil => exact ⟨disk, rfl⟩
  | cons name names ih =>
      have onward : made ++ name :: names = made ++ [name] ++ names := by
        rw [List.append_assoc, List.singleton_append]
      rw [onward] at admits
      simp only [makeFolders]
      split
      · exact ih admits
      · next octets file =>
          have none := admits _ (List.prefix_append _ _)
          rw [file?, file] at none
          cases none
      · next free =>
          exact ih fun front before => (file?_put_folder free front).trans (admits front before)

/-- Whether a file can be written to a path. -/
structure Admits (disk : Disk) (path : Path) : Prop where
  below : path ≠ []
  noFolder : disk.node? path ≠ some .folder
  folders : disk.AdmitsFolders path.dropLast

theorem not_prefix_dropLast (below : path ≠ []) : ¬ path <+: path.dropLast := by
  intro before
  have shorter := before.length_le
  rw [List.length_dropLast] at shorter
  have some := List.length_pos_iff.mpr below
  omega

/-- A file can be written once the folders have been made. -/
theorem write_of_admits (admits : disk.Admits path) {ready : Disk}
    (done : disk.makeFolders [] path.dropLast = .ok ready) (octets : Bytes) :
    ready.write path octets = .ok (ready.put path (.file octets)) := by
  have named : path.isEmpty = false := by simpa using admits.below
  have noFolder : (ready.node? path == some .folder) = false := by
    rw [beq_eq_false_iff_ne]
    intro folder
    rcases folder_of_makeFolders done folder with there | before
    · exact admits.noFolder there
    · exact not_prefix_dropLast admits.below before
  rw [write, named, noFolder]
  rfl

end Disk

/-! ## Reports -/

namespace Counters

theorem sorted_perm (c : Counters) : c.sorted.Perm c.entries :=
  List.mergeSort_perm _ _

/-- The names of a report ascend, and none is repeated. -/
theorem pairwise_sorted {c : Counters} (unique : c.names.Nodup) :
    (Fields.keys c.sorted).Pairwise (· < ·) := by
  let below (a b : String × Int) : Bool := decide (a.1 ≤ b.1)
  have transitive (a b d : String × Int) (first : below a b = true) (second : below b d = true) :
      below a d = true :=
    decide_eq_true (String.le_trans (of_decide_eq_true first) (of_decide_eq_true second))
  have connected (a b : String × Int) : (below a b || below b a) = true := by
    simpa [below] using String.le_total a.1 b.1
  have ascending : (Fields.keys c.sorted).Pairwise (· ≤ ·) :=
    List.pairwise_map.mpr <|
      (List.pairwise_mergeSort transitive connected c.entries).imp fun le => of_decide_eq_true le
  have distinct : (Fields.keys c.sorted).Nodup :=
    (c.sorted_perm.map Prod.fst).nodup_iff.mpr unique
  refine (ascending.and distinct).imp fun {a b} both => ?_
  exact Std.lt_of_le_of_ne both.1 both.2

/-- The value of a report. -/
def reportValue (c : Counters) (t : Calendar.Instant) : Value :=
  .table
    [("counters", .table (c.sorted.map fun (name, n) => (name, .int n))),
      ("generated_at", .text t.extended)]

theorem isPlain_ints (entries : List (String × Int)) :
    Json.ArePlainFields (entries.map fun (name, n) => (name, .int n)) := by
  induction entries with
  | nil => trivial
  | cons entry entries ih => exact ⟨trivial, ih⟩

theorem isPlain_reportValue {c : Counters} (unique : c.names.Nodup) (t : Calendar.Instant) :
    Json.IsPlain (c.reportValue t) := by
  have names : Fields.keys (c.sorted.map fun (name, n) => (name, Value.int n)) =
      Fields.keys c.sorted := by
    rw [Fields.keys, List.map_map]
    rfl
  have distinct : (Fields.keys c.sorted).Nodup :=
    (c.sorted_perm.map Prod.fst).nodup_iff.mpr unique
  have apart : ["counters", "generated_at"].Nodup := by decide
  exact ⟨apart, ⟨names ▸ distinct, isPlain_ints _⟩, trivial, trivial⟩

/-- The numbers that 64 bits can hold, with a sign or without. -/
def Fits (n : Int) : Prop := -2 ^ 63 ≤ n ∧ n < 2 ^ 64

theorem inRange_iff (n : Int) : inRange n = true ↔ Fits n := by
  have signed : Decimal.twoTo 63 = 2 ^ 63 := rfl
  have unsigned : Decimal.twoTo 64 = 2 ^ 64 := rfl
  rw [inRange, signed, unsigned, Bool.and_eq_true, decide_eq_true_eq, decide_eq_true_eq]
  rfl

variable {c : Counters} {clock : Calendar.Reading} {t : Calendar.Instant}

theorem report_of_fits (timed : clock.instant? = some t) (fits : ∀ entry ∈ c.entries, Fits entry.2) :
    c.report clock = .ok (Json.write .report (c.reportValue t)) := by
  have all : (c.entries.all fun entry => inRange entry.2) = true :=
    List.all_eq_true.mpr fun entry member => (inRange_iff entry.2).mpr (fits entry member)
  simp only [report, timed, all, if_true]
  rfl

theorem report_of_misfit (timed : clock.instant? = some t)
    (misfit : ∃ entry ∈ c.entries, ¬ Fits entry.2) : c.report clock = .error .outOfRange := by
  obtain ⟨entry, member, beyond⟩ := misfit
  have some : ¬ (c.entries.all fun entry => inRange entry.2) = true := fun all =>
    beyond ((inRange_iff entry.2).mp (List.all_eq_true.mp all entry member))
  simp only [report, timed, if_neg some]

/-! ## Exports -/

/-- The octets of a JSON text that denotes a value, and no other. -/
structure IsJsonFor (octets : Bytes) (v : Value) : Prop where
  denotes : ∃ cs, Utf8.decode octets = .ok cs ∧ Json.IsTextOf cs v ∧ Json.read? cs = some v
  only : ∀ cs w, Utf8.decode octets = .ok cs → Json.IsTextOf cs w → w = v

theorem isJsonFor_write {v : Value} (plain : Json.IsPlain v) :
    IsJsonFor (Utf8.encode (Json.write .report v)) v := by
  have written : Json.IsTextOf (Json.write .report v).toList v := by
    have denotes := Json.denotes_writeAt Json.separates_report 0 plain
    simpa [Json.write] using Json.IsTextOf.mk Json.isBlank_nil Json.isBlank_nil denotes
  refine ⟨⟨_, Utf8.decode_encode _, written, written.read⟩, fun cs w decoded isText => ?_⟩
  rw [Utf8.decode_encode] at decoded
  cases decoded
  exact isText.unique written

/-- What an export does: if all counts fit in 64 bits, the file is JSON text for the counts in
ascending order and the time, which is read back; if one does not, the file stays as it was.
Other files are not changed. -/
structure Exports (c : Counters) (t : Calendar.Instant) (path : Path) (disk : Disk)
    (outcome : Exported) : Prop where
  written : (∀ entry ∈ c.entries, Fits entry.2) → outcome.result = .ok path ∧
    ∃ octets listed, outcome.disk.file? path = some octets ∧
      IsJsonFor octets (.table
        [("counters", .table (listed.map fun (name, n) => (name, .int n))),
          ("generated_at", .text t.extended)]) ∧
      listed.Perm c.entries ∧ (Fields.keys listed).Pairwise (· < ·)
  timed : 1000 ≤ t.date.year → Calendar.Instant.readExtended? t.extended = some t
  refused : (∃ entry ∈ c.entries, ¬ Fits entry.2) →
    (∃ e, outcome.result = .error e ∧ e.kind = "TypeError" ∧
      e.message = "Integer exceeds 64-bit range") ∧
    outcome.disk.file? path = disk.file? path
  others : ∀ other ≠ path, outcome.disk.file? other = disk.file? other

theorem exports_of_denotes (amounts : List (String × Int))
    (fraction : clock.time.microsecond < 1000000) (denotes : clock.Denotes t) {disk : Disk}
    {path : Path} (admits : disk.Admits path) :
    Exports (initial.addAll amounts) t path disk
      ((initial.addAll amounts).exportTo clock path disk) := by
  have unique := nodup_names_addAll nodup_names_initial amounts
  generalize initial.addAll amounts = c at unique
  have timed := (Calendar.Reading.instant?_eq_some_iff fraction).mpr denotes
  have folders : disk.AdmitsFolders ([] ++ path.dropLast) := admits.folders
  obtain ⟨ready, made⟩ := Disk.makeFolders_of_admits folders
  have kept := Disk.file?_of_makeFolders made
  have ended (fits : ∀ entry ∈ c.entries, Fits entry.2) : c.exportTo clock path disk =
      ⟨ready.put path (.file (Utf8.encode (Json.write .report (c.reportValue t)))), .ok path⟩ := by
    simp only [exportTo, made, report_of_fits timed fits, Disk.write_of_admits admits made]
  have failed (misfit : ∃ entry ∈ c.entries, ¬ Fits entry.2) : c.exportTo clock path disk =
      ⟨ready, .error (.report .outOfRange)⟩ := by
    simp only [exportTo, made, report_of_misfit timed misfit]
  refine ⟨fun fits => ?_, fun padded => ?_, fun misfit => ?_, fun other apart => ?_⟩
  · rw [ended fits]
    exact ⟨rfl, _, c.sorted, Disk.file?_put_file ready path _,
      isJsonFor_write (isPlain_reportValue unique t), c.sorted_perm, pairwise_sorted unique⟩
  · exact Calendar.Instant.readExtended?_extended denotes.there padded
  · rw [failed misfit]
    exact ⟨⟨_, rfl, rfl, rfl⟩, kept path⟩
  · by_cases fits : ∀ entry ∈ c.entries, Fits entry.2
    · rw [ended fits, Disk.file?_put_of_ne apart]
      exact kept other
    · rw [failed (by simpa using fits)]
      exact kept other

end Counters

namespace Sample

def noonInstant : Calendar.Instant := ⟨⟨2026, 10, 19⟩, 12, 0, 0⟩

/-- A disk with an earlier report. -/
def reported : Disk :=
  (Disk.put ⟨fun _ => none⟩ ["reports"] .folder).put ["reports", "counts.json"] (.file [0x7B, 0x7D])

/-- Amounts at both ends of the range, under names that have to be escaped. -/
def amounts : List (String × Int) :=
  [("say \"é\"\\\n", 18446744073709551614), ("\x01", -9223372036854775808),
    ("say \"é\"\\\n", 1)]

end Sample

open Sample in
theorem Counters.exports_escapedNames :
    noon.time.microsecond < 1000000 ∧ noon.Denotes noonInstant ∧
      reported.Admits ["reports", "counts.json"] ∧
      (∀ entry ∈ (Counters.initial.addAll amounts).entries, Counters.Fits entry.2) ∧
      Counters.Exports (Counters.initial.addAll amounts) noonInstant ["reports", "counts.json"]
        reported
        ((Counters.initial.addAll amounts).exportTo noon ["reports", "counts.json"] reported) := by
  have fraction : noon.time.microsecond < 1000000 := by decide
  have denotes : noon.Denotes noonInstant := ⟨by decide, by decide⟩
  have admits : reported.Admits ["reports", "counts.json"] := by
    refine ⟨by decide, by decide, fun front before => ?_⟩
    rcases List.prefix_cons_iff.mp before with rfl | ⟨names, rfl, last⟩
    · rfl
    · rw [List.prefix_nil.mp last]
      rfl
  have fits : ∀ entry ∈ (Counters.initial.addAll amounts).entries, Counters.Fits entry.2 := by
    unfold Counters.Fits
    decide
  exact ⟨fraction, denotes, admits, fits,
    Counters.exports_of_denotes amounts fraction denotes admits⟩

end BucketRegion

import BucketRegion.Client.Lookup

/-!
# Batches

The regions of several buckets in one report. Failures that have to do with one bucket, or with
the service or the way to it, are part of the report; any other failure ends the batch.
-/

set_option autoImplicit false

namespace BucketRegion.Batch

/-- The regions that were found, and what is known of the buckets that have none. -/
structure Report where
  locations : List (String × String)
  errors : List (String × Value)

def Report.empty : Report := ⟨[], []⟩

/-- The report as a table. -/
def Report.value (r : Report) : Value :=
  .table
    [("locations", .table (r.locations.map fun (bucket, region) => (bucket, .text region))),
      ("errors", .table r.errors)]

/-- What a report says of an error; none if the error ends the batch. -/
def entryOf? (e : LookupError) : Option Value :=
  let message : Value := .table [("message", .text e.message)]
  let unlessOther (kind : Http.FailureKind) : Option Value :=
    if kind == .other then none else some message
  match e with
  | .service e => some (.table e.fields)
  | .location (.undecodable _ _) => some message
  | .location (.encoding _) => none
  | .serviceDocument _ => none
  | .query _ => none
  | .send e => unlessOther e.kind
  | .read e => unlessOther e.kind

/-- Puts the result of a lookup into a report, unless it ends the batch. -/
def record (report : Report) (bucket : String) :
    Except LookupError String → Except LookupError Report
  | .ok region => .ok { report with locations := Fields.put bucket region report.locations }
  | .error e =>
      match entryOf? e with
      | some entry => .ok { report with errors := Fields.put bucket entry report.errors }
      | none => .error e

/-- Looks up buckets in order and adds them to a report. -/
def resolveInto (transport : Http.Transport) (clock : Calendar.Reading) :
    Client → Report → List String → Outcome (Except LookupError Report)
  | c, report, [] => ⟨c, .ok report, []⟩
  | c, report, bucket :: buckets =>
      let first := c.lookup transport clock bucket
      match record report bucket first.result with
      | .error e => ⟨first.client, .error e, first.journal⟩
      | .ok report =>
          let rest := resolveInto transport clock first.client report buckets
          { rest with journal := first.journal ++ rest.journal }

/-- The report on some buckets. -/
def resolve (c : Client) (transport : Http.Transport) (clock : Calendar.Reading)
    (buckets : List String) : Outcome (Except LookupError Report) :=
  resolveInto transport clock c .empty buckets

end BucketRegion.Batch

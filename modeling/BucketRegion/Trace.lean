import BucketRegion.Event
import BucketRegion.Value.Number

/-!
# Traces

The events that follow one lookup: the time that a stretch of work took, and what the service
answered. A run has a name, which all entries of its own thread carry.
-/

set_option autoImplicit false

namespace BucketRegion.Trace

/-- The fields that entries of a named run carry. -/
def runFields (name : String) : List (String × Value) := [("run_id", .text name)]

/-- The start of a named run. -/
def runStarted (name : String) : Event :=
  ⟨"bucketloc.trace", .debug, "trace_context", runFields name⟩

/-- A stretch of work that took some milliseconds, for a bucket if there is one. -/
def span (name : String) (bucket : Option String) (elapsed : Int) : Event :=
  ⟨"bucketloc.trace", .info, "trace_span",
    [("span", .text name), ("bucket", bucket.elim .null .text), ("elapsed_ms", .int elapsed)]⟩

/-- What the service answered to a location query. -/
def locationResult (bucket url : String) (status bytes elapsed : Int) : Event :=
  ⟨"bucketloc.trace", .info, "location_result",
    [("bucket", .text bucket), ("url", .text url), ("status", .int status), ("bytes", .int bytes),
      ("elapsed_ms", .int elapsed)]⟩

end BucketRegion.Trace

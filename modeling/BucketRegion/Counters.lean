import BucketRegion.Calendar.Clock
import BucketRegion.Decimal.Power
import BucketRegion.Json.Writer
import BucketRegion.Value.Number
import BucketRegion.Event

/-!
# Counters

Named counts of what lookups did. Some names are counted from the start, so that a report shows
them even if nothing happened. A report is JSON text with the names in ascending order.
-/

set_option autoImplicit false

namespace BucketRegion

/-- Counts by name, in order of first use. -/
structure Counters where
  entries : List (String × Int)
  deriving Repr, DecidableEq

namespace Counters

/-- The counts of lookups that every report shows. -/
def lookupNames : List String :=
  ["location_requests", "location_cache_hits", "location_cache_misses", "anonymous_lookups",
    "decode_failures", "transport_errors"]

def initial : Counters := ⟨lookupNames.map fun name => (name, 0)⟩

/-- The count of a name; one that was never counted is zero. -/
def get (c : Counters) (name : String) : Int :=
  (Fields.get? name c.entries).getD 0

def add (c : Counters) (name : String) (amount : Int) : Counters :=
  ⟨Fields.put name (c.get name + amount) c.entries⟩

def incr (c : Counters) (name : String) : Counters := c.add name 1

/-- The name under which answers of a status are counted: by its hundreds. -/
def statusName (status : Int) : String :=
  "http_" ++ Decimal.integerText (status.fdiv 100) ++ "xx"

def incrStatus (c : Counters) (status : Int) : Counters := c.incr (statusName status)

/-- Why there is no report. -/
inductive ReportError where
  | outOfRange
  | noTime

def ReportError.message : ReportError → String
  | .outOfRange => "Integer exceeds 64-bit range"
  | .noTime => "date value out of range"

/-- The numbers that a report can hold: signed or unsigned, in 64 bits. -/
def inRange (n : Int) : Bool :=
  -Int.ofNat (Decimal.twoTo 63) ≤ n && n < Int.ofNat (Decimal.twoTo 64)

/-- The counts in ascending order of their names. -/
def sorted (c : Counters) : List (String × Int) :=
  c.entries.mergeSort fun a b => a.1 ≤ b.1

/-- The report of the counts at a reading of the clock. -/
def report (c : Counters) (clock : Calendar.Reading) : Except ReportError String :=
  match clock.instant? with
  | none => .error .noTime
  | some instant =>
      if c.entries.all fun entry => inRange entry.2 then
        .ok <| Json.write .report <| .table
          [("counters", .table (c.sorted.map fun (name, n) => (name, .int n))),
            ("generated_at", .text instant.extended)]
      else .error .outOfRange

/-- The whole milliseconds between two readings of a clock that counts seconds, rounded toward
zero. -/
def milliseconds (start stop : Float) : Except NumberError Int :=
  truncateFloat ((stop - start) * 1000)

/-- Adds the milliseconds that a block took to a count, and reports them. -/
def addDuration (c : Counters) (name : String) (elapsed : Int) : Counters × Event :=
  (c.add name elapsed,
    ⟨"bucketloc.counters", .info, "timer_stop",
      [("metric", .text name), ("duration_ms", .int elapsed)]⟩)

/-- Adds the time between two readings of a clock to a count, and reports it. -/
def recordDuration (c : Counters) (name : String) (start stop : Float) :
    Except NumberError (Counters × Event) :=
  (milliseconds start stop).map (c.addDuration name)

end Counters

end BucketRegion

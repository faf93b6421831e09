import BucketRegion.Event
import BucketRegion.Http.Response
import BucketRegion.Http.Request

/-!
# Journals

What a client does that can be seen from outside, in order: the requests that it hands to the
transport, the responses that it gets and closes, and the events that it reports.
-/

set_option autoImplicit false

namespace BucketRegion

inductive Action where
  | send (request : Http.Request)
  | receive (response : Http.Response)
  /-- The last response is closed. -/
  | close
  | report (event : Event)

abbrev Journal := List Action

namespace Journal

/-- The requests that were handed to the transport. -/
def sent (journal : Journal) : List Http.Request :=
  journal.filterMap fun
    | .send request => some request
    | _ => none

/-- The events that were reported. -/
def events (journal : Journal) : List Event :=
  journal.filterMap fun
    | .report event => some event
    | _ => none

/-- For each response, the last one first, whether it has been closed; `closed` tells it of those
before. -/
def closedAfter (closed : List Bool) : Journal → List Bool
  | [] => closed
  | .receive _ :: rest => closedAfter (false :: closed) rest
  | .close :: rest => closedAfter (true :: closed.drop 1) rest
  | _ :: rest => closedAfter closed rest

/-- For each response in order, whether it has been closed. -/
def closed (journal : Journal) : List Bool := (closedAfter [] journal).reverse

end Journal

end BucketRegion

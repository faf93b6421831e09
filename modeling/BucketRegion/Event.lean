import BucketRegion.Value.Basic

/-!
# Events

What the library reports while it works, and which reports a log keeps. The library's own loggers
keep information, all others only warnings and worse.
-/

set_option autoImplicit false

namespace BucketRegion

/-- How serious a report is. -/
inductive Level where
  | debug
  | info
  | warning
  | error
  | critical
  deriving Repr, DecidableEq

namespace Level

def name : Level → String
  | debug => "debug"
  | info => "info"
  | warning => "warning"
  | error => "error"
  | critical => "critical"

def rank : Level → Nat
  | debug => 10
  | info => 20
  | warning => 30
  | error => 40
  | critical => 50

end Level

/-- A report of a logger. -/
structure Event where
  logger : String
  level : Level
  name : String
  fields : List (String × Value)

namespace Event

/-- The family of the library's own loggers. -/
def family : String := "bucketloc"

/-- Whether a logger is the family's or one below it. -/
def isOwn (logger : String) : Bool :=
  logger == family || (logger.toList.take (family.length + 1) == family.toList ++ ['.'])

/-- Whether the log keeps the event. -/
def isKept (event : Event) : Bool :=
  (if isOwn event.logger then Level.info else Level.warning).rank ≤ event.level.rank

/-- The entry that the log keeps: the fields of the context, the event's own fields over them, the
event's name, and its level. Level and time stamp belong to the log, whatever the event says. -/
def entry (context : List (String × Value)) (event : Event) : List (String × Value) :=
  let merged := event.fields.foldl (fun all (key, value) => Fields.put key value all) context
  Fields.put "level" (.text event.level.name)
    (Fields.erase "timestamp" (Fields.put "event" (.text event.name) merged))

/-- The entries that the log keeps of a run of events. -/
def entries (context : List (String × Value)) (events : List Event) :
    List (List (String × Value)) :=
  (events.filter isKept).map (entry context)

/-- The fields that are printed where no log is set up: the event's own and its name, whatever
its level. -/
def bareFields (event : Event) : List (String × Value) :=
  event.fields ++ [("event", .text event.name)]

end Event

end BucketRegion

import BucketRegion.Batch
import BucketRegion.CommandLine.Arguments
import BucketRegion.Json.Writer

/-!
# Running commands

What a command comes to: what it prints, what it logs, what it sends and writes, and how it ends.
Lookups run apart from the thread of the command, so that their log entries do not carry the name
of the run.
-/

set_option autoImplicit false

namespace BucketRegion.CommandLine

/-- What a command finds around it. -/
structure Surroundings where
  /-- The octets of the settings file, if there is one. -/
  settingsFile : Option Bytes
  environment : List (String × String)
  clock : Calendar.Reading
  transport : Http.Transport

/-- Why a command breaks off. -/
inductive Problem where
  | noSettingsPath
  | document (e : Toml.Error)
  | settings (p : Settings.Problem)
  | concurrency (e : NumberError)
  | noTime
  | options (e : Client.OptionError)
  | query (e : Client.QueryError)
  | lookup (e : LookupError)
  | report (e : Counters.ReportError)

def Problem.message : Problem → String
  | noSettingsPath => "expected str, bytes or os.PathLike object, not list"
  | document e => e.message
  | settings p => p.message
  | concurrency e => e.message
  | noTime => "date value out of range"
  | options e => e.message
  | query e => e.message
  | lookup e => e.message
  | report e => e.message

/-- What a command comes to. -/
structure Result where
  /-- The exit code, unless the command breaks off. -/
  ending : Except Problem Nat
  output : String
  errors : String
  log : List (List (String × Value))
  journal : Journal
  /-- A file that is written: its path and text. -/
  written : Option (String × String)
  /-- The client that did it, as it is in the end. -/
  client : Option Client

namespace Result

/-- A command that breaks off before it has done anything. -/
def broken (p : Problem) : Result := ⟨.error p, "", "", [], [], none, none⟩

/-- A line that is not carried out. -/
def refused (r : Refusal) : Result := ⟨.ok r.code, r.output, r.errors, [], [], none, none⟩

end Result

/-- Text that is printed for a value. -/
def printed (v : Value) : String := Json.write .report v ++ "\n"

/-- The settings of a file; those of no file are empty. -/
def loadSettings (s : Surroundings) (path : Option String) : Except Problem Value :=
  match path, s.settingsFile with
  | none, _ => .error .noSettingsPath
  | some _, none => .ok (.table [])
  | some _, some octets =>
      match Toml.read octets with
      | .ok fields => .ok (.table fields)
      | .error e => .error (.document e)

/-- How many lookups run at a time: as the line says, unless it says zero, or else as the settings
say. The answer does not depend on it, but it has to be a number. -/
def concurrencyOf (document : Value) : Option Int → Except Problem Int
  | some n => if n != 0 then .ok n else fromSettings
  | none => fromSettings
where
  fromSettings : Except Problem Int := do
    let part ← (Settings.field? "resolve" document).mapError .settings
    let value ← (Settings.field? "concurrency" (part.getD (.table []))).mapError .settings
    ((value.getD (.int 4)).toInteger).mapError .concurrency

/-- The name of the count of the time that a run takes. -/
def durationName : String := "resolve_duration_ms"

/-- What a run reports when its time is stopped. -/
def stopped (context : List (String × Value)) (counters : Counters) :
    Counters × List (List (String × Value)) :=
  let (counters, event) := counters.addDuration durationName 0
  (counters, Event.entries context [event])

/-- Ends a run that has a report: prints it, writes the counts, and fails if there are errors. -/
def conclude (s : Surroundings) (report : Batch.Report) (metricsOut : Option String) (c : Client)
    (log : List (List (String × Value))) (journal : Journal) : Result :=
  let code := if report.errors.isEmpty then 0 else 1
  let result : Result := ⟨.ok code, printed report.value, "", log, journal, none, some c⟩
  match metricsOut.getD "" with
  | "" => result
  | path =>
      match c.counters.report s.clock with
      | .ok text => { result with written := some (path, text) }
      | .error e => { result with ending := .error (.report e) }

/-- Looks up buckets with a client in a run that has a context. The client is closed in the end. -/
def resolveWith (s : Surroundings) (context : List (String × Value)) (c : Client)
    (buckets : List String) (metricsOut : Option String) : Result :=
  let outcome := Batch.resolve c s.transport s.clock buckets
  let (counters, timer) := stopped context outcome.client.counters
  let client := { outcome.client.close with counters := counters }
  let log := Event.entries context [c.created] ++ Event.entries [] outcome.journal.events ++ timer
  match outcome.result with
  | .ok report => conclude s report metricsOut client log outcome.journal
  | .error e => ⟨.error (.lookup e), "", "", log, outcome.journal, none, some client⟩

/-- The command that looks up buckets. -/
def resolve (s : Surroundings) (document : Value) (buckets : List String)
    (concurrency : Option Int) (metricsOut : Option String) : Result :=
  let prepared : Except Problem (Settings × Calendar.Instant) := do
    let settings ← (Settings.ofValue document s.environment).mapError .settings
    let _ ← concurrencyOf document concurrency
    match s.clock.instant? with
    | none => .error .noTime
    | some instant => return (settings, instant)
  match prepared with
  | .error p => .broken p
  | .ok (settings, instant) =>
      let context := Trace.runFields instant.runName
      match Client.new (.ofSettings settings) s.clock with
      | .error e => { Result.broken (.options e) with log := (stopped context .initial).2 }
      | .ok c => resolveWith s context c buckets metricsOut

/-- What is told of a query. -/
def explanation (c : Client) (bucket : String) (query : Http.Request) : Value :=
  .table
    [("bucket", .text bucket), ("anonymous", .bool c.anonymous),
      ("signature_version", .text c.signer.version.name), ("method", .text query.method),
      ("url", .text query.url.text),
      ("headers", .table (query.headers.merged.map fun (name, value) => (name, .text value)))]

/-- The command that shows the query for a bucket and does not send it. -/
def explain (s : Surroundings) (document : Value) (bucket : String) : Result :=
  match Settings.ofValue document s.environment with
  | .error p => .broken (.settings p)
  | .ok settings =>
      match Client.new (.ofSettings settings) s.clock with
      | .error e => .broken (.options e)
      | .ok c =>
          let log := Event.entries [] [c.created]
          match c.query s.clock bucket with
          | .error e => { Result.broken (.query e) with log := log, client := some c.close }
          | .ok query =>
              ⟨.ok 0, printed (explanation c bucket query), "", log, [], none, some c.close⟩

/-- Carries out a command. -/
def run (s : Surroundings) (arguments : Arguments) : Result :=
  match loadSettings s arguments.settings with
  | .error p => .broken p
  | .ok document =>
      match arguments.command with
      | .resolve buckets concurrency metricsOut =>
          resolve s document buckets concurrency metricsOut
      | .explain bucket => explain s document bucket

end BucketRegion.CommandLine

import BucketRegion.CommandLine.Run
import Std.Time.DateTime.Timestamp

/-!
# The program

Reads the command line, the environment, the settings file and the clock, runs the command, and
writes what it comes to. Log entries go to the standard error. This build has no sockets, so every
request fails on its way.
-/

set_option autoImplicit false

namespace BucketRegion.Program

/-- The way to the service: there is none. -/
def unreachable : Http.Transport := fun _ =>
  .error ⟨.transport, "ConnectError", "[Errno 101] Network is unreachable"⟩

/-- A reading of the clock in universal time, `seconds` after the start of 1970. -/
def readingOf (seconds : Int) : Calendar.Reading :=
  let n := seconds.toNat
  ⟨Calendar.Date.ofOrdinal (n / 86400 + Http.ExpiryDate.epochOrdinal),
    ⟨n / 3600 % 24, n / 60 % 60, n % 60, 0⟩, 0⟩

def clock : IO Calendar.Reading := do
  let now ← Std.Time.Timestamp.now
  return readingOf now.toSecondsSinceUnixEpoch.val

/-- The variables that hold the keys, as far as they are set. -/
def environment : IO (List (String × String)) := do
  let names := [Settings.accessKeyVariable, Settings.secretKeyVariable]
  names.filterMapM fun name => do return (← IO.getEnv name).map (name, ·)

/-- The octets of a file, if it is there. -/
def readFile? (path : String) : IO (Option Bytes) := do
  try
    return some (← IO.FS.readBinFile path).toList
  catch
    | .noFileOrDirectory .. => return none
    | problem => throw problem

/-- Writes a file, and makes the folders that it is in. -/
def writeFile (path text : String) : IO Unit := do
  match Text.cutLast? '/' path.toList with
  | some (folder, _) => if !folder.isEmpty then IO.FS.createDirAll (String.ofList folder)
  | none => pure ()
  IO.FS.writeFile path text

/-- Shows what a command came to, and gives its exit code. -/
def conclude (stamp : String) (result : CommandLine.Result) : IO UInt32 := do
  for entry in result.log do
    let line := Fields.put "timestamp" (.text stamp) entry
    IO.eprintln (Json.write .logLine (.table line))
  IO.print result.output
  IO.eprint result.errors
  match result.written with
  | some (path, text) => writeFile path text
  | none => pure ()
  match result.ending with
  | .ok code => return code.toUInt32
  | .error problem =>
      IO.eprintln problem.message
      return 1

def main (words : List String) : IO UInt32 := do
  let clock ← clock
  let stamp := clock.instant?.elim "" Calendar.Instant.extended
  match CommandLine.Arguments.read words with
  | .error refusal => conclude stamp (.refused refusal)
  | .ok arguments =>
      let file ← match arguments.settings with
        | some path => readFile? path
        | none => pure none
      conclude stamp (CommandLine.run ⟨file, ← environment, clock, unreachable⟩ arguments)

end BucketRegion.Program

def main (words : List String) : IO UInt32 := BucketRegion.Program.main words

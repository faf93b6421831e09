import BucketRegion.CommandLine.Grammar

/-!
# Arguments

The two commands, what their lines look like, and the texts that explain them.
-/

set_option autoImplicit false

namespace BucketRegion.CommandLine

/-- What is to be done. -/
inductive Command where
  | resolve (buckets : List String) (concurrency : Option Int) (metricsOut : Option String)
  | explain (bucket : String)
  deriving Repr, DecidableEq

/-- A command, and the path of the settings, if there is one. -/
structure Arguments where
  settings : Option String
  command : Command
  deriving Repr, DecidableEq

def defaultSettings : String := "config/settings.toml"

def helpFlags : List (String × Flag) := [("-h", .help), ("--help", .help)]

def topGrammar : Grammar where
  program := "bucketloc"
  usage := "bucketloc [-h] [--settings SETTINGS] \x7bresolve,explain\x7d ..."
  description := "Bucket region discovery

positional arguments:
  \x7bresolve,explain\x7d
    resolve            Resolve the region of one or more buckets
    explain            Print the signed location request without sending it

options:
  -h, --help           show this help message and exit
  --settings SETTINGS  Path to settings TOML
"
  flags := helpFlags ++ [("--settings", .settings)]
  operand := .remainder
  operandName := "command"

def resolveGrammar : Grammar where
  program := "bucketloc resolve"
  usage := "bucketloc resolve [-h] [--concurrency CONCURRENCY]
                         [--metrics-out METRICS_OUT]
                         buckets [buckets ...]"
  description := "positional arguments:
  buckets               Bucket names

options:
  -h, --help            show this help message and exit
  --concurrency CONCURRENCY
                        Number of parallel lookups
  --metrics-out METRICS_OUT
                        Write counters to this JSON file
"
  flags := helpFlags ++ [("--concurrency", .concurrency), ("--metrics-out", .metricsOut)]
  operand := .many
  operandName := "buckets"

def explainGrammar : Grammar where
  program := "bucketloc explain"
  usage := "bucketloc explain [-h] bucket"
  description := "positional arguments:
  bucket      Bucket name

options:
  -h, --help  show this help message and exit
"
  flags := helpFlags
  operand := .one
  operandName := "bucket"

/-- A line that is not carried out, and whose line it is. -/
structure Refusal where
  grammar : Grammar
  stop : Stop
  deriving Repr, DecidableEq

namespace Refusal

def usageLine (r : Refusal) : String := "usage: " ++ r.grammar.usage ++ "\n"

/-- What goes to the standard output. -/
def output (r : Refusal) : String :=
  match r.stop with
  | .help => r.usageLine ++ "\n" ++ r.grammar.description
  | .fault _ => ""

/-- What goes to the standard error. -/
def errors (r : Refusal) : String :=
  match r.stop with
  | .help => ""
  | .fault f => r.usageLine ++ r.grammar.program ++ ": error: " ++ f.message ++ "\n"

/-- The exit code. -/
def code (r : Refusal) : Nat :=
  match r.stop with
  | .help => 0
  | .fault _ => 2

end Refusal

/-- Reads the words of a line by a grammar. -/
def readBy (g : Grammar) (words : List String) : Except Refusal (Line × List String) :=
  (g.read words).mapError (⟨g, ·⟩)

/-- The whole number that a value stands for. -/
def integer? (value : String) : Option Int := (Decimal.readInteger value).toOption

/-- Reads the words that follow the name of a command; words without meaning are told besides. -/
def readCommand (name : String) (words : List String) : Except Refusal (Command × List String) :=
  if name == "resolve" then do
    let (line, buckets) ← readBy resolveGrammar words
    let value? (flag : Flag) : Option String := (line.value? flag).join
    return (.resolve buckets ((value? .concurrency).bind integer?) (value? .metricsOut),
      line.extras)
  else if name == "explain" then do
    let (line, operand) ← readBy explainGrammar words
    return (.explain ("".intercalate operand), line.extras)
  else
    throw ⟨topGrammar, .fault (.noChoice topGrammar.operandName name ["resolve", "explain"])⟩

/-- Reads a command line without the name of the program. -/
def Arguments.read (words : List String) : Except Refusal Arguments := do
  let (line, operand) ← readBy topGrammar words
  let (command, more) ← readCommand (operand.headD "") (operand.drop 1)
  match line.extras ++ more with
  | [] => return ⟨(line.value? .settings).getD (some defaultSettings), command⟩
  | extras => throw ⟨topGrammar, .fault (.unrecognized extras)⟩

end BucketRegion.CommandLine

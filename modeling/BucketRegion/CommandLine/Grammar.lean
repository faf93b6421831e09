import BucketRegion.Decimal.Numeral
import BucketRegion.Text.Quoted
import BucketRegion.Text.Split

/-!
# Grammars of command lines

What the words on a command line mean to a command: which are flags, in full or shortened, which
are values of flags, and which are operands. Two hyphens alone end the flags.
-/

set_option autoImplicit false

namespace BucketRegion.CommandLine

/-- What a word with hyphens in front asks for. -/
inductive Flag where
  | help
  | settings
  | concurrency
  | metricsOut
  deriving Repr, DecidableEq

/-- How messages call a flag. -/
def Flag.label : Flag → String
  | help => "-h/--help"
  | settings => "--settings"
  | concurrency => "--concurrency"
  | metricsOut => "--metrics-out"

/-- What a command takes besides flags. -/
inductive Operand where
  /-- One word. -/
  | one
  /-- All words up to the next flag, and one at least. -/
  | many
  /-- A word and all that follows it, flags too. -/
  | remainder
  deriving Repr, DecidableEq

/-- What a command knows of its line: the spellings of its flags in order, and its operand. -/
structure Grammar where
  program : String
  usage : String
  description : String
  flags : List (String × Flag)
  operand : Operand
  operandName : String
  deriving Repr, DecidableEq

/-- What is wrong with a line. -/
inductive Fault where
  | noValue (flag : Flag)
  | needlessValue (flag : Flag) (value : String)
  | notInteger (flag : Flag) (value : String)
  | noChoice (operand value : String) (choices : List String)
  | missing (operand : String)
  | ambiguous (word : String) (spellings : List String)
  | unrecognized (words : List String)
  deriving Repr, DecidableEq

def Fault.message : Fault → String
  | noValue flag => "argument " ++ flag.label ++ ": expected one argument"
  | needlessValue flag value =>
      "argument " ++ flag.label ++ ": ignored explicit argument " ++ Text.quoted value
  | notInteger flag value =>
      "argument " ++ flag.label ++ ": invalid int value: " ++ Text.quoted value
  | noChoice operand value choices =>
      "argument " ++ operand ++ ": invalid choice: " ++ Text.quoted value ++ " (choose from " ++
        ", ".intercalate (choices.map Text.quoted) ++ ")"
  | missing operand => "the following arguments are required: " ++ operand
  | ambiguous word spellings =>
      "ambiguous option: " ++ word ++ " could match " ++ ", ".intercalate spellings
  | unrecognized words => "unrecognized arguments: " ++ " ".intercalate words

/-- Why a line is not carried out. -/
inductive Stop where
  /-- The line asks for help. -/
  | help
  | fault (f : Fault)
  deriving Repr, DecidableEq

/-! ## Words -/

/-- What a word is to a command. -/
inductive Token where
  | word (text : String)
  | separator
  | flag (flag : Flag) (spelling : String) (value : Option String) (text : String)
  /-- A flag that the command does not have. -/
  | unknown (text : String)
  deriving Repr, DecidableEq

namespace Token

def text : Token → String
  | word text => text
  | separator => "--"
  | flag _ _ _ text => text
  | unknown text => text

def isWord : Token → Bool
  | word _ => true
  | _ => false

def isFlag : Token → Bool
  | flag .. => true
  | unknown _ => true
  | _ => false

end Token

/-- Whether a word is a negative number, with or without a point. -/
def isNegative (text : String) : Bool :=
  let isDigit (c : Char) : Bool := (Text.digitValue? c).isSome
  match text.toList with
  | '-' :: body =>
      match body.dropWhile isDigit with
      | [] => !body.isEmpty
      | '.' :: fraction => !fraction.isEmpty && fraction.all isDigit
      | _ => false
  | _ => false

/-- The text before the first equals sign, and the text after it. -/
def splitValue (text : String) : String × Option String :=
  match Text.cutText? '=' text with
  | some (name, value) => (name, some value)
  | none => (text, none)

namespace Grammar

/-- The flags that a word may mean though it is none of their spellings: the start of a long
spelling, or a short one with its value. -/
def guesses (g : Grammar) (text : String) : List Token :=
  let isStart (start spelling : String) : Bool := start.toList.isPrefixOf spelling.toList
  g.flags.filterMap fun (spelling, flag) =>
    if isStart "--" text then
      let (name, value) := splitValue text
      if isStart name spelling then some (.flag flag spelling value text) else none
    else if spelling.toList == text.toList.take 2 then
      some (.flag flag spelling (some (String.ofList (text.toList.drop 2))) text)
    else if isStart text spelling then some (.flag flag spelling none text)
    else none

/-- What a word that starts with a hyphen is. -/
def hyphenToken (g : Grammar) (text : String) : Except Fault Token :=
  let (name, value) := splitValue text
  match g.flags.lookup text, value.bind fun _ => g.flags.lookup name with
  | some flag, _ => .ok (.flag flag text none text)
  | none, some flag => .ok (.flag flag name value text)
  | none, none =>
      if text == "-" then .ok (.word text)
      else
        match g.guesses text with
        | [token] => .ok token
        | [] =>
            if isNegative text || text.toList.contains ' ' then .ok (.word text)
            else .ok (.unknown text)
        | tokens =>
            .error (.ambiguous text (tokens.filterMap fun
              | .flag _ spelling _ _ => some spelling
              | _ => none))

/-- What the words of a line are. -/
def tokens (g : Grammar) : List String → Except Fault (List Token)
  | [] => .ok []
  | text :: rest =>
      if text == "--" then .ok (.separator :: rest.map .word)
      else do
        let token ← if text.toList.head? == some '-' then g.hyphenToken text else .ok (.word text)
        return token :: (← tokens g rest)

end Grammar

/-! ## Lines -/

/-- The tokens that an operand takes from the front of a line, and those that it leaves. -/
def Operand.take? : Operand → List Token → Option (List Token × List Token)
  | .one, .separator :: .word text :: rest => some ([.separator, .word text], rest)
  | .one, .word text :: .separator :: rest => some ([.word text, .separator], rest)
  | .one, .word text :: rest => some ([.word text], rest)
  | .one, _ => none
  | .many, tokens =>
      let run := tokens.takeWhile (!·.isFlag)
      if run.any Token.isWord then some (run, tokens.drop run.length) else none
  | .remainder, .separator :: .word text :: rest => some (.separator :: .word text :: rest, [])
  | .remainder, .word text :: rest => some (.word text :: rest, [])
  | .remainder, _ => none

/-- The words of an operand. The remainder of a line is left as it is. -/
def Operand.words (operand : Operand) (tokens : List Token) : List String :=
  match operand with
  | .remainder => tokens.map Token.text
  | _ => (tokens.filter Token.isWord).map Token.text

/-- What has been read of a line: the values of flags, the operand once it is there, and words
that have no meaning. A value of two hyphens counts as none. -/
structure Line where
  values : List (Flag × Option String)
  operand : Option (List String)
  extras : List String
  deriving Repr, DecidableEq

namespace Line

def empty : Line := ⟨[], none, []⟩

/-- The last value of a flag, if the flag is there. -/
def value? (line : Line) (flag : Flag) : Option (Option String) :=
  line.values.reverse.lookup flag

/-- Adds the value of a flag, which for some flags has to be a whole number. -/
def addValue (line : Line) (flag : Flag) (value : String) : Except Stop Line :=
  if value == "--" then .ok { line with values := line.values ++ [(flag, none)] }
  else
    match flag, Decimal.readInteger value with
    | .concurrency, .error _ => .error (.fault (.notInteger flag value))
    | _, _ => .ok { line with values := line.values ++ [(flag, some value)] }

end Line

/-- What a flag for help with a value in the same word comes to: the short spelling may be
repeated. -/
def helpWithValue (spelling value : String) : Stop :=
  let rest := value.toList.dropWhile (· == 'h')
  if spelling != "-h" then .fault (.needlessValue .help value)
  else if rest.isEmpty && value != "" then .help
  else .fault (.needlessValue .help (String.ofList rest))

/-- Takes a flag, and the word that is its value, from a line. -/
def takeFlag (line : Line) (flag : Flag) (spelling : String) (value : Option String)
    (rest : List Token) : Except Stop (Line × List Token) :=
  match flag, value, rest with
  | .help, none, _ => .error .help
  | .help, some value, _ => .error (helpWithValue spelling value)
  | flag, some value, rest => (line.addValue flag value).map fun line => (line, rest)
  | flag, none, .word value :: rest => (line.addValue flag value).map fun line => (line, rest)
  | flag, none, _ => .error (.fault (.noValue flag))

namespace Grammar

/-- Reads at most `fuel` flags and operands. Each of them takes a token at least. -/
def scan (g : Grammar) : Nat → Line → List Token → Except Stop Line
  | 0, line, _ => .ok line
  | _, line, [] => .ok line
  | fuel + 1, line, .unknown text :: rest =>
      g.scan fuel { line with extras := line.extras ++ [text] } rest
  | fuel + 1, line, .flag flag spelling value _ :: rest => do
      let (line, rest) ← takeFlag line flag spelling value rest
      g.scan fuel line rest
  | fuel + 1, line, tokens =>
      match if line.operand.isNone then g.operand.take? tokens else none with
      | some (taken, rest) =>
          g.scan fuel { line with operand := some (g.operand.words taken) } rest
      | none =>
          let skipped := tokens.takeWhile (!·.isFlag)
          g.scan fuel { line with extras := line.extras ++ skipped.map Token.text }
            (tokens.drop skipped.length)

/-- Reads the words of a line. The operand has to be there; extra words are left to the caller. -/
def read (g : Grammar) (words : List String) : Except Stop (Line × List String) := do
  let tokens ← (g.tokens words).mapError .fault
  let line ← g.scan tokens.length .empty tokens
  match line.operand with
  | some operand => return (line, operand)
  | none => .error (.fault (.missing g.operandName))

end Grammar

end BucketRegion.CommandLine

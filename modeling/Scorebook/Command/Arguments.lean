import Scorebook.Number.Range
import Scorebook.Text.Search

/-!
# Arguments of the command line

One question, and options in any order. The arguments are read from the left; the first mistake ends
the reading, and so does a request for the version or for help. Behind `--` there are no options.
-/

namespace Scorebook

/-- What the arguments ask for. -/
structure Arguments where
  /-- The question. -/
  question : String
  /-- The season to assume when the question names none. -/
  season : Option Int32
  /-- The file of settings. -/
  configPath : String
  /-- An intent to use instead of asking a language model. -/
  intent : Option String
  /-- Whether to show the plan instead of carrying it out. -/
  plan : Bool
  deriving DecidableEq, Repr

/-- What ends the reading of arguments early. -/
inductive EarlyEnd where
  /-- The arguments are not well formed. -/
  | usage
  /-- The version is asked for. -/
  | version
  /-- Help is asked for. -/
  | help
  deriving DecidableEq, Repr

namespace Arguments

/-- An option. -/
inductive Flag where
  /-- The options with a value. -/
  | season | config | intent
  /-- The options without one. -/
  | plan | version | help
  deriving DecidableEq, Repr

/-- The options by their long names. -/
def Flag.ofLong? : List Char → Option Flag := fun name =>
  [("season", Flag.season), ("config", .config), ("intent", .intent), ("plan", .plan),
    ("version", .version), ("help", .help)].lookup (String.ofList name)

/-- The options by their short names. -/
def Flag.ofShort? : Char → Option Flag
  | 's' => some .season
  | 'c' => some .config
  | 'V' => some .version
  | 'h' => some .help
  | _ => none

/-- What has been read so far. -/
structure Progress where
  /-- The question. -/
  question : Option String := none
  /-- The season. -/
  season : Option Int32 := none
  /-- The file of settings. -/
  configPath : Option String := none
  /-- The intent. -/
  intent : Option String := none
  /-- Whether the plan is asked for. -/
  plan : Bool := false

/-- A decimal number with a sign in front if need be. -/
def integer? (text : String) : Option Int :=
  let (negative, digits) := match text.toList with
    | '-' :: rest => (true, rest)
    | '+' :: rest => (false, rest)
    | cs => (false, cs)
  if digits.isEmpty || !digits.all Char.isDigit then none
  else
    let n : Int := digits.foldl (fun n c => n * 10 + (c.toNat - '0'.toNat)) 0
    some (if negative then -n else n)

/-- A season. -/
def season? (text : String) : Option Int32 :=
  ((integer? text).filter (IntRange.signed 32).holds).map Int32.ofInt

/-- A question added; there is only one. -/
def withQuestion (read : Progress) (text : String) : Except EarlyEnd Progress :=
  if read.question.isSome then .error .usage else .ok { read with question := some text }

/-- The value of an option added; an option is given once. -/
def withValue (read : Progress) (flag : Flag) (text : String) : Except EarlyEnd Progress :=
  match flag with
  | .season =>
    match season? text with
    | some season =>
      if read.season.isSome then .error .usage else .ok { read with season := some season }
    | none => .error .usage
  | .config =>
    if text.isEmpty || read.configPath.isSome then .error .usage
    else .ok { read with configPath := some text }
  | .intent =>
    if read.intent.isSome then .error .usage else .ok { read with intent := some text }
  | _ => .error .usage

/-- An option without a value added. -/
def withSwitch (read : Progress) : Flag → Except EarlyEnd Progress
  | .plan => if read.plan then .error .usage else .ok { read with plan := true }
  | .version => .error .version
  | .help => .error .help
  | _ => .error .usage

/-- Whether an option needs a value. -/
def Flag.needsValue : Flag → Bool
  | .season | .config | .intent => true
  | _ => false

/-- Whether an argument looks like an option, and so cannot be the value of one. -/
def looksLikeOption (text : String) : Bool :=
  match text.toList with
  | '-' :: _ :: _ => true
  | _ => false

/-- What an argument adds: a state, or an option that the next argument is the value of. -/
inductive Effect where
  /-- Nothing is owed. -/
  | done (read : Progress)
  /-- The next argument is the value of an option. -/
  | owes (read : Progress) (flag : Flag)

/-- A cluster of short options: the first one with a value takes the rest of the cluster, behind an
equals sign if there is one. -/
def shortOptions (read : Progress) : List Char → Except EarlyEnd Effect
  | [] => .ok (.done read)
  | c :: cs =>
    match Flag.ofShort? c with
    | none => .error .usage
    | some flag =>
      if flag.needsValue then
        match cs with
        | [] => .ok (.owes read flag)
        | '=' :: value => (withValue read flag (String.ofList value)).map .done
        | value => (withValue read flag (String.ofList value)).map .done
      else do
        shortOptions (← withSwitch read flag) cs

/-- A long option, with its value behind an equals sign if there is one. -/
def longOption (read : Progress) (text : List Char) : Except EarlyEnd Effect :=
  let (name, rest) := text.span (· != '=')
  match Flag.ofLong? name, rest with
  | none, _ => .error .usage
  | some flag, [] =>
    if flag.needsValue then .ok (.owes read flag) else (withSwitch read flag).map .done
  | some flag, _ :: value =>
    if flag.needsValue then (withValue read flag (String.ofList value)).map .done
    else .error .usage

/-- A single argument. -/
def argument (read : Progress) (text : String) : Except EarlyEnd Effect :=
  match text.toList with
  | '-' :: '-' :: name => longOption read name
  | '-' :: c :: cs => shortOptions read (c :: cs)
  | _ => (withQuestion read text).map .done

/-- The arguments behind the end of the options. -/
def questions (read : Progress) (texts : List String) : Except EarlyEnd Progress :=
  texts.foldlM withQuestion read

/-- The arguments from a state on. -/
def readAll (read : Progress) : (owed : Option Flag) → List String → Except EarlyEnd Progress
  | some _, [] => .error .usage
  | none, [] => .ok read
  | some flag, text :: rest =>
    if looksLikeOption text then .error .usage
    else do
      readAll (← withValue read flag text) none rest
  | none, "--" :: rest => questions read rest
  | none, text :: rest => do
    match ← argument read text with
    | .done read => readAll read none rest
    | .owes read flag => readAll read (some flag) rest

/-- The file of settings if none is named. -/
def defaultConfigPath : String := "config.yaml"

/-- What a list of arguments asks for. -/
def ofList (texts : List String) : Except EarlyEnd Arguments := do
  let read ← readAll {} none texts
  match read.question with
  | none => .error .usage
  | some question =>
    return {
      question
      season := read.season
      configPath := read.configPath.getD defaultConfigPath
      intent := read.intent
      plan := read.plan }

/-- The text that help shows. -/
def helpText : String :=
  Text.joinWith "\n"
    ["Answer baseball statistics questions with parameterized SQL",
     "",
     "Usage: statline-agent [OPTIONS] <QUESTION>",
     "",
     "Arguments:",
     "  <QUESTION>  The question, in plain English",
     "",
     "Options:",
     "  -s, --season <SEASON>  Season to assume when the question names none",
     "  -c, --config <CONFIG>  Configuration file [default: config.yaml]",
     "      --intent <INTENT>  Use this intent JSON instead of extracting one with the LLM",
     "      --plan             Print the compiled plan instead of running it",
     "  -h, --help             Print help",
     "  -V, --version          Print version",
     ""]

/-- The text that the version shows. -/
def versionText : String := "statline-agent 0.1.0\n"

end Arguments

end Scorebook

/-
Requests made in comments. A comment is addressed to the bot if its first word is
`/turnip`; the words after it on the same line name a command and narrow down the
projects it is for.
-/
import Groundwork.Project
import Groundwork.Text.Line
import Groundwork.Text.Quoted

set_option autoImplicit false

namespace Groundwork.Chat

/-- The word that a comment starts with to be addressed to the bot. -/
def trigger : String := "/turnip"

/-- What help says. -/
def usage : String :=
  "Usage:\n" ++
  "  /turnip [command] [flags]\n" ++
  "\n" ++
  "Available Commands:\n" ++
  "  plot        Plot your infrastructure (aliases: diff, plan, preview, pre)\n" ++
  "  lift        Lift your infrastructure (aliases: apply, deploy, up)\n" ++
  "  help        Show this message\n" ++
  "\n" ++
  "Flags:\n" ++
  "  -d, --directory string     the directory containing the IaC\n" ++
  "  -w, --workspace string     the Terraform workspace to use\n" ++
  "  -e, --environment string   the Helmfile environment to use\n" ++
  "  -s, --stack string         the Pulumi stack to use\n" ++
  "\n" ++
  "--workspace, --environment and --stack are mutually exclusive.\n"

/-- What a flag sets. -/
inductive Flag where
  | directory
  | scope (kind : WorkspaceKind)
deriving DecidableEq, Repr

/-- The flags. -/
def Flag.all : List Flag := [directory, scope .workspace, scope .environment, scope .stack]

/-- The flag written out. -/
def Flag.long : Flag → String
  | directory => "--directory"
  | scope kind => "--" ++ kind.word

/-- The flag written as a letter. -/
def Flag.short : Flag → String
  | directory => "-d"
  | scope .workspace => "-w"
  | scope .environment => "-e"
  | scope .stack => "-s"

/-- The flag that a word names. -/
def Flag.ofWord? (word : String) : Option Flag :=
  all.find? fun flag => flag.long == word || flag.short == word

/-- Why a request cannot be understood. -/
inductive Error where
  | unknownCommand (word : String)
  | unknownFlag (word : String)
  | missingValue (flag : Flag)
  | duplicateFlag (flag : Flag)
  | exclusiveFlags
  | unexpectedArgument (word : String)
deriving DecidableEq, Repr

/-- What is said about such a request. -/
def Error.message : Error → String
  | unknownCommand word => "unknown command " ++ Text.quoted word ++ " for \"/turnip\""
  | unknownFlag word => "unknown flag " ++ word
  | missingValue flag => "flag needs an argument: " ++ flag.long
  | duplicateFlag flag => "flag " ++ flag.long ++ " given more than once"
  | exclusiveFlags => "only one of --workspace, --environment or --stack may be set"
  | unexpectedArgument word => "unexpected argument " ++ Text.quoted word

/-- A request to run a command, for the projects in a directory, with a workspace of
one kind, or both. -/
structure Run where
  command : Command
  directory : Option String := none
  scope : Option (WorkspaceKind × String) := none
deriving DecidableEq, Repr

/-- Whether a request is for a project. A workspace is one of the project's only if the
project's tool has workspaces of that kind. -/
def Run.selects (r : Run) (p : Project) : Bool :=
  (match r.directory with
    | some dir => p.dir == dir
    | none => true)
  && match r.scope with
    | some (kind, value) => p.tool.workspaceKind == kind && p.workspaceKey == value
    | none => true

/-- A request. -/
inductive Request where
  | help
  | run (r : Run)
deriving DecidableEq, Repr

/-- A request with one more flag. -/
def Run.set (r : Run) (flag : Flag) (value : String) : Except Error Run :=
  match flag with
  | .directory =>
    if r.directory.isSome then .error (.duplicateFlag flag)
    else .ok { r with directory := some value }
  | .scope kind =>
    match r.scope with
    | none => .ok { r with scope := some (kind, value) }
    | some (given, _) => .error (if given = kind then .duplicateFlag flag else .exclusiveFlags)

/-- A word cut at its first equals sign. -/
def flagParts (word : String) : String × Option String :=
  match Text.splitFirst? '=' word.toList with
  | some (flag, value) => (String.ofList flag, some (String.ofList value))
  | none => (word, none)

/-- Whether a word asks for help. -/
def isHelpFlag (word : String) : Bool :=
  word == "-h" || word == "--help"

/-- Reads the words after the command. -/
def parseFlags (r : Run) : List String → Except Error Request
  | [] => .ok (.run r)
  | word :: rest =>
    -- Whoever asks for help anywhere gets it, unless a fault comes before.
    if isHelpFlag word then .ok .help
    else if word.toList.head? ≠ some '-' then .error (.unexpectedArgument word)
    else
      let (name, inline) := flagParts word
      match Flag.ofWord? name, inline, rest with
      | none, _, _ => .error (.unknownFlag name)
      | some flag, some value, rest => do parseFlags (← r.set flag value) rest
      | some flag, none, [] => .error (.missingValue flag)
      | some flag, none, value :: rest => do parseFlags (← r.set flag value) rest

/-- Reads the words of a line. `none` if they are not addressed to the bot. -/
def parseWords : List String → Except Error (Option Request)
  | [] => .ok none
  | first :: rest =>
    if first ≠ trigger then .ok none
    else match rest with
      | [] => .ok (some .help)
      | word :: rest =>
        if word = "help" || isHelpFlag word then .ok (some .help)
        else match Command.ofWord? word with
          | none => .error (.unknownCommand word)
          | some command => (parseFlags { command } rest).map some

/-- Reads a comment. Only its first line counts. `none` if it is not addressed to the
bot. -/
def parse (body : String) : Except Error (Option Request) :=
  parseWords ((Text.words (Text.firstLine body.toList)).map String.ofList)

end Groundwork.Chat

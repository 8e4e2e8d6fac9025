/-
The words of the command line. Options stand before paths: from the first path on, and
after `--`, every word is one. An option's value is the next word, or what stands behind
an equals sign or directly behind a short name.
-/
import Groundwork.Cli.Help

set_option autoImplicit false

namespace Groundwork.Cli

/-- Why the words of a command line make no sense. -/
inductive Error where
  | unknown (word : String)
  | missingValue (option : String)
  | repeated (option : String)
  | optionAfterHelp
  | noCommand
deriving DecidableEq, Repr

/-- What is said about it. -/
def Error.message : Error → String
  | unknown word => "Unrecognized argument: " ++ word
  | missingValue option => "Option '" ++ option ++ "' requires a value."
  | repeated option => "Option '" ++ option ++ "' cannot be used multiple times."
  | optionAfterHelp => "Trailing options are not allowed after `--help`."
  | noCommand =>
    "One of the following subcommands must be present:"
      ++ String.join (Verb.all.map fun v => "\n    " ++ v.name)

/-- What is asked for. -/
structure Plan where
  verb : Verb
  /-- The file with the configuration, if it is not the usual one. -/
  config : Option String := none
  explicit : Bool := false
  paths : List String := []
deriving DecidableEq, Repr

/-- What the words of a command line ask for. -/
inductive Wish where
  /-- The help on a command or, without one, on the program. -/
  | help (verb : Option Verb)
  | run (plan : Plan)
deriving DecidableEq, Repr

/-! ## Options -/

/-- An option as it is written. -/
inductive Flag where
  | explicit
  /-- The file, and the name by which the option goes; no value if it is the next word. -/
  | config (name : String) (value : Option String)

/-- A word without a given start, if it has it. -/
def dropStart? (start word : String) : Option String :=
  if start.toList.isPrefixOf word.toList then some (String.ofList (word.toList.drop start.length))
  else none

/-- The option that a word is. -/
def option? (v : Verb) (word : String) : Option Flag :=
  if word = "--explicit" then if v = .matchPaths then some .explicit else none
  else if word = "-c" ∨ word = "--config" then some (.config word none)
  else match dropStart? "--config=" word with
    | some value => some (.config "--config" (some value))
    | none => (dropStart? "-c" word).map fun value => .config "-c" (some value)

/-- A plan with the file given. -/
def Plan.withConfig (p : Plan) (name value : String) : Except Error Plan :=
  if p.config.isSome then .error (.repeated name) else .ok { p with config := some value }

/-- A plan with the words that are left, all of which are paths. -/
def Plan.withPaths (p : Plan) (words : List String) : Except Error Plan :=
  match p.verb, words with
  | .matchPaths, words => .ok { p with paths := words }
  | .validate, [] => .ok p
  | .validate, word :: _ => .error (.unknown word)

/-- Whether a word asks for help. -/
def isHelp (word : String) : Bool :=
  word == "--help" || word == "-h"

/-- Whether a word is written as an option. -/
def isDashed (word : String) : Bool :=
  word.toList.head? == some '-'

/-- What a command and the words after it ask for; `help` says that help was asked for. -/
def parseOptions (help : Bool) (p : Plan) : List String → Except Error Wish
  | [] => .ok (if help then .help (some p.verb) else .run p)
  | word :: rest =>
    if isHelp word then parseOptions true p rest
    else if word = "--" then do
      let p ← p.withPaths rest
      return if help then .help (some p.verb) else .run p
    else if isDashed word then
      if help then .error .optionAfterHelp
      else match option? p.verb word, rest with
        | none, _ => .error (.unknown word)
        | some .explicit, rest => parseOptions help { p with explicit := true } rest
        | some (.config name (some value)), rest => do
          parseOptions help (← p.withConfig name value) rest
        | some (.config name none), value :: rest => do
          parseOptions help (← p.withConfig name value) rest
        | some (.config name none), [] => .error (.missingValue name)
    else do
      let p ← p.withPaths (word :: rest)
      return if help then .help (some p.verb) else .run p

/-- What the words of a command line ask for; `help` says that help was asked for, and
`optionsOpen` that options may still come. -/
def parseFrom (help optionsOpen : Bool) : List String → Except Error Wish
  | [] => if help then .ok (.help none) else .error .noCommand
  | word :: rest =>
    if optionsOpen && isHelp word then parseFrom true optionsOpen rest
    else if optionsOpen && word = "--" then parseFrom help false rest
    else if optionsOpen && isDashed word then .error (if help then .optionAfterHelp else .unknown word)
    else match Verb.all.find? (·.name = word) with
      | some verb => parseOptions help { verb } rest
      | none => .error (.unknown word)

/-- What the words of a command line ask for. -/
def parse (words : List String) : Except Error Wish :=
  parseFrom false true words

end Groundwork.Cli

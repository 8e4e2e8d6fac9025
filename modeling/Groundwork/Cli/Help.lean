/-
What the command line tells about itself. Descriptions stand in one column, behind the
longest of the names.
-/
set_option autoImplicit false

namespace Groundwork.Cli

/-- The name of the program. -/
def programName : String := "turnip-cli"

/-- The commands of the command line. -/
inductive Verb where
  /-- Check a configuration and list its projects. -/
  | validate
  /-- List the projects that changes would trigger. -/
  | matchPaths
deriving DecidableEq, Repr

namespace Verb

/-- Both commands, in the order in which they are listed. -/
def all : List Verb := [validate, matchPaths]

/-- The name of a command. -/
def name : Verb → String
  | validate => "validate"
  | matchPaths => "match"

/-- What a command does. -/
def purpose : Verb → String
  | validate => "Load and validate a turnip.yaml, then print its projects."
  | matchPaths => "Print the projects a set of changed paths would trigger."

/-- How a command is used, after its name. -/
def usage : Verb → String
  | validate => "[-c <config>]"
  | matchPaths => "[-c <config>] [--explicit] [paths...]"

/-- The options of a command, with what they do. -/
def options : Verb → List (String × String)
  | validate => [("-c, --config <config>", "config file (default: turnip.yaml)")]
  | matchPaths => [
      ("-c, --config <config>", "config file (default: turnip.yaml)"),
      ("    --explicit", "match as a chat command would, ignoring auto-plot flags")]

end Verb

/-- The option that all commands have. -/
def helpOption : String × String := ("-h, --help", "Show this help message and exit.")

/-- The width of the longest name. -/
def columnWidth (entries : List (String × String)) : Nat :=
  (entries.map (·.1.length)).foldl max 0

/-- A name and its description on a line, the description in its column. -/
def entryLine (width : Nat) (entry : String × String) : String :=
  "  " ++ entry.1 ++ String.ofList (List.replicate (width - entry.1.length) ' ') ++ "  " ++ entry.2 ++ "\n"

/-- A list of names and descriptions under a title. -/
def listing (width : Nat) (title : String) (entries : List (String × String)) : String :=
  title ++ ":\n" ++ String.join (entries.map (entryLine width))

/-- The help on a command. -/
def verbHelp (v : Verb) : String :=
  let options := v.options ++ [helpOption]
  "Usage: " ++ programName ++ " " ++ v.name ++ " " ++ v.usage ++ "\n\n" ++ v.purpose ++ "\n\n"
    ++ listing (columnWidth options) "Options" options

/-- The help on the program. -/
def programHelp : String :=
  let commands := Verb.all.map fun v => (v.name, v.purpose)
  let width := columnWidth (helpOption :: commands)
  "Usage: " ++ programName ++ " <command> [<args>]\n\nOffline tools for turnip.yaml.\n\n"
    ++ listing width "Options" [helpOption] ++ "\n" ++ listing width "Commands" commands

end Groundwork.Cli
